/-
# Reading

Which texts a parser reads.  A parser reads a language if it hands on what it consumes and all that
it consumes are words of the language; sequence, choice and repetition of parsers read products,
sums and iterations.  A function that is applied to the one value of such a parser is applied to a
word of the language, and the parse halts only where the function cannot be applied.
-/
import Mathlib.Computability.Language
import TokenGrammar.Proofs.Totality

namespace TokenGrammar

/-- A part of a part is found in it. -/
theorem extract_infix_extract {α : Type} (cs : Array α) {i j k l : Nat} (hik : i ≤ k)
    (hkl : k ≤ l) (hlj : l ≤ j) : (cs.extract k l).toList <:+: (cs.extract i j).toList := by
  refine ⟨(cs.extract i k).toList, (cs.extract l j).toList, ?_⟩
  have happend : cs.extract i k ++ cs.extract k l ++ cs.extract l j = cs.extract i j := by
    rw [Array.extract_append_extract, Nat.min_eq_left hik, Nat.max_eq_right hkl,
      Array.extract_append_extract, Nat.min_eq_left (Nat.le_trans hik hkl), Nat.max_eq_right hlj]
  rw [← happend, Array.toList_append, Array.toList_append]

/-- On a text, the values of a success spell what it consumes, which is a word of `L`.  Inside `top`
the parser halts for a reason in `E` only. -/
structure Parser.Reads (p : Parser) (E : Halt → Prop) (top : Span) (L : Language Char) : Prop
    extends p.Spells where
  haltsOnly : p.HaltsOnly E top
  mem : ∀ {cs r x s}, r.source.content = .text cs → p.Succeeds r x s →
    (cs.extract r.start s.start).toList ∈ L

/-- A success is a single value besides, the word that it consumes. -/
structure Parser.Lexes (p : Parser) (E : Halt → Prop) (top : Span) (L : Language Char) : Prop
    extends p.Reads E top L where
  eq_single : ∀ {cs r x s}, r.source.content = .text cs → p.Succeeds r x s →
    x = .single (.value (.text (cs.extract r.start s.start).toList) s)

namespace Parser

variable {p q : Parser} {E : Halt → Prop} {top : Span} {L M : Language Char}

/-! ## Single characters and nothing -/

/-- The characters that a test accepts, as texts. -/
def accepted (accepts : Datum → Except Fault Bool) : Language Char :=
  {w | ∃ c, w = [c] ∧ accepts (Datum.char c) = .ok true}

/-- A success on a single token consumes it and produces it. -/
theorem Succeeds.exists_char {accepts : Datum → Except Fault Bool} {description : String}
    {cs : Array Char} {r s : Span} {x : Results} (hr : r.source.content = .text cs)
    (h : (satisfy accepts description).Succeeds r x s) :
    ∃ c, accepts (Datum.char c) = .ok true ∧ (cs.extract r.start s.start).toList = [c] ∧
      x = .single (.value (Datum.char c) s) := by
  obtain ⟨t, ht, ha, hs, rfl⟩ := h.of_satisfy
  obtain ⟨hsize, hhead⟩ := Span.exists_head_eq_char hr (Span.start_lt_stop_of_head ht)
  cases hhead.symm.trans ht
  have hspelled : Spelled cs r s [Datum.char cs[r.start]] := .of_head hr hhead hs
  have htext : (cs.extract r.start s.start).toList = [cs[r.start]] :=
    Option.some.inj (hspelled.spelled?_eq.symm.trans (Datum.spelled?_text [cs[r.start]]))
  exact ⟨cs[r.start], ha, htext, rfl⟩

/-- One token on which the test always answers is one character. -/
theorem lexes_satisfy {cs : Array Char} (htop : top.source.content = .text cs)
    {accepts : Datum → Except Fault Bool} {description : String}
    (h : ∀ c, ∃ b, accepts (Datum.char c) = .ok b) :
    (satisfy accepts description).Lexes E top (accepted accepts) where
  toSpells := spells_satisfy accepts description
  haltsOnly := haltsOnly_satisfy htop h
  mem := by
    intro cs r x s hr hx
    obtain ⟨c, ha, htext, -⟩ := hx.exists_char hr
    exact ⟨c, htext, ha⟩
  eq_single := by
    intro cs r x s hr hx
    obtain ⟨c, -, htext, rfl⟩ := hx.exists_char hr
    rw [htext]
    rfl

/-- The empty text on the spot. -/
theorem reads_succeed_nil : (succeed (.text [])).Reads E top 1 where
  toSpells := spells_succeed_nil
  haltsOnly := haltsOnly_succeed (.text [])
  mem := by
    intro cs r x s hr hx
    obtain ⟨rfl, -⟩ := hx.of_succeed
    exact Option.some.inj (Spelled.nil cs s).spelled?_eq.symm

/-! ## Sequence, choice and repetition -/

namespace Reads

/-- What reads a language reads a larger one. -/
theorem mono (hp : p.Reads E top L) (h : ∀ w ∈ L, w ∈ M) : p.Reads E top M :=
  ⟨hp.toSpells, hp.haltsOnly, fun hr hx => h _ (hp.mem hr hx)⟩

theorem describe (hp : p.Reads E top L) (description : Option String) :
    (p.describe description).Reads E top L :=
  ⟨hp.toSpells.describe description, hp.haltsOnly.describe description,
    fun hr hx => hp.mem hr hx.of_describe⟩

/-- A sequence reads texts of one language followed by texts of another. -/
theorem andThen (hp : p.Reads E top L) (hq : q.Reads E top M) :
    (p.andThen q).Reads E top (L * M) where
  toSpells := hp.toSpells.andThen hq.toSpells
  haltsOnly := hp.haltsOnly.andThen hq.haltsOnly
  mem := by
    intro cs r x s hr hx
    obtain ⟨left, t, right, hleft, hright, -⟩ := hx.of_andThen
    have hrt : Spelled cs r t left.values := hp.spelled hr hleft
    have ht : t.source.content = .text cs := hrt.within.content_eq hr
    rw [← hrt.toList_append (hq.spelled ht hright)]
    exact Language.append_mem_mul (hp.mem hr hleft) (hq.mem ht hright)

/-- A choice reads the texts of two languages. -/
theorem orElse (hp : p.Reads E top L) (hq : q.Reads E top M) :
    (p.orElse q).Reads E top (L + M) where
  toSpells := hp.toSpells.orElse hq.toSpells
  haltsOnly := hp.haltsOnly.orElse hq.haltsOnly
  mem := by
    intro cs r x s hr hx
    rcases hx.of_orElse with hx | hx
    · exact Or.inl (hp.mem hr hx)
    · exact Or.inr (hq.mem hr hx)

/-- A parser or a default. -/
theorem optional (hp : p.Reads E top L) (hq : q.Reads E top M) :
    (p.optional q).Reads E top (L + M) :=
  (hp.orElse hq).describe _

/-- Successes one after the other read an iteration. -/
theorem repeats (hp : p.Reads E top L) {cs : Array Char} {s u : Span} {os : List Outcome}
    (hs : s.source.content = .text cs) (h : p.Repeats s os u) :
    (cs.extract s.start u.start).toList ∈ KStar.kstar L := by
  induction h with
  | stop s =>
    rw [← Option.some.inj (Spelled.nil cs s).spelled?_eq]
    exact Language.nil_mem_kstar L
  | step hx _ hrest ih =>
    have hfirst := hp.spelled hs hx
    have ht := hfirst.within.content_eq hs
    rw [← hfirst.toList_append (hp.toSpells.repeats ht hrest)]
    exact Set.mem_of_mem_of_subset (Language.append_mem_mul (hp.mem hs hx) (ih ht))
      (mul_kstar_le_kstar (a := L))

/-- A repetition reads one or more texts of a language. -/
theorem oneOrMore (hp : p.Reads E top L) (cap : Int) (bound : Option Bound) :
    (p.oneOrMore cap bound).Reads E top (L * KStar.kstar L) where
  toSpells := hp.toSpells.oneOrMore cap bound
  haltsOnly := hp.haltsOnly.oneOrMore cap bound
  mem := by
    intro cs r x s hr hx
    obtain ⟨y, t, os, hy, hos, -⟩ := hx.of_oneOrMore
    have hrt : Spelled cs r t y.values := hp.spelled hr hy
    have ht : t.source.content = .text cs := hrt.within.content_eq hr
    rw [← hrt.toList_append (hp.toSpells.repeats ht hos)]
    exact Language.append_mem_mul (hp.mem hr hy) (hp.repeats ht hos)

/-! ## Single words -/

/-- The sum of the values is one text, which is read as their texts were. -/
theorem reduce [Monoids] (hp : p.Reads E top L) {cs : Array Char}
    (htop : top.source.content = .text cs) : p.reduce.Reads E top L where
  toSpells := hp.toSpells.reduce
  haltsOnly := hp.haltsOnly.reduce hp.toSpells htop
  mem := by
    intro cs r x s hr hx
    obtain ⟨y, hy, -⟩ := hx.of_fold
    exact hp.mem hr hy

/-- Values that are joined are one value, unless there are none. -/
theorem lexes_reduce [Monoids] (hp : p.Reads E top L) {cs : Array Char}
    (htop : top.source.content = .text cs) (hnil : [] ∉ L) : p.reduce.Lexes E top L := by
  refine ⟨hp.reduce htop, fun {cs r x s} hr h => ?_⟩
  obtain ⟨y, hy, hx⟩ := h.of_fold
  have hspelled : Spelled cs r s y.values := hp.spelled hr hy
  have hvalues : y.values ≠ [] := by
    intro hempty
    have htext := hspelled.spelled?_eq
    rw [hempty] at htext
    exact hnil (Option.some.inj htext ▸ hp.mem hr hy)
  rcases hx with ⟨hempty, -⟩ | ⟨v, hv, rfl⟩
  · exact absurd hempty hvalues
  · cases (Datum.combine_of_spelled? hspelled.spelled?_eq hvalues).symm.trans hv
    rfl

end Reads

namespace Lexes

/-- What yields a language yields a larger one. -/
theorem mono (hp : p.Lexes E top L) (h : ∀ w ∈ L, w ∈ M) : p.Lexes E top M :=
  ⟨hp.toReads.mono h, hp.eq_single⟩

theorem describe (hp : p.Lexes E top L) (description : Option String) :
    (p.describe description).Lexes E top L :=
  ⟨hp.toReads.describe description, fun hr h => hp.eq_single hr h.of_describe⟩

/-- A choice yields the texts of two languages. -/
theorem orElse (hp : p.Lexes E top L) (hq : q.Lexes E top M) :
    (p.orElse q).Lexes E top (L + M) := by
  refine ⟨hp.toReads.orElse hq.toReads, fun hr h => ?_⟩
  rcases h.of_orElse with h | h
  · exact hp.eq_single hr h
  · exact hq.eq_single hr h

end Lexes

/-! ## Functions of words -/

/-- A function is applied to a single value. -/
theorem map_single (f : Datum → Except Fault Datum) (d : Datum) (s : Span) :
    (Results.single (.value d s)).map f
      = Run.ofFault (Fault.enclose (f d)) >>= fun v => pure (.single (.value v s)) := by
  simp only [Results.map, Results.mapM, Results.single, Outcome.mapM, Run.bind_assoc,
    Run.pure_bind, List.mapM_nil]

namespace Lexes

variable {cs : Array Char} {f : Datum → Except Fault Datum}

/-- A function of words halts only on the words in view that it cannot be applied to. -/
theorem haltsOnly_lift (hp : p.Lexes E top L) (htop : top.source.content = .text cs)
    (hf : ∀ w ∈ L, w <:+: (cs.extract top.start top.stop).toList → ∀ cause,
      f (.text w) = .error cause → E (.fault cause.enclosed)) : (p.lift f).HaltsOnly E top := by
  intro r hr
  refine (hp.haltsOnly r hr).bind fun x hres hx => ?_
  cases hsuc : x.isSuccess with
  | false =>
    -- a lone failure has no value
    obtain ⟨head, tail⟩ := x
    obtain rfl : tail = [] := hx.tail_eq_nil hsuc
    cases head with
    | failure f => exact Run.meets_pure (Results.regular_fail f)
    | _ => cases hsuc
  | true =>
    obtain ⟨s, hs⟩ := exists_succeeds hres hsuc
    have hrtext : r.source.content = .text cs := hr.content_eq htop
    have hw : s.Within top := hx.within s hs.remaining_eq
    have hle : r.start ≤ s.start := (hp.spelled hrtext hs).within.start_le
    have hin : (cs.extract r.start s.start).toList <:+: (cs.extract top.start top.stop).toList :=
      extract_infix_extract cs hr.start_le hle hw.start_le_stop
    rw [hp.eq_single hrtext hs, map_single]
    cases hword : f (.text (cs.extract r.start s.start).toList) with
    | ok v => exact Run.meets_pure (Results.regular_value v hw)
    | error cause => exact hf _ (hp.mem hrtext hs) hin cause hword

/-- A parse goes on from a word exactly if the function can be applied to it. -/
theorem exists_result_lift_iff (hp : p.Lexes E top L) {r s : Span} {x : Results}
    (hr : r.source.content = .text cs) (hx : p.Succeeds r x s) :
    (∃ y, ((p.lift f).parse r).result = .ok y) ↔
      ∃ v, f (.text (cs.extract r.start s.start).toList) = .ok v := by
  rw [hx.result_lift f, hp.eq_single hr hx, map_single]
  cases f (.text (cs.extract r.start s.start).toList) with
  | ok v => exact ⟨fun _ => ⟨v, rfl⟩, fun _ => ⟨_, rfl⟩⟩
  | error cause =>
    constructor
    · rintro ⟨_, h⟩
      cases h
    · rintro ⟨_, h⟩
      cases h

end Lexes

end Parser

end TokenGrammar
