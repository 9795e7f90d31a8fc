/-
# Totality

Parsers that give results wherever they are applied, except for reasons to halt that are known in
advance.  Without `bind` a parser that fails gives a lone failure, so that the functions applied to
values never meet the values of a failed parse.
-/
import TokenGrammar.Proofs.Spelling

namespace TokenGrammar

/-! ## Runs -/

/-- The run ends with a result in `Q` or halts for a reason in `E`. -/
def Run.Meets {α : Type} (E : Halt → Prop) (Q : α → Prop) (x : Run α) : Prop :=
  match x.result with
  | .ok a => Q a
  | .error e => E e

namespace Run

variable {α β : Type} {E : Halt → Prop} {Q : α → Prop} {R : β → Prop} {x : Run α}

/-- A run that only gives a result. -/
theorem meets_pure {a : α} (h : Q a) : (pure a : Run α).Meets E Q := h

/-- A computation that fails in allowed ways only. -/
theorem meets_ofFault {c : Except Fault α} (h : ∀ cause, c = .error cause → E (.fault cause)) :
    (ofFault c).Meets E fun _ => True := by
  cases c with
  | ok a => exact meets_pure trivial
  | error cause => exact h cause rfl

/-- A note changes nothing. -/
theorem Meets.note (hx : x.Meets E Q) (n : Notice) : (note n >>= fun _ => x).Meets E Q := hx

/-- A run that meets a condition gives such a result or halts in an allowed way. -/
theorem Meets.ok_or_error (hx : x.Meets E Q) :
    (∃ a, x.result = .ok a ∧ Q a) ∨ ∃ e, x.result = .error e ∧ E e := by
  rw [Meets] at hx
  cases hres : x.result with
  | ok a =>
    rw [hres] at hx
    exact Or.inl ⟨a, rfl, hx⟩
  | error e =>
    rw [hres] at hx
    exact Or.inr ⟨e, rfl, hx⟩

/-- The condition on results may be weakened. -/
theorem Meets.mono {Q' : α → Prop} (hx : x.Meets E Q) (h : ∀ a, Q a → Q' a) : x.Meets E Q' := by
  rw [Meets] at hx ⊢
  split
  · next a hres =>
    rw [hres] at hx
    exact h a hx
  · next e hres =>
    rw [hres] at hx
    exact hx

/-- A run that goes on meets what all its continuations meet. -/
theorem Meets.bind {f : α → Run β} (hx : x.Meets E Q)
    (hf : ∀ a, x.result = .ok a → Q a → (f a).Meets E R) : (x >>= f).Meets E R := by
  rcases hx.ok_or_error with ⟨a, hres, ha⟩ | ⟨e, hres, he⟩
  · rw [bind_of_ok hres]
    exact hf a hres ha
  · rw [bind_of_error hres]
    exact he

end Run

/-! ## Results -/

/-- A lone failure, or a success that goes on inside `top`. -/
structure Results.Regular (top : Span) (x : Results) : Prop where
  tail_eq_nil : x.isSuccess = false → x.tail = []
  within : ∀ s, x.remaining = some s → s.Within top

namespace Results

variable {top s : Span} {x y : Results}

/-- A single failure is regular. -/
theorem regular_fail (f : Failure) : (fail f).Regular top :=
  ⟨fun _ => rfl, nofun⟩

/-- A value is regular if it leaves a window inside. -/
theorem regular_value (v : Datum) (hs : s.Within top) : (single (.value v s)).Regular top := by
  refine ⟨nofun, ?_⟩
  rintro _ ⟨⟩
  exact hs

/-- A success without a value is regular if it leaves a window inside. -/
theorem regular_empty (hs : s.Within top) : (single (.empty s)).Regular top := by
  refine ⟨nofun, ?_⟩
  rintro _ ⟨⟩
  exact hs

/-- A success leads to a window inside `top`. -/
theorem Regular.exists_remaining (hx : x.Regular top) (hsuc : x.isSuccess = true) :
    ∃ s, x.remaining = some s ∧ s.Within top := by
  obtain ⟨s, hs⟩ := exists_remaining_of_success hsuc
  exact ⟨s, hs, hx.within s hs⟩

/-- Outcomes may be added to a success as long as they lead to windows inside `top`. -/
theorem Regular.extend (hx : x.Regular top) (hsuc : x.isSuccess = true) {more : List Outcome}
    (hmore : ∀ s, lastRest? more = some s → s.Within top) : (x.extend more).Regular top := by
  refine ⟨fun h => ?_, fun s hs => ?_⟩
  · cases hsuc.symm.trans h
  · rw [remaining, toList_extend, lastRest?_append] at hs
    cases hlast : lastRest? more with
    | none =>
      rw [hlast] at hs
      exact hx.within s hs
    | some t =>
      rw [hlast] at hs
      exact Option.some.inj hs ▸ hmore t hlast

/-- Regular results that fail are final, and others are gone on from inside `top`. -/
theorem Regular.proceed {E : Halt → Prop} {k : Span → Run Results} (hx : x.Regular top)
    (hk : ∀ s, x.isSuccess = true → x.remaining = some s → s.Within top →
      (k s).Meets E (Regular top)) : (x.proceed k).Meets E (Regular top) := by
  cases hsuc : x.isSuccess with
  | false =>
    rw [proceed_of_failure hsuc]
    exact Run.meets_pure hx
  | true =>
    obtain ⟨s, hs, hw⟩ := hx.exists_remaining hsuc
    rw [proceed_of_success hsuc hs]
    exact hk s hsuc hs hw

end Results

/-! ## Parsers -/

/-- Applied inside `top`, the parser gives regular results or halts for a reason in `E`. -/
def Parser.HaltsOnly (E : Halt → Prop) (top : Span) (p : Parser) : Prop :=
  ∀ r, r.Within top → (p.parse r).Meets E (Results.Regular top)

namespace Parser

open Results (regular_fail regular_value regular_empty)

variable {E : Halt → Prop} {top : Span} {p q : Parser}

/-! ### Primitive parsers -/

/-- On a text, it is enough that the single characters can be tested. -/
theorem haltsOnly_satisfy {cs : Array Char} (htop : top.source.content = .text cs)
    {accepts : Datum → Except Fault Bool} {description : String}
    (h : ∀ c, ∃ b, accepts (Datum.char c) = .ok b) :
    (satisfy accepts description).HaltsOnly E top := by
  intro r hr
  simp only [satisfy]
  cases he : r.isEmpty with
  | true => exact Run.meets_pure (regular_fail _)
  | false =>
    obtain ⟨_, hhead⟩ := Span.exists_head_eq_char (hr.content_eq htop) (Span.start_lt_stop he)
    obtain ⟨b, hb⟩ := h cs[r.start]
    have htail : r.tail 1 = .ok (r.drop 1 (Span.one_le_length he)) :=
      Span.tail_ofNat r 1 (Span.one_le_length he)
    simp only [Bool.false_eq_true, if_false, hhead, hb, htail, Run.ofSpan_ok, Run.ofFault_ok,
      Run.pure_bind]
    cases b with
    | true => exact Run.meets_pure (regular_value _ (hr.drop 1 _))
    | false => exact Run.meets_pure (regular_fail _)

/-- The parser that gives a value does not halt. -/
theorem haltsOnly_succeed (v : Datum) : (succeed v).HaltsOnly E top :=
  fun _ hr => Run.meets_pure (regular_value v hr)

/-- The parser that gives no value does not halt. -/
theorem haltsOnly_empty : empty.HaltsOnly E top :=
  fun _ hr => Run.meets_pure (regular_empty hr)

/-- On a text, the failure in front of the end shows a character. -/
theorem haltsOnly_done {cs : Array Char} (htop : top.source.content = .text cs) :
    done.HaltsOnly E top := by
  intro r hr
  simp only [done]
  cases he : r.isEmpty with
  | true => exact Run.meets_pure (regular_empty hr)
  | false =>
    obtain ⟨_, hhead⟩ := Span.exists_head_eq_char (hr.content_eq htop) (Span.start_lt_stop he)
    have hchar : (Datum.char cs[r.start]).writable = true := rfl
    simp only [Bool.false_eq_true, if_false, hhead, Run.ofSpan_ok, Run.pure_bind,
      Failure.unexpected_of_writable hchar, Run.ofFault_ok]
    exact Run.meets_pure (regular_fail _)

namespace HaltsOnly

theorem describe (hp : p.HaltsOnly E top) (description : Option String) :
    (p.describe description).HaltsOnly E top := hp

/-- A sequence halts only as its parsers do. -/
theorem andThen (hp : p.HaltsOnly E top) (hq : q.HaltsOnly E top) :
    (p.andThen q).HaltsOnly E top := by
  intro r hr
  refine (hp r hr).bind fun left _ hleft => hleft.proceed fun s hsuc _ hs => ?_
  refine (hq s hs).bind fun right _ hright => Run.meets_pure ?_
  split
  · next hrsuc =>
    exact hleft.extend hsuc hright.within
  · exact hright

/-- A choice halts only as its parsers do. -/
theorem orElse (hp : p.HaltsOnly E top) (hq : q.HaltsOnly E top) :
    (p.orElse q).HaltsOnly E top := by
  intro r hr
  refine (hp r hr).bind fun x _ hx => ?_
  split
  · exact Run.meets_pure hx
  · exact hq r hr

/-- Dropping values cannot halt. -/
theorem ignore (hp : p.HaltsOnly E top) : p.ignore.HaltsOnly E top := by
  intro r hr
  refine (hp r hr).bind fun x _ hx => hx.proceed fun s _ _ hs => ?_
  exact Run.meets_pure (regular_empty hs)

/-- A sequence that drops values halts only as its parsers do. -/
theorem ignoreLeft (hp : p.HaltsOnly E top) (hq : q.HaltsOnly E top) :
    (p.ignoreLeft q).HaltsOnly E top := by
  intro r hr
  exact (hp r hr).bind fun x _ hx => hx.proceed fun s _ _ hs => hq s hs

/-- Texts can be joined. -/
theorem reduce [Monoids] (hp : p.HaltsOnly E top) (hspells : p.Spells) {cs : Array Char}
    (htop : top.source.content = .text cs) : p.reduce.HaltsOnly E top := by
  intro r hr
  refine (hp r hr).bind fun x hres hx => hx.proceed fun s hsuc hrest hs => ?_
  have hspelled : Spelled cs r s x.values :=
    hspells.spelled (hr.content_eq htop) ⟨hres, hsuc, hrest⟩
  split
  · exact Run.meets_pure (regular_empty hs)
  · next hne =>
    have hvalues : x.values ≠ [] := by simpa using hne
    rw [Datum.combine_of_spelled? hspelled.spelled?_eq hvalues]
    exact Run.meets_pure (regular_value _ hs)

/-! ### Repetition -/

/-- Further applications halt only as the parser does. -/
theorem again (hp : p.HaltsOnly E top) (room : Nat) {s : Span} (hs : s.Within top) :
    (p.again room s).Meets E fun y => ∀ t, Results.lastRest? y.1 = some t → t.Within top := by
  induction room generalizing s with
  | zero => exact Run.meets_pure nofun
  | succ room ih =>
    refine (hp s hs).bind fun x _ hx => ?_
    cases hsuc : x.isSuccess with
    | false => exact Run.meets_pure nofun
    | true =>
      obtain ⟨t, ht, hw⟩ := hx.exists_remaining hsuc
      simp only [ht, if_true]
      split
      · exact (Run.meets_pure nofun).note _
      · refine (ih hw).bind fun y _ hy => Run.meets_pure ?_
        exact (hx.extend hsuc hy).within

/-- A repetition that goes on from results halts only as the parser does. -/
theorem repeatFrom (hp : p.HaltsOnly E top) {x : Results} (hx : x.Regular top)
    (hsuc : x.isSuccess = true) (limit : Nat) :
    (p.repeatFrom x limit).Meets E fun y => y.1.Regular top ∧ y.1.isSuccess = true := by
  obtain ⟨s, hs, hw⟩ := hx.exists_remaining hsuc
  rw [repeatFrom_eq_again hs]
  refine (hp.again _ hw).bind fun y _ hy => Run.meets_pure ?_
  exact ⟨hx.extend hsuc hy, hsuc⟩

/-- The same without a bound. -/
theorem repeatFreely (hp : p.HaltsOnly E top) {x : Results} (hx : x.Regular top)
    (hsuc : x.isSuccess = true) (cap : Int) :
    (p.repeatFreely cap x).Meets E (Results.Regular top) := by
  refine (hp.repeatFrom hx hsuc cap.toNat).bind fun y _ hy => ?_
  obtain ⟨y, ended⟩ := y
  cases ended with
  | true => exact Run.meets_pure hy.1
  | false => exact (Run.meets_pure hy.1).note _

/-- The repetition that needs a match. -/
theorem oneOrMore (hp : p.HaltsOnly E top) (cap : Int) (bound : Option Bound) :
    (p.oneOrMore cap bound).HaltsOnly E top := by
  intro r hr
  refine (hp r hr).bind fun x _ hx => ?_
  cases hsuc : x.isSuccess with
  | false => exact Run.meets_pure (regular_fail _)
  | true =>
    cases bound with
    | none => exact hp.repeatFreely hx hsuc cap
    | some b =>
      exact (hp.repeatFrom hx hsuc b.limit).bind fun y _ hy => Run.meets_pure hy.1

/-- The repetition that can do without a match, when no bound calls for another look. -/
theorem zeroOrMore (hp : p.HaltsOnly E top) (cap : Int) :
    (p.zeroOrMore cap none).HaltsOnly E top := by
  intro r hr
  refine (hp r hr).bind fun x _ hx => ?_
  cases hsuc : x.isSuccess with
  | false => exact Run.meets_pure (regular_empty hr)
  | true => exact hp.repeatFreely hx hsuc cap

end HaltsOnly

end Parser

end TokenGrammar
