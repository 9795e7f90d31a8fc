/-
# Spelling

Grammars that hand on every character that they consume, and nothing else.  Whenever such a grammar
succeeds on a window of a text, its values, joined in order, are the text from the start of the
window up to the place where the parse goes on: no character is lost, repeated or moved.
-/
import TokenGrammar.Grammar.Leaves
import TokenGrammar.Proofs.Parts
import TokenGrammar.Proofs.Success

namespace TokenGrammar

/-! ## Texts one after the other -/

namespace Datum

/-- The characters of texts, one text after the other.  Other values spell nothing. -/
def spelled? : List Datum → Option (List Char)
  | [] => some []
  | .text cs :: ds => (spelled? ds).map (cs ++ ·)
  | _ :: _ => none

/-- A text spells itself. -/
theorem spelled?_text (cs : List Char) : spelled? [.text cs] = some cs := by
  rw [spelled?, spelled?, Option.map_some, List.append_nil]

/-- Characters spell the text that they make up. -/
theorem spelled?_map_char (w : List Char) : spelled? (w.map char) = some w := by
  induction w with
  | nil => rfl
  | cons c w ih =>
    rw [List.map_cons, char, spelled?, ih]
    rfl

/-- What begins a list that spells something is a text. -/
theorem exists_text_of_spelled? {d : Datum} {ds : List Datum} {w : List Char}
    (h : spelled? (d :: ds) = some w) :
    ∃ cs u, d = .text cs ∧ spelled? ds = some u ∧ w = cs ++ u := by
  cases d with
  | text cs =>
    obtain ⟨u, hu, rfl⟩ := Option.map_eq_some_iff.1 h
    exact ⟨cs, u, rfl, hu, rfl⟩
  | _ => cases h

/-- Lists one after the other spell their texts one after the other. -/
theorem spelled?_append {as bs : List Datum} {u v : List Char} (hu : spelled? as = some u)
    (hv : spelled? bs = some v) : spelled? (as ++ bs) = some (u ++ v) := by
  induction as generalizing u with
  | nil =>
    cases hu
    exact hv
  | cons a as ih =>
    obtain ⟨cs, w, rfl, hw, rfl⟩ := exists_text_of_spelled? hu
    rw [List.cons_append, spelled?, ih hw, Option.map_some, List.append_assoc]

/-- Adding texts to a text appends what they spell. -/
theorem foldlM_add_text {ds : List Datum} {w : List Char} (h : spelled? ds = some w)
    (cs : List Char) : ds.foldlM add (.text cs) = .ok (.text (cs ++ w)) := by
  induction ds generalizing cs w with
  | nil =>
    cases h
    rw [List.append_nil]
    rfl
  | cons d ds ih =>
    obtain ⟨ds', u, rfl, hu, rfl⟩ := exists_text_of_spelled? h
    rw [List.foldlM_cons, ← List.append_assoc]
    exact ih hu (cs ++ ds')

/-- Texts are combined to the text that they spell. -/
theorem combine_of_spelled? [Monoids] {ds : List Datum} {w : List Char} (h : spelled? ds = some w)
    (hne : ds ≠ []) : combine ds = .ok (.text w) := by
  cases ds with
  | nil => exact absurd rfl hne
  | cons d ds =>
    obtain ⟨cs, u, rfl, hu, rfl⟩ := exists_text_of_spelled? h
    exact foldlM_add_text hu cs

end Datum

/-! ## The text between two windows -/

/-- The items of a text are its characters. -/
theorem Content.get_of_eq_text {c : Content} {cs : Array Char} (hc : c = .text cs) {i : Nat}
    {h : i < c.size} (hi : i < cs.size) : c.get i h = Datum.char cs[i] := by
  subst hc
  rfl

/-- The head of a window on a text is a character. -/
theorem Span.exists_head_eq_char {r : Span} {cs : Array Char} (hr : r.source.content = .text cs)
    (hlt : r.start < r.stop) : ∃ h : r.start < cs.size, r.head = .ok (Datum.char cs[r.start]) := by
  have hstop : r.stop ≤ r.source.content.size := r.stop_le_size
  rw [hr] at hstop
  have hsize : r.start < cs.size := Nat.lt_of_lt_of_le hlt hstop
  refine ⟨hsize, ?_⟩
  rw [Span.head, dif_pos hlt, Content.get_of_eq_text hr hsize]

/-- The values spell the characters of `cs` between the start of `r` and that of `s`, which is
where `r` is gone on from. -/
structure Spelled (cs : Array Char) (r s : Span) (vs : List Datum) : Prop where
  within : s.Within r
  spelled?_eq : Datum.spelled? vs = some (cs.extract r.start s.start).toList

namespace Spelled

variable {cs : Array Char} {r s t : Span} {us vs : List Datum}

/-- No values spell the stretch from a window to itself. -/
theorem nil (cs : Array Char) (r : Span) : Spelled cs r r [] where
  within := .refl r
  spelled?_eq := by
    rw [Array.extract_eq_empty_of_le (Nat.min_le_left ..)]
    rfl

/-- The text up to a place and the text from there on. -/
theorem toList_append (hrt : Spelled cs r t us) (hts : Spelled cs t s vs) :
    (cs.extract r.start t.start).toList ++ (cs.extract t.start s.start).toList
      = (cs.extract r.start s.start).toList := by
  rw [← Array.toList_append, Array.extract_append_extract, Nat.min_eq_left hrt.within.start_le,
    Nat.max_eq_right hts.within.start_le]

/-- What is spelled up to a place and from there on. -/
theorem trans (hrt : Spelled cs r t us) (hts : Spelled cs t s vs) :
    Spelled cs r s (us ++ vs) where
  within := hts.within.trans hrt.within
  spelled?_eq := by
    rw [Datum.spelled?_append hrt.spelled?_eq hts.spelled?_eq, hrt.toList_append hts]

/-- The match of a number of characters in view. -/
theorem of_extract (hr : r.source.content = .text cs) {n : Nat} (hs : r.tail n = .ok s)
    (hn : n ≤ r.length) : Spelled cs r s [(r.view.extract 0 n).toDatum] := by
  rw [Span.tail_ofNat r n hn] at hs
  cases hs
  have hstop : min (r.start + n) r.stop = r.start + n := by
    have := r.start_le_stop
    rw [Span.length] at hn
    omega
  refine ⟨(Span.Within.refl r).drop n hn, ?_⟩
  rw [Span.view, Content.extract_extract, hr, hstop, Nat.add_zero, Span.start_drop]
  exact Datum.spelled?_text _

/-- The head of a window spells its first character. -/
theorem of_head (hr : r.source.content = .text cs) {d : Datum} (hd : r.head = .ok d)
    (hs : r.tail 1 = .ok s) : Spelled cs r s [d] := by
  have hlt : r.start < r.stop := Span.start_lt_stop_of_head hd
  obtain ⟨hsize, hhead⟩ := Span.exists_head_eq_char hr hlt
  cases hhead.symm.trans hd
  have hn : 1 ≤ r.length := by
    rw [Span.length]
    omega
  have htail : r.tail 1 = .ok (r.drop 1 hn) := Span.tail_ofNat r 1 hn
  cases htail.symm.trans hs
  refine ⟨(Span.Within.refl r).drop 1 hn, ?_⟩
  rw [Span.start_drop, Array.extract_succ_right (Nat.lt_succ_self r.start) hsize,
    Array.extract_eq_empty_of_le (Nat.min_le_left ..)]
  rfl

end Spelled

/-! ## Parsers that spell what they consume -/

/-- On a window of a text, the values of a success spell what it consumes. -/
structure Parser.Spells (p : Parser) : Prop where
  spelled : ∀ {cs r x s}, r.source.content = .text cs → p.Succeeds r x s →
    Spelled cs r s x.values

namespace Parser

variable {p q : Parser}

/-- One accepted token spells itself. -/
theorem spells_satisfy (accepts : Datum → Except Fault Bool) (description : String) :
    (satisfy accepts description).Spells := by
  refine ⟨fun {cs r x s} hr h => ?_⟩
  obtain ⟨t, ht, -, hs, rfl⟩ := h.of_satisfy
  exact .of_head hr ht hs

/-- A pattern spells what it has matched. -/
theorem spells_regex (pattern : Recogniser) (description : String) :
    (regex pattern description).Spells := by
  refine ⟨fun {cs r x s} hr h => ?_⟩
  obtain ⟨ds, n, hds, hmatch, hs, rfl⟩ := h.of_regex
  have hn : n ≤ r.length := by
    rw [← Span.size_view, ← Content.length_characters hds]
    exact pattern.matchLength?_le hmatch
  exact .of_extract hr hs hn

/-- No value spells nothing. -/
theorem spells_empty : empty.Spells := by
  refine ⟨fun {cs r x s} hr h => ?_⟩
  obtain ⟨rfl, rfl⟩ := h.of_empty
  exact .nil cs s

/-- The end of the input spells nothing. -/
theorem spells_done : done.Spells := by
  refine ⟨fun {cs r x s} hr h => ?_⟩
  obtain ⟨rfl, rfl⟩ := h.of_done
  exact .nil cs s

/-- An empty text may stand for what is absent. -/
theorem spells_succeed_nil : (succeed (.text [])).Spells := by
  refine ⟨fun {cs r x s} hr h => ?_⟩
  obtain ⟨rfl, rfl⟩ := h.of_succeed
  exact ⟨.refl s, (Spelled.nil cs s).spelled?_eq⟩

/-- A parser that never succeeds has nothing to spell. -/
theorem spells_zero (f : Failure) : (zero f).Spells := by
  refine ⟨fun {cs r x s} hr h => ?_⟩
  exact absurd h not_succeeds_zero

/-- A parser that always halts has nothing to spell. -/
theorem spells_halt (e : Halt) : (halt e).Spells := by
  refine ⟨fun {cs r x s} hr h => ?_⟩
  exact absurd h not_succeeds_halt

namespace Spells

theorem describe (hp : p.Spells) (description : Option String) :
    (p.describe description).Spells := by
  refine ⟨fun {cs r x s} hr h => ?_⟩
  exact hp.spelled hr h.of_describe

/-- What two parsers spell follows one after the other. -/
theorem andThen (hp : p.Spells) (hq : q.Spells) : (p.andThen q).Spells := by
  refine ⟨fun {cs r x s} hr h => ?_⟩
  obtain ⟨left, t, right, hleft, hright, rfl⟩ := h.of_andThen
  have hrt : Spelled cs r t left.values := hp.spelled hr hleft
  have hts : Spelled cs t s right.values := hq.spelled (hrt.within.content_eq hr) hright
  rw [Results.values_append]
  exact hrt.trans hts

/-- A choice spells what one of its parsers spells. -/
theorem orElse (hp : p.Spells) (hq : q.Spells) : (p.orElse q).Spells := by
  refine ⟨fun {cs r x s} hr h => ?_⟩
  rcases h.of_orElse with h | h
  · exact hp.spelled hr h
  · exact hq.spelled hr h

/-- A parser or a default. -/
theorem optional (hp : p.Spells) (hq : q.Spells) : (p.optional q).Spells :=
  (hp.orElse hq).describe _

/-- A check changes no values. -/
theorem check (hp : p.Spells) (accepts : Datum → Except Fault Bool)
    (description : Option String) : (p.check accepts description).Spells := by
  refine ⟨fun {cs r x s} hr h => ?_⟩
  exact hp.spelled hr h.of_check

/-- Values that are joined spell what they spelled before. -/
theorem reduce [Monoids] (hp : p.Spells) : p.reduce.Spells := by
  refine ⟨fun {cs r x s} hr h => ?_⟩
  obtain ⟨y, hy, h⟩ := h.of_fold
  have hspelled : Spelled cs r s y.values := hp.spelled hr hy
  rcases h with ⟨hnil, rfl⟩ | ⟨v, hv, rfl⟩
  · rw [hnil] at hspelled
    exact hspelled
  · cases hne : y.values with
    | nil =>
      rw [hne] at hv
      cases hv
    | cons d ds =>
      have hcombine := Datum.combine_of_spelled? hspelled.spelled?_eq (hne ▸ List.cons_ne_nil d ds)
      cases hcombine.symm.trans hv
      exact ⟨hspelled.within, Datum.spelled?_text _⟩

/-- Successes one after the other spell one text after the other. -/
theorem repeats (hp : p.Spells) {cs : Array Char} {s u : Span} {os : List Outcome}
    (hs : s.source.content = .text cs) (h : p.Repeats s os u) :
    Spelled cs s u (os.filterMap Outcome.value?) := by
  induction h with
  | stop s => exact .nil cs s
  | step hx _ _ ih =>
    have hfirst := hp.spelled hs hx
    rw [List.filterMap_append]
    exact hfirst.trans (ih (hfirst.within.content_eq hs))

/-- Repeated applications spell one stretch after the other. -/
theorem repeated (hp : p.Spells) {cs : Array Char} {r u : Span} {y : Results}
    (hr : r.source.content = .text cs) (h : p.Repeated r y u) : Spelled cs r u y.values := by
  obtain ⟨x, t, os, hx, hos, rfl⟩ := h
  have hfirst : Spelled cs r t x.values := hp.spelled hr hx
  rw [Results.values, Results.toList_extend, List.filterMap_append]
  exact hfirst.trans (hp.repeats (hfirst.within.content_eq hr) hos)

/-- The repetition that needs a match. -/
theorem oneOrMore (hp : p.Spells) (cap : Int) (bound : Option Bound) :
    (p.oneOrMore cap bound).Spells := by
  refine ⟨fun {cs r x s} hr h => ?_⟩
  exact hp.repeated hr h.of_oneOrMore

/-- The repetition that can do without a match. -/
theorem zeroOrMore (hp : p.Spells) (cap : Int) (bound : Option Bound) :
    (p.zeroOrMore cap bound).Spells := by
  refine ⟨fun {cs r x s} hr h => ?_⟩
  rcases h.of_zeroOrMore with ⟨rfl, rfl⟩ | h
  · exact .nil cs s
  · exact hp.repeated hr h

end Spells

end Parser

/-! ## Grammars that spell what they consume -/

namespace Grammar

variable [Monoids]

/-- Grammars that neither change nor drop nor add a value.  Values may be joined, and only an empty
text may stand for what is absent. -/
def Verbatim : Grammar → Prop
  | .satisfy _ _ | .regex _ _ | .empty | .done | .zero _ | .andThen _ _ | .orElse _ _
  | .oneOrMore _ _ | .zeroOrMore _ _ | .check _ _ _ | .describe _ _ | .reference _ _ => True
  | .optional _ default => default = none ∨ default = some (.text [])
  | .fold _ combine allowEmpty => combine = Datum.combine ∧ allowEmpty = false
  | _ => False

variable {names : Names}

/-- A verbatim grammar spells what it consumes as soon as its references do. -/
theorem spells_of_references {cap : Int} (apply : String → Span → Run Results) (g : Grammar)
    (hg : g.Everywhere names Verbatim) (href : g.References names Parser.Spells apply cap) :
    (g.parser apply cap).Spells := by
  induction g with
  | satisfy accepts description => exact Parser.spells_satisfy accepts description
  | regex pattern description => exact Parser.spells_regex pattern description
  | succeed v => exact (Everywhere.self hg).elim
  | empty => exact Parser.spells_empty
  | done => exact Parser.spells_done
  | zero f => exact Parser.spells_zero f
  | andThen p q ihp ihq =>
    have hq : (q.parser apply cap).Spells := ihq (hg.part (.inr rfl)) (href.part (.inr rfl))
    exact (ihp (hg.part (.inl rfl)) (href.part (.inl rfl))).andThen hq
  | orElse p q ihp ihq =>
    have hq : (q.parser apply cap).Spells := ihq (hg.part (.inr rfl)) (href.part (.inr rfl))
    exact (ihp (hg.part (.inl rfl)) (href.part (.inl rfl))).orElse hq
  | ignore p => exact (Everywhere.self hg).elim
  | ignoreLeft p q => exact (Everywhere.self hg).elim
  | ignoreRight p q => exact (Everywhere.self hg).elim
  | oneOrMore p bound ih => exact (ih (hg.part rfl) (href.part rfl)).oneOrMore cap bound
  | zeroOrMore p bound ih => exact (ih (hg.part rfl) (href.part rfl)).zeroOrMore cap bound
  | optional p default ih =>
    refine (ih (hg.part rfl) (href.part rfl)).optional ?_
    rcases hg.self with rfl | rfl
    · exact Parser.spells_empty
    · exact Parser.spells_succeed_nil
  | fold p combine allowEmpty ih =>
    obtain ⟨rfl, rfl⟩ := hg.self
    exact (ih (hg.part rfl) (href.part rfl)).reduce
  | lift p f => exact (Everywhere.self hg).elim
  | check p accepts description ih =>
    exact (ih (hg.part rfl) (href.part rfl)).check accepts description
  | bind p k => exact (Everywhere.self hg).elim
  | describe p description ih =>
    exact (ih (hg.part rfl) (href.part rfl)).describe description
  | reference name description => exact href.self name description rfl
  | fault cause => exact (Everywhere.self hg).elim
  | notParser => exact (Everywhere.self hg).elim

/-- A verbatim grammar spells what it consumes, whatever its references are nested in. -/
theorem spells_parserIn {g : Grammar} (hg : g.Everywhere names Verbatim) (cap : Int) (depth : Nat) :
    (g.parserIn names cap depth).Spells :=
  parserIn_of_references Parser.spells_halt (fun _ description hp => hp.describe description)
    spells_of_references depth g hg

/-! ## Ready-made grammars -/

/-- One accepted token is in the family. -/
theorem verbatim_satisfy (accepts : Datum → Except Fault Bool) (description : String) :
    (Grammar.satisfy accepts description).Everywhere names Verbatim :=
  .of_parts trivial fun _ hh => hh.elim

section Combined

variable {p q : Grammar} (hp : p.Everywhere names Verbatim)
include hp

/-- A sequence is in the family. -/
theorem verbatim_andThen (hq : q.Everywhere names Verbatim) :
    (p.andThen q).Everywhere names Verbatim := by
  refine .of_parts trivial fun h hh => ?_
  rcases hh with rfl | rfl
  · exact hp
  · exact hq

/-- A repetition is in the family. -/
theorem verbatim_oneOrMore (bound : Option Bound) :
    (p.oneOrMore bound).Everywhere names Verbatim :=
  .of_parts trivial fun _ hh => hh ▸ hp

/-- An optional parser is in the family if its default is nothing or the empty text. -/
theorem verbatim_optional {default : Option Datum}
    (hdefault : default = none ∨ default = some (.text [])) :
    (p.optional default).Everywhere names Verbatim :=
  .of_parts hdefault fun _ hh => hh ▸ hp

/-- The sum of the values is in the family. -/
theorem verbatim_reduce : p.reduce.Everywhere names Verbatim :=
  .of_parts ⟨rfl, rfl⟩ fun _ hh => hh ▸ hp

/-- A description keeps a grammar in the family. -/
theorem verbatim_describe (description : Option String) :
    (p.describe description).Everywhere names Verbatim :=
  .of_parts trivial fun _ hh => hh ▸ hp

/-- Any number of grammars in sequence are in the family. -/
theorem verbatim_sequence {qs : List Grammar}
    (hqs : ∀ q ∈ qs, q.Everywhere names Verbatim) :
    (p.sequence qs).Everywhere names Verbatim := by
  induction qs generalizing p with
  | nil => exact hp
  | cons q qs ih =>
    rw [List.forall_mem_cons] at hqs
    exact verbatim_andThen hp (ih hqs.1 hqs.2)

end Combined

/-- A word is in the family. -/
theorem verbatim_word : word.Everywhere names Verbatim :=
  verbatim_describe (verbatim_reduce (verbatim_oneOrMore (verbatim_satisfy _ _) none)) _

/-- A stretch of one character is in the family. -/
theorem verbatim_characters (t : Datum) (bound : Option Bound) :
    (characters t bound).Everywhere names Verbatim :=
  verbatim_oneOrMore (verbatim_satisfy _ _) bound

/-- A digit is in the family. -/
theorem verbatim_digitIn (base : Nat) : (digitIn base).Everywhere names Verbatim := by
  rw [digitIn]
  split_ifs <;> exact verbatim_satisfy _ _

/-- A numeral is in the family. -/
theorem verbatim_digits (base : Nat) : (digits base).Everywhere names Verbatim :=
  verbatim_describe (verbatim_reduce (verbatim_oneOrMore (verbatim_digitIn base) none)) _

/-- Tokens that are joined to one value are in the family. -/
theorem verbatim_joined (first : Datum) (more : List Datum) (description : String) :
    (joined first more description).Everywhere names Verbatim := by
  refine verbatim_describe (verbatim_reduce (verbatim_sequence (verbatim_satisfy _ _) ?_)) _
  intro q hq
  obtain ⟨t, _, rfl⟩ := List.mem_map.1 hq
  exact verbatim_satisfy _ _

/-- The grammar of a sequence reads its items one by one. -/
theorem exists_eq_joined {s : Datum} {g : Grammar} (h : string s = .ok g) :
    ∃ first more, g = joined first more s.render := by
  rw [string] at h
  split at h
  · cases hitems : s.items with
    | error cause =>
      rw [hitems] at h
      cases h
    | ok items =>
      rw [hitems] at h
      cases items with
      | nil => cases h
      | cons first more =>
        cases h
        exact ⟨first, more, rfl⟩
  · cases h

/-- A given text is in the family. -/
theorem verbatim_string {s : Datum} {g : Grammar} (h : string s = .ok g) :
    g.Everywhere names Verbatim := by
  obtain ⟨first, more, rfl⟩ := exists_eq_joined h
  exact verbatim_joined first more _

/-! ## Parses -/

/-- **Nothing is lost, repeated or moved.**  When a verbatim grammar succeeds on a window of a text,
its values in order spell the text from the start of the window up to the place where the parse goes
on, which lies in the window. -/
theorem parse_spelled {g : Grammar} (hg : g.Everywhere names Verbatim) {cap : Int} {depth : Nat}
    {r : Span} {cs : Array Char} (hr : r.source.content = .text cs) {x : Results}
    (hx : ((g.parserIn names cap depth).parse r).result = .ok x) (hsuc : x.isSuccess = true) :
    ∃ rest, x.remaining = some rest ∧ rest.source = r.source ∧
      r.start ≤ rest.start ∧ rest.start ≤ r.stop ∧
      Datum.spelled? x.values = some (cs.extract r.start rest.start).toList := by
  obtain ⟨rest, hrest⟩ := Parser.exists_succeeds hx hsuc
  have hspelled : Spelled cs r rest x.values := (spells_parserIn hg cap depth).spelled hr hrest
  exact ⟨rest, hrest.remaining_eq, hspelled.within.source_eq, hspelled.within.start_le,
    hspelled.within.start_le_stop, hspelled.spelled?_eq⟩

omit [Monoids]

/-- The case of words with commas between them, any number of which may follow the first one. -/
theorem parse_spelled_words :
    let _ : Monoids := .none
    let comma : Grammar := .token (Datum.char ',')
    let names : Names := fun _ =>
      some (.optional (comma.andThen (word.andThen (.reference "more" none))) (some (.text [])))
    let g : Grammar := word.andThen (.reference "more" none)
    let cs : Array Char := "-ab,c!".toList.toArray
    let window (i : Nat) (h : i ≤ 6) : Span :=
      { source := .ofText "-ab,c!".toList, start := i, stop := 6, start_le_stop := h,
        stop_le_size := by decide }
    let r := window 1 (by decide)
    let x : Results :=
      { head := .value (.text ['a', 'b']) (window 3 (by decide))
        tail := [.value (.text [',']) (window 4 (by decide)),
          .value (.text ['c']) (window 5 (by decide)), .value (.text []) (window 5 (by decide))] }
    g.Everywhere names Verbatim ∧ r.source.content = .text cs ∧
      ((g.parserIn names 9 2).parse r).result = .ok x ∧ x.isSuccess = true ∧
      ∃ rest, x.remaining = some rest ∧ rest.source = r.source ∧
        r.start ≤ rest.start ∧ rest.start ≤ r.stop ∧
        Datum.spelled? x.values = some (cs.extract r.start rest.start).toList := by
  intro _ comma names g cs window r x
  have hmore : (Grammar.reference "more" none).Everywhere (fun _ => none) Verbatim :=
    .of_parts trivial fun _ hh => nomatch hh
  have hwords : (word.andThen (.reference "more" none)).Everywhere (fun _ => none) Verbatim :=
    verbatim_andThen verbatim_word hmore
  have hg : g.Everywhere names Verbatim := by
    refine .of_names hwords fun name body hbody => ?_
    cases hbody
    exact verbatim_optional (verbatim_andThen (verbatim_satisfy _ _) hwords) (Or.inr rfl)
  have hx : ((g.parserIn names 9 2).parse r).result = .ok x := rfl
  exact ⟨hg, rfl, hx, rfl, parse_spelled hg rfl hx rfl⟩

end Grammar

end TokenGrammar
