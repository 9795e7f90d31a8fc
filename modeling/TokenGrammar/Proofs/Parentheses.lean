/-
# Nested parentheses

A grammar that refers to itself: any number of groups, each of them the grammar again between two
parentheses.  A repetition never takes a group back, and a group that is not closed is dropped with
everything inside it; still the grammar takes the longest balanced word that the text begins with.
-/
import TokenGrammar.Proofs.BalancedWords
import TokenGrammar.Proofs.GuardedRecursion
import TokenGrammar.Proofs.LiteralTexts

namespace TokenGrammar

/-! ## The grammar -/

namespace Grammar

/-- A grammar between two parentheses. -/
def group (g : Grammar) : Grammar :=
  ((token (Datum.char '(')).andThen g).andThen (token (Datum.char ')'))

/-- Any number of groups, each with the same again inside it. -/
def parens : Grammar :=
  .zeroOrMore (group (.reference "parens" none)) none

end Grammar

/-- The definition of balanced parentheses, which refers to itself. -/
def Definitions.parens : Definitions :=
  { entries := [("parens", Grammar.parens)] }

/-- The parser takes the longest balanced word that the window begins with. -/
def Parser.TakesLongest (p : Parser) (r : Span) : Prop :=
  ∃ u v s, Text.Balanced u ∧ Text.Stuck v ∧ s.Shows v ∧ p.Takes r u s

/-- What takes the longest balanced prefix depends on the parse alone. -/
theorem Parser.TakesLongest.of_parse_eq {p q : Parser} {r : Span} (h : p.TakesLongest r)
    (hparse : q.parse r = p.parse r) : q.TakesLongest r := by
  obtain ⟨u, v, s, hu, hv, hs, x, hx, htaken⟩ := h
  exact ⟨u, v, s, hu, hv, hs, x, hparse ▸ hx, htaken⟩

namespace Grammar

open Text

variable {names : Names} {cap : Int} {depth : Nat} {r : Span}

/-- A group takes a balanced word that is not empty, or fails where no such word begins, provided
that the grammar inside it takes longest balanced words on shorter windows. -/
theorem takes_or_fails_group {g : Grammar} {w : List Char} (hr : r.Shows w)
    (hg : ∀ s, s.Within r → s.length < r.length → (g.parserIn names cap depth).TakesLongest s) :
    (∃ u s, Balanced u ∧ u ≠ [] ∧ ((group g).parserIn names cap depth).Takes r u s) ∨
      (∃ f, ((group g).parserIn names cap depth).Fails r f) ∧ Stuck w := by
  rcases takes_or_fails_token names cap depth '(' hr with ⟨w, s, rfl, hs, hopen⟩ | ⟨hw, hf⟩
  · obtain ⟨os, htaken⟩ := hopen.exists_taken
    have hlength : r.length = 1 + s.length := htaken.length_eq
    obtain ⟨u, v, t, hu, hv, ht, hinner⟩ := hg s htaken.within (by omega)
    obtain ⟨ps, hinnerTaken⟩ := hinner.exists_taken
    obtain rfl : w = u ++ v := hinnerTaken.eq_append hs ht
    have hboth := hopen.andThen hinner
    -- the inner word is not tried again with less, so that what follows it decides
    rcases takes_or_fails_token names cap depth ')' ht with ⟨_, t', -, -, hclose⟩ | ⟨hw, hf⟩
    · exact Or.inl ⟨_, t', hu.group, nofun, hboth.andThen hclose⟩
    · exact Or.inr ⟨⟨_, hboth.andThen_fails hf⟩, hv.open hu hw⟩
  · refine Or.inr ⟨⟨_, (hf.andThen _).andThen _⟩, ?_⟩
    cases w with
    | nil => exact stuck_nil
    | cons c w => exact stuck_cons fun h => hw w (by rw [h])

/-- Groups one after the other make up a longest balanced word, again provided that the grammar
inside them does so on shorter windows. -/
theorem takesLongest_zeroOrMore_group {g : Grammar} {cs : Array Char}
    (hr : r.source.content = .text cs) (hcap : r.length + 1 < cap)
    (hg : ∀ s, s.Within r → s.length < r.length → (g.parserIn names cap depth).TakesLongest s) :
    ((Grammar.zeroOrMore (group g) none).parserIn names cap depth).TakesLongest r := by
  have hgroup (s : Span) (hs : s.Within r) (w : List Char) (hw : s.Shows w) :=
    takes_or_fails_group hw fun t ht hlt =>
      hg t (ht.trans hs) (Nat.lt_of_lt_of_le hlt hs.length_le)
  have hp (s : Span) (hs : s.Within r) :
      (∃ f, ((group g).parserIn names cap depth).Fails s f) ∨
        ∃ u t, Balanced u ∧ u ≠ [] ∧ ((group g).parserIn names cap depth).Takes s u t := by
    obtain ⟨w, hw⟩ := Span.exists_shows (hs.content_eq hr)
    rcases hgroup s hs w hw with htakes | ⟨hfails, -⟩
    · exact Or.inr htakes
    · exact Or.inl hfails
  obtain ⟨us, t, hus, ⟨f, hf⟩, htakes⟩ := Parser.exists_takes_zeroOrMore hp hcap
  obtain ⟨os, htaken⟩ := htakes.exists_taken
  obtain ⟨v, hv⟩ := Span.exists_shows (htaken.within.content_eq hr)
  -- where the group fails that ends the repetition, no balanced word begins
  have hstuck : Stuck v := by
    rcases hgroup t htaken.within v hv with ⟨_, _, _, _, h⟩ | ⟨-, hstuck⟩
    · exact absurd hf h.not_fails
    · exact hstuck
  exact ⟨us.flatten, v, t, .flatten hus, hstuck, hv, htakes⟩

/-- The grammar takes longest balanced words at any depth that is not less than the length of the
window.  The induction is on the depth: a reference uses up one level, and the parenthesis before it
makes the window shorter. -/
theorem takesLongest_parens (hnames : names "parens" = some parens) {cs : Array Char}
    (hr : r.source.content = .text cs) (hdepth : r.length ≤ depth) (hcap : r.length + 1 < cap) :
    (parens.parserIn names cap depth).TakesLongest r := by
  induction depth generalizing r with
  | zero => exact takesLongest_zeroOrMore_group hr hcap fun s _ hlt => by omega
  | succ depth ih =>
    refine takesLongest_zeroOrMore_group hr hcap fun s hs hlt => ?_
    have hinner : (parens.parserIn names cap depth).TakesLongest s :=
      ih (hs.content_eq hr) (by omega) (by omega)
    have hparse : ((Grammar.reference "parens" none).parserIn names cap (depth + 1)).parse s
        = (parens.parserIn names cap depth).parse s := by
      simp only [parserIn, parser, resolve, hnames]
    exact hinner.of_parse_eq hparse

/-! ## Balanced words -/

/-- **The grammar of nested parentheses recognises the balanced words.**  On every text, if the cap
leaves enough room, the grammar succeeds; it consumes the longest balanced word that the text begins
with, and its values are the characters of this word in order.  Asked for the values of the whole
text, it gives the characters of a balanced text; for any other text the failure names the character
behind the longest balanced word. -/
theorem parens_recognises {w : List Char} {cap : Int} (hcap : w.length + 1 < cap) :
    let p := parens.toParser Definitions.parens cap
    let r : Span := .whole (.ofText w)
    ∃ n ≤ w.length, Balanced (w.take n) ∧ (∀ u, u <+: w → Balanced u → u.length ≤ n) ∧
      (∃ x s, (p.parse r).result = .ok x ∧ x.isSuccess = true ∧ x.remaining = some s ∧
        s.Within r ∧ s.start = n ∧ x.values = (w.take n).map Datum.char) ∧
      (Balanced w → (p.valuesToEnd r).result = .ok (.ok (w.map Datum.char))) ∧
      (¬ Balanced w → ∃ h : n < w.length,
        (p.valuesToEnd r).result = .ok (.error
          { reason := .unexpected (Datum.char w[n])
            message := "unexpected " ++ (Datum.char w[n]).render, position := some n })) := by
  intro p r
  have hr : r.Shows w := Span.shows_whole w
  have hdepth : r.length < Definitions.parens.depth r :=
    Definitions.length_lt_depth (List.cons_ne_nil _ _) r
  have hroom : r.length + 1 < cap := by
    rw [hr.length_eq]
    exact hcap
  have hlongest : (parens.parserIn Definitions.parens.find? cap
      (Definitions.parens.depth r)).TakesLongest r :=
    takesLongest_parens rfl rfl (Nat.le_of_lt hdepth) hroom
  obtain ⟨u, v, s, hu, hv, hs, htakes⟩ : p.TakesLongest r := hlongest.of_parse_eq rfl
  have ⟨x, hx, hsuc, htaken⟩ := htakes
  obtain rfl : w = u ++ v := htaken.eq_append hr hs
  have hstart : s.start = u.length := htaken.start_eq.trans (Nat.zero_add _)
  refine ⟨u.length, by simp, ?_, ?_, ?_, ?_, ?_⟩
  · rw [List.take_left]
    exact hu
  · intro u' hprefix hu'
    exact (hv.prefix_left hu hu' hprefix).length_le
  · rw [List.take_left]
    exact ⟨x, s, hx, hsuc, htaken.remaining_eq hsuc, htaken.within, hstart, htaken.values_eq⟩
  · intro hbalanced
    -- what follows the first part of a balanced word is balanced, and nothing of it is left
    obtain rfl : v = [] := hv v (List.prefix_refl v) (hbalanced.of_append hu)
    exact (htakes.andThen (Parser.takes_done hs)).values_eq
  · intro hbalanced
    cases v with
    | nil =>
      rw [List.append_nil] at hbalanced
      exact absurd hu hbalanced
    | cons c v =>
      have hfails := htakes.andThen_fails (Parser.fails_done hs rfl)
      have hlt : u.length < (u ++ c :: v).length := by simp
      have hget : (u ++ c :: v)[u.length] = c := by simp
      refine ⟨hlt, ?_⟩
      rw [hget, ← hstart]
      exact hfails.values_eq

/-- The case of a balanced text, and of one with groups that are not closed: there the grammar takes
the first group only, although the inner groups are parsed up to the end, and the failure stands
behind it. -/
theorem parens_recognises_groups :
    let p := parens.toParser Definitions.parens 9
    let balanced : List Char := "(()())".toList
    let unclosed : List Char := "()((()".toList
    balanced.length + 1 < (9 : Int) ∧ unclosed.length + 1 < (9 : Int) ∧
      (p.valuesToEnd (.whole (.ofText balanced))).result
        = .ok (.ok (balanced.map Datum.char)) ∧
      (∃ x s, (p.parse (.whole (.ofText unclosed))).result = .ok x ∧ x.isSuccess = true ∧
        x.remaining = some s ∧ s.start = 2 ∧ x.values = "()".toList.map Datum.char) ∧
      (p.valuesToEnd (.whole (.ofText unclosed))).result
        = .ok (.error { reason := .unexpected (Datum.char '('), message := "unexpected '('",
                        position := some 2 }) := by
  intro p balanced unclosed
  have hcap : balanced.length + 1 < (9 : Int) := by decide
  have hcap' : unclosed.length + 1 < (9 : Int) := by decide
  obtain ⟨_, _, _, _, _, hvalues, -⟩ := parens_recognises hcap
  obtain ⟨n, hn, htake, hlongest, ⟨x, s, hx, hsuc, hrest, -, hstart, hx'⟩, -, hfails⟩ :=
    parens_recognises hcap'
  have hgroup : Balanced "()".toList := by decide +kernel
  have hle : 2 ≤ n := hlongest "()".toList (by decide) hgroup
  have hunique : ∀ n ≤ 6, 2 ≤ n → Balanced ("()((()".toList.take n) → n = 2 := by decide +kernel
  obtain rfl : n = 2 := hunique n hn hle htake
  obtain ⟨_, hfails⟩ := hfails (by decide +kernel)
  exact ⟨hcap, hcap', hvalues (by decide +kernel), ⟨x, s, hx, hsuc, hrest, hstart, hx'⟩, hfails⟩

end Grammar

end TokenGrammar
