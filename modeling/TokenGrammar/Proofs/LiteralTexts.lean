/-
# Literal texts

The grammar of a given text reads the characters of the text one after the other and joins them.  It
accepts the windows that begin with the text.  Any other window it rejects at the first character
that differs, or at the end of the window if that comes before.
-/
import TokenGrammar.Proofs.Quotes
import TokenGrammar.Proofs.Taking
import TokenGrammar.Proofs.TextLeaves

namespace TokenGrammar

/-- The failure of the grammar of the character `c` at a position where another character is found,
or nothing. -/
def Failure.insteadOf (c : Char) (found : Option Char) (position : Nat) : Failure :=
  match found with
  | none => .missingItem position
  | some d => .mismatch (some (Datum.char c).render) (Datum.char d) position

/-- Where another character is found, it tells the quoted form of the one that was expected. -/
theorem Failure.insteadOf_some (c d : Char) (position : Nat) :
    insteadOf c (some d) position =
      { reason := .mismatch (.text (Quoted.text [c])) (.text [d])
        message := "expected " ++ String.ofList (Quoted.text [c])
        position := some position } := by
  simp [insteadOf, mismatch, Datum.char, Datum.render, Datum.ofString]

/-- A text that is taken is the value when the values are joined. -/
theorem Parser.Takes.result_reduce [Monoids] {p : Parser} {r s : Span} {w : List Char}
    (h : p.Takes r w s) (hne : w ≠ []) :
    (p.reduce.parse r).result = .ok (.single (.value (.text w) s)) := by
  obtain ⟨x, hx, htaken⟩ := h.exists_succeeds
  have hvalues : x.values = w.map Datum.char := htaken.values_eq
  have hsome : w.map Datum.char ≠ [] := mt List.map_eq_nil_iff.1 hne
  have hcombine := Datum.combine_of_spelled? (Datum.spelled?_map_char w) hsome
  rw [Parser.reduce, hx.result_fold_of_ne_nil (hvalues ▸ hsome), hvalues, hcombine]
  rfl

namespace Grammar

variable {names : Names} {cap : Int} {depth : Nat} {r : Span} {w : List Char}

/-! ## Single characters -/

/-- The parser for a character takes it where the window begins with it, and fails elsewhere. -/
theorem takes_or_fails_token (names : Names) (cap : Int) (depth : Nat) (c : Char)
    (hr : r.Shows w) :
    let p := (token (Datum.char c)).parserIn names cap depth
    (∃ v s, w = c :: v ∧ s.Shows v ∧ p.Takes r [c] s) ∨
      (∀ v, w ≠ c :: v) ∧ p.Fails r (.insteadOf c w.head? r.start) := by
  intro p
  cases w with
  | nil => exact Or.inr ⟨nofun, Parser.fails_satisfy_of_nil hr⟩
  | cons d w =>
    by_cases hdc : d = c
    · subst hdc
      have hsame : (Datum.char d).same (Datum.char d) = true := (Datum.same_char_iff d d).2 rfl
      have htakes : ∃ s, s.Shows w ∧ p.Takes r [d] s :=
        Parser.exists_takes_satisfy hr (congrArg Except.ok hsame)
      obtain ⟨s, hs, htakes⟩ := htakes
      exact Or.inl ⟨w, s, rfl, hs, htakes⟩
    · have hsame : (Datum.char d).same (Datum.char c) = false := by
        rw [← Bool.not_eq_true, Datum.same_char_iff, List.singleton_inj]
        exact hdc
      have hfails : p.Fails r _ := Parser.fails_satisfy hr (congrArg Except.ok hsame)
      exact Or.inr ⟨fun v h => hdc (List.cons.inj h).1, hfails⟩

/-! ## Characters one after the other -/

/-- A sequence of characters is taken where the window begins with it.  Elsewhere it fails behind
what the window and the sequence have in common.  The induction is on the sequence, and the window
moves by one character in each step. -/
theorem takes_or_fails_characters (c : Char) (s : List Char) (hr : r.Shows w) :
    let g := (token (Datum.char c)).sequence ((s.map Datum.char).map token)
    let p := g.parserIn names cap depth
    (∃ v t, w = c :: s ++ v ∧ p.Takes r (c :: s) t) ∨
      ∃ u d v w', c :: s = u ++ d :: v ∧ w = u ++ w' ∧ (∀ v, w' ≠ d :: v) ∧
        p.Fails r (.insteadOf d w'.head? (r.start + u.length)) := by
  induction s generalizing c r w with
  | nil =>
    rcases takes_or_fails_token names cap depth c hr with ⟨v, t, rfl, -, htakes⟩ | ⟨hw, hfails⟩
    · exact Or.inl ⟨v, t, rfl, htakes⟩
    · exact Or.inr ⟨[], c, [], w, rfl, rfl, hw, hfails⟩
  | cons c' s ih =>
    rcases takes_or_fails_token names cap depth c hr with ⟨v, t, rfl, ht, hfirst⟩ | ⟨hw, hfails⟩
    · rcases ih c' ht with ⟨v', t', rfl, hrest⟩ | ⟨u, d, v', w', hu, rfl, hw, hfails⟩
      · exact Or.inl ⟨v', t', rfl, hfirst.andThen hrest⟩
      · obtain ⟨os, htaken⟩ := hfirst.exists_taken
        have hstart : t.start = r.start + 1 := htaken.start_eq
        have hplace : t.start + u.length = r.start + (c :: u).length := by
          rw [hstart, List.length_cons]
          omega
        rw [hplace] at hfails
        refine Or.inr ⟨c :: u, d, v', w', ?_, rfl, hw, hfirst.andThen_fails hfails⟩
        rw [hu, List.cons_append]
    · exact Or.inr ⟨[], c, c' :: s, w, rfl, rfl, hw, hfails.andThen _⟩

/-! ## Literal texts -/

/-- **A literal text is matched as a prefix.**  On every window of a text, the grammar of a text `s`
that is not empty produces `s` and goes on behind it if the text in view begins with `s`.  Otherwise
let `u` be the longest text that both begin with and `c` the character of `s` behind it; then there
is a single failure behind `u`.  It tells that an item is missing if the view ends there, and that
the quoted form of `c` was expected and another character found if it does not. -/
theorem parse_string [Monoids] (names : Names) (cap : Int) (depth : Nat) {s : List Char}
    (hs : s ≠ []) {r : Span} {cs : Array Char} (hr : r.source.content = .text cs) :
    let view := (cs.extract r.start r.stop).toList
    ∃ g, string (.text s) = .ok g ∧
      let y := ((g.parserIn names cap depth).parse r).result
      (s <+: view →
        ∃ rest, r.tail s.length = .ok rest ∧ y = .ok (.single (.value (.text s) rest))) ∧
      (¬ s <+: view →
        ∃ u c v, s = u ++ c :: v ∧ Text.LongestWord (Text.beginnings s) view u ∧
          (view[u.length]? = none →
            y = .ok (.fail
              { reason := .missing, message := "expected item",
                position := some (r.start + u.length) })) ∧
          ∀ d, view[u.length]? = some d → ∃ quoted, Quoted.Form c quoted ∧
            y = .ok (.fail
              { reason := .mismatch (.text quoted) (.text [d]),
                message := "expected " ++ String.ofList quoted,
                position := some (r.start + u.length) })) := by
  intro view
  obtain ⟨c, s, rfl⟩ := List.exists_cons_of_ne_nil hs
  refine ⟨joined (Datum.char c) (s.map Datum.char) (Datum.text (c :: s)).render, rfl, ?_⟩
  have hview : r.Shows view := Span.shows_extract hr
  intro y
  rcases takes_or_fails_characters c s hview with
    ⟨v, t, hv, htakes⟩ | ⟨u, d, v, w, hu, hw, hd, hfails⟩
  · have hprefix : c :: s <+: view := ⟨v, hv.symm⟩
    obtain ⟨os, htaken⟩ := htakes.exists_taken
    exact ⟨fun _ => ⟨t, htaken.tail_eq, htakes.result_reduce hs⟩, fun h => absurd hprefix h⟩
  · have hlongest : Text.LongestWord (Text.beginnings (c :: s)) view u := by
      rw [hu, hw]
      exact Text.longestWord_beginnings hd v
    have hfound : view[u.length]? = w.head? := by
      rw [hw, List.getElem?_append_right (Nat.le_refl _), Nat.sub_self, List.head?_eq_getElem?]
    have hy : y = .ok (.fail (.insteadOf d w.head? (r.start + u.length))) :=
      hfails.fold Datum.combine false
    refine ⟨fun h => ?_, fun _ => ⟨u, d, v, hu, hlongest, fun hend => ?_, fun e he => ?_⟩⟩
    · -- the whole text would be a longer beginning of both
      have hle : (c :: s).length ≤ u.length := hlongest.length_le _ (List.prefix_refl _) h
      rw [hu, List.length_append, List.length_cons] at hle
      omega
    · rw [hfound] at hend
      rw [hy, hend]
      rfl
    · rw [hfound] at he
      refine ⟨Quoted.text [d], (Quoted.form_iff d _).2 rfl, ?_⟩
      rw [hy, he, Failure.insteadOf_some, Int.natCast_add]

/-- The case of a window that begins like the literal and ends before its last character, and of one
that shows another character in its place. -/
theorem parse_string_let :
    let _ : Monoids := .none
    let s : List Char := "let".toList
    let cs : List Char := "(lex)".toList
    let window (stop : Nat) (h : 1 ≤ stop) (h' : stop ≤ 5) : Span :=
      { source := .ofText cs, start := 1, stop := stop, start_le_stop := h, stop_le_size := h' }
    let short := window 3 (by decide) (by decide)
    let other := window 5 (by decide) (by decide)
    s ≠ [] ∧ short.source.content = .text cs.toArray ∧ other.source.content = .text cs.toArray ∧
      ∃ g, string (.text s) = .ok g ∧
        ((g.parserIn (fun _ => none) 0 0).parse short).result
          = .ok (.fail
            { reason := .missing, message := "expected item", position := some 3 }) ∧
        ((g.parserIn (fun _ => none) 0 0).parse other).result
          = .ok (.fail
            { reason := .mismatch (.text ['\'', 't', '\'']) (.text ['x']),
              message := "expected 't'", position := some 3 }) := by
  intro _ s cs window short other
  have hs : s ≠ [] := by decide
  have hshort : short.source.content = .text cs.toArray := rfl
  have hother : other.source.content = .text cs.toArray := rfl
  obtain ⟨g, hg, -, hmissing⟩ := parse_string (fun _ => none) 0 0 hs hshort
  obtain ⟨g', hg', -, hdiffers⟩ := parse_string (fun _ => none) 0 0 hs hother
  obtain rfl := Except.ok.inj (hg.symm.trans hg')
  refine ⟨hs, hshort, hother, g, hg, ?_, ?_⟩
  · obtain ⟨u, c, v, hu, hlongest, hy, -⟩ := hmissing (by decide)
    have hbegin : Text.LongestWord (Text.beginnings s) ['l', 'e'] ['l', 'e'] :=
      Text.longestWord_beginnings (u := ['l', 'e']) (w := []) (c := 't') nofun []
    obtain rfl := hlongest.unique hbegin
    exact hy rfl
  · obtain ⟨u, c, v, hu, hlongest, -, hy⟩ := hdiffers (by decide)
    have hbegin : Text.LongestWord (Text.beginnings s) ['l', 'e', 'x', ')'] ['l', 'e'] :=
      Text.longestWord_beginnings (u := ['l', 'e']) (w := ['x', ')']) (c := 't') (by simp) []
    obtain rfl := hlongest.unique hbegin
    cases show ['l', 'e', 't'] = 'l' :: 'e' :: c :: v from hu
    obtain ⟨quoted, hquoted, hfail⟩ := hy 'x' rfl
    obtain rfl : quoted = ['\'', 't', '\''] := (Quoted.form_iff 't' quoted).1 hquoted
    exact hfail

end Grammar

end TokenGrammar
