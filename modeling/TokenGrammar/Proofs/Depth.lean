/-
# Nested references

The depth to which references are nested is a resource, not a part of what a grammar means: a parse
that comes to an end within some depth is the same at any greater depth.  The correspondence relates
everything to itself, and excuses a first parse that runs out of depth.
-/
import TokenGrammar.Proofs.Parts

namespace TokenGrammar

namespace Correspondence

/-- Everything corresponds to itself, unless the first parse has no end. -/
def deeper : Correspondence where
  window := Eq
  failure := Eq
  notice := Eq
  halt := Eq
  excuses e := e = .endless
  view_eq h := congrArg Span.view h
  window_drop := by
    rintro r _ rfl n _ _
    rfl
  start_eq_iff := by
    rintro r _ r' _ rfl rfl
    exact Iff.rfl
  failure_at := by
    rintro r _ rfl _ _
    rfl
  stalled_at := by
    rintro r _ rfl _
    rfl
  halt_reflexive := Halt.reflexive_eq
  halt_enclosed := congrArg Halt.enclosed
  excuses_enclosed := by
    rintro _ rfl
    rfl

/-- Parses at different depths give nothing but equal things. -/
theorem diagonal_deeper : deeper.Diagonal where
  eq_of_window h := h
  eq_of_failure h := h
  eq_of_notice h := h
  eq_of_halt h := h

end Correspondence

namespace Grammar

variable {names : Names} {cap : Int} {depth depth' : Nat}

open Correspondence

/-- A grammar has corresponding parsers at a depth and at a greater one.  The induction is on the
smaller depth: when it is used up, the first parse is excused. -/
theorem parserRel_deeper (g : Grammar) (h : depth ≤ depth') :
    deeper.ParserRel (g.parserIn names cap depth) (g.parserIn names cap depth') := by
  induction depth generalizing depth' g with
  | zero =>
    have hleaf : deeper.Admits id id names g := ⟨fun _ _ => rfl, fun _ => rfl⟩
    refine parserRel_of_leaves (fun _ hp => hp.freeRel fun _ _ => rfl) g hleaf ?_
    intro _ _ _ r s _
    exact Or.inl ⟨.endless, rfl, rfl⟩
  | succ depth ih =>
    obtain ⟨depth', rfl⟩ : ∃ d, depth' = d + 1 := ⟨depth' - 1, by omega⟩
    have hleaf : deeper.Admits id id names g := ⟨fun _ _ => rfl, fun _ => rfl⟩
    refine parserRel_of_leaves (fun _ hp => hp.freeRel fun _ _ => rfl) g hleaf ?_
    intro name _ _ r s hrs
    simp only [resolve]
    cases names name with
    | none => exact runRel_halt rfl
    | some body => exact (ih body (Nat.le_of_succ_le_succ h)).parse hrs

/-- A parse that ends is the same at every greater depth. -/
theorem parse_eq_of_le (g : Grammar) (h : depth ≤ depth') {r : Span}
    (hends : ((g.parserIn names cap depth).parse r).result ≠ .error .endless) :
    (g.parserIn names cap depth').parse r = (g.parserIn names cap depth).parse r := by
  have hp : deeper.ParserRel (g.parserIn names cap depth) (g.parserIn names cap depth') :=
    g.parserRel_deeper h
  rcases diagonal_deeper.eq_of_runRel (hp.parse rfl) with ⟨e, he, rfl⟩ | heq
  · exact absurd he hends
  · exact heq.symm

end Grammar

end TokenGrammar
