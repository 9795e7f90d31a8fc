/-
# Indices

How an integer names a place in a sequence: a negative one counts from the end.
-/

namespace TokenGrammar

namespace Index

/-- The distance from the start that an index stands for. -/
def fromStart (size : Nat) (i : Int) : Int :=
  if i < 0 then i + size else i

/-- The place of an item, if there is one at the index. -/
def place? (size : Nat) (i : Int) : Option (Fin size) :=
  let k := fromStart size i
  if h : 0 ≤ k ∧ k < size then some ⟨k.toNat, by omega⟩ else none

/-- The place of a boundary between items; an index beyond either end is moved to that end. -/
def clamp (size : Nat) (i : Int) : Nat :=
  min (fromStart size i).toNat size

/-- A clamped bound lies within the sequence. -/
theorem clamp_le (size : Nat) (i : Int) : clamp size i ≤ size :=
  Nat.min_le_right ..

end Index

end TokenGrammar
