/-
# Tables of characters

Classes of characters beyond ASCII are kept as tables of numbers: ranges, ranges with gaps of
regular width, and ranges whose characters are all the same distance away from another character.
-/

namespace TokenGrammar

/-! ## Classes -/

/-- Ranges of numbers; both ends belong to a range. -/
abbrev Ranges := List (Nat × Nat)

/-- Ranges of which every number, or with a step of two every other one, belongs. -/
abbrev Runs := List (Nat × Nat × Nat)

/-- Whether a number lies in one of the ranges. -/
def Ranges.has (t : Ranges) (n : Nat) : Bool :=
  t.any fun (first, last) => first ≤ n && n ≤ last

/-- Whether a number belongs to one of the ranges, counted in steps from its beginning. -/
def Runs.has (t : Runs) (n : Nat) : Bool :=
  t.any fun (first, last, step) => first ≤ n && n ≤ last && (n - first) % step == 0

/-- Every range of one table lies before or behind every range of the other. -/
def Ranges.apart (s t : Ranges) : Bool :=
  s.all fun (a, b) => t.all fun (c, d) => b < c || d < a

/-- Tables that lie apart have no number in common. -/
theorem Ranges.has_eq_false_of_apart {s t : Ranges} {n : Nat} (h : s.apart t = true)
    (hs : s.has n = true) : t.has n = false := by
  obtain ⟨⟨a, b⟩, hab, hn⟩ := List.any_eq_true.1 hs
  rw [has, List.any_eq_false]
  rintro ⟨c, d⟩ hcd hm
  have hapart := List.all_eq_true.1 (List.all_eq_true.1 h _ hab) _ hcd
  simp only [Bool.and_eq_true, Bool.or_eq_true, decide_eq_true_eq] at hn hm hapart
  omega

/-! ## Mappings -/

/-- The numbers from `first` to `last`, counted in steps, and the distance to what they are mapped
to. -/
structure Shift where
  first : Nat
  last : Nat
  step : Nat
  distance : Int

namespace Shift

/-- Whether a shift applies to a number. -/
def covers (s : Shift) (n : Nat) : Bool :=
  s.first ≤ n && n ≤ s.last && (n - s.first) % s.step == 0

/-- The number that a table maps a number to; the numbers that it does not cover stay as they
are. -/
def apply (t : List Shift) (n : Nat) : Nat :=
  match t.find? (·.covers n) with
  | some s => (n + s.distance).toNat
  | none => n

/-- A number is mapped by an entry that covers it, or it stays as it is. -/
theorem apply_eq_or (t : List Shift) (n : Nat) :
    apply t n = n ∨ ∃ s ∈ t, s.covers n = true ∧ apply t n = (n + s.distance).toNat := by
  rw [apply]
  cases h : t.find? (·.covers n) with
  | none => exact Or.inl rfl
  | some s =>
    have hcovers := @List.find?_some _ (fun s : Shift => s.covers n) s t h
    exact Or.inr ⟨s, List.mem_of_find?_eq_some h, hcovers, rfl⟩

end Shift

end TokenGrammar
