/-
# The order of values

Numbers are ordered by value, texts and byte strings by their characters, lists and tuples by their
first different items and then by length.  Any other two values cannot be compared.
-/
import TokenGrammar.Datum.Basic

namespace TokenGrammar

namespace Datum

/-- Orders two lists of keys by the first difference, then by length. -/
def compareKeys : List Nat → List Nat → Ordering
  | [], [] => .eq
  | [], _ :: _ => .lt
  | _ :: _, [] => .gt
  | x :: xs, y :: ys =>
    match Ord.compare x y with
    | .eq => compareKeys xs ys
    | o => o

/-- The order of two numbers of any type.  What is not a number has no place in the order. -/
def compareNumbers (a b : Datum) : Except Fault (Option Ordering) :=
  match a, b with
  | .float x, .float y => .ok (if x.isNaN || y.isNaN then none else some (x.compare y))
  | .float x, b =>
    match b.toInteger? with
    | some n => .ok (if x.isNaN then none else some (x.compareInt n))
    | none => .error .wrongType
  | a, .float y =>
    match a.toInteger? with
    | some n => .ok (if y.isNaN then none else some (y.compareInt n).swap)
    | none => .error .wrongType
  | a, b =>
    match a.toInteger?, b.toInteger? with
    | some m, some n => .ok (some (Ord.compare m n))
    | _, _ => .error .wrongType

mutual

/-- The order of two values, if they can be compared and have one. -/
def compare : Datum → Datum → Except Fault (Option Ordering)
  | .text cs, .text ds => .ok (some (compareKeys (cs.map Char.toNat) (ds.map Char.toNat)))
  | .bytes bs, .bytes cs => .ok (some (compareKeys (bs.map UInt8.toNat) (cs.map UInt8.toNat)))
  | .list xs, .list ys => compareItems xs ys
  | .tuple xs, .tuple ys => compareItems xs ys
  | a, b => compareNumbers a b

/-- Equal items are passed over even where they could not be ordered. -/
def compareItems : List Datum → List Datum → Except Fault (Option Ordering)
  | [], [] => .ok (some .eq)
  | [], _ :: _ => .ok (some .lt)
  | _ :: _, [] => .ok (some .gt)
  | x :: xs, y :: ys => if same x y then compareItems xs ys else compare x y

end

/-- Whether one value comes before another. -/
def less (a b : Datum) : Except Fault Bool :=
  (· == some .lt) <$> compare a b

/-- Whether one value comes before another or equals it. -/
def atMost (a b : Datum) : Except Fault Bool :=
  Option.any (· != .gt) <$> compare a b

/-- Whether a value lies between two others; the second comparison is made only if the first one
holds. -/
def between (low high t : Datum) : Except Fault Bool := do
  if ← low.atMost t then t.atMost high else pure false

end Datum

end TokenGrammar
