/-
# Operations on values

Sums, products, membership, indexing, conversion to numbers, and the combination of several values.
A truth value counts as a number, an integer meets a floating point number as a floating point
number, and `+` joins two sequences of the same type.
-/
import TokenGrammar.Datum.Order
import TokenGrammar.Index
import TokenGrammar.Text.Number

namespace TokenGrammar

namespace Datum

/-! ## Numbers -/

/-- Two operands brought to a common type of number. -/
inductive Operands where
  | ints (m n : Int)
  | floats (x y : Binary64)

/-- The floating point number nearest to an integer. -/
def floatOfInt (n : Int) : Except Fault Binary64 :=
  match Binary64.ofInt? n with
  | some x => .ok x
  | none => .error .overflow

/-- Two numbers as integers or, if one of them is a floating point number, both as such. -/
def operands (a b : Datum) : Except Fault Operands :=
  match a, b with
  | .float x, .float y => .ok (.floats x y)
  | .float x, b =>
    match b.toInteger? with
    | some n => (.floats x ·) <$> floatOfInt n
    | none => .error .wrongType
  | a, .float y =>
    match a.toInteger? with
    | some m => (.floats · y) <$> floatOfInt m
    | none => .error .wrongType
  | a, b =>
    match a.toInteger?, b.toInteger? with
    | some m, some n => .ok (.ints m n)
    | _, _ => .error .wrongType

/-- The sum of two numbers, or two sequences of one type, one after the other. -/
def add : Datum → Datum → Except Fault Datum
  | .text cs, .text ds => .ok (.text (cs ++ ds))
  | .bytes bs, .bytes cs => .ok (.bytes (bs ++ cs))
  | .list xs, .list ys => .ok (.list (xs ++ ys))
  | .tuple xs, .tuple ys => .ok (.tuple (xs ++ ys))
  | a, b => do
    match ← operands a b with
    | .ints m n => pure (.int (m + n))
    | .floats x y => pure (.float (x.add y))

/-- The difference of two numbers. -/
def sub (a b : Datum) : Except Fault Datum := do
  match ← operands a b with
  | .ints m n => pure (.int (m - n))
  | .floats x y => pure (.float (x.sub y))

/-- A list repeated; a negative count gives the empty list. -/
def repeatItems {α : Type} (items : List α) (count : Int) : List α :=
  (List.replicate count.toNat items).flatten

/-- A sequence repeated as often as an integer says. -/
def replicate? (a : Datum) (count : Int) : Option Datum :=
  match a with
  | .text cs => some (.text (repeatItems cs count))
  | .bytes bs => some (.bytes (repeatItems bs count))
  | .list items => some (.list (repeatItems items count))
  | .tuple items => some (.tuple (repeatItems items count))
  | _ => none

/-- The product of two numbers, or a sequence repeated. -/
def mul (a b : Datum) : Except Fault Datum :=
  match b.toInteger?.bind a.replicate?, a.toInteger?.bind b.replicate? with
  | some d, _ => .ok d
  | _, some d => .ok d
  | none, none => do
    match ← operands a b with
    | .ints m n => pure (.int (m * n))
    | .floats x y => pure (.float (x.mul y))

/-- A number with the opposite sign. -/
def neg : Datum → Except Fault Datum
  | .float x => .ok (.float x.neg)
  | a =>
    match a.toInteger? with
    | some n => .ok (.int (-n))
    | none => .error .wrongType

/-! ## Sequences -/

/-- Whether the first byte string occurs in the second. -/
def bytesOccurIn (needle : List UInt8) : List UInt8 → Bool
  | [] => needle.isEmpty
  | b :: bs => needle.isPrefixOf (b :: bs) || bytesOccurIn needle bs

/-- Membership: a text in a text, a byte or a byte string in a byte string, an item in a list or
tuple. -/
def isIn (a container : Datum) : Except Fault Bool :=
  match container with
  | .text ds =>
    match a with
    | .text cs => .ok (Text.occursIn cs ds)
    | _ => .error .wrongType
  | .bytes bs =>
    match a with
    | .bytes cs => .ok (bytesOccurIn cs bs)
    | _ =>
      match a.toInteger? with
      | some n =>
        if 0 ≤ n ∧ n < 256 then .ok (bs.any fun b => (b.toNat : Int) == n) else .error .badValue
      | none => .error .wrongType
  | .list items | .tuple items => .ok (items.any fun x => same x a)
  | _ => .error .wrongType

/-- The item at an index. -/
def item (container index : Datum) : Except Fault Datum := do
  let all ← container.items
  match index.toInteger? with
  | none => .error .wrongType
  | some i =>
    match Index.place? all.length i with
    | some k => pure all[k]
    | none => .error .indexOutside

/-- An operation on texts alone. -/
def onText (f : List Char → Datum) : Datum → Except Fault Datum
  | .text cs => .ok (f cs)
  | _ => .error .wrongType

/-! ## Conversion to numbers -/

/-- A value that may be missing, with what is wrong if it is. -/
def ofOption {α : Type} (cause : Fault) : Option α → Except Fault α
  | some a => .ok a
  | none => .error cause

/-- The ASCII characters of a byte string, with a question mark for every other byte. -/
def latin (bs : List UInt8) : List Char :=
  bs.map fun b => if b < 0x80 then Char.ofNat b.toNat else '?'

/-- The integer that a numeral denotes in a base from 2 to 36. -/
def toIntIn (base : Nat) : Datum → Except Fault Datum
  | .text cs => .int <$> ofOption .badValue (Number.readInt? base cs)
  | .bytes bs => .int <$> ofOption .badValue (Number.readInt? base (latin bs))
  | _ => .error .wrongType

/-- The integer that a number or a decimal numeral stands for, without its fraction. -/
def toInt (d : Datum) : Except Fault Datum :=
  match d with
  | .float x =>
    if x.isNaN then .error .badValue else .int <$> ofOption .overflow x.truncate?
  | .text _ | .bytes _ => d.toIntIn 10
  | _ => .int <$> ofOption .wrongType d.toInteger?

/-- The floating point number that a number or a numeral stands for. -/
def toFloat (d : Datum) : Except Fault Datum :=
  match d with
  | .float x => .ok (.float x)
  | .text cs => .float <$> ofOption .badValue (Number.readFloat? cs)
  | .bytes bs => .float <$> ofOption .badValue (Number.readFloat? (latin bs))
  | _ => do
    let n ← ofOption .wrongType d.toInteger?
    .float <$> floatOfInt n

end Datum

/-! ## Combining -/

/-- The classes of records that are monoids, and the join of two values.  No class is built in: the
program that defines one says here that it is a monoid and how its records are joined. -/
class Monoids where
  isMonoid : Kind → Bool
  join : Datum → Datum → Except Fault Datum

/-- A program without monoids. -/
abbrev Monoids.none : Monoids where
  isMonoid _ := false
  join _ _ := .error .wrongType

namespace Datum

variable [Monoids]

/-- Whether a value is joined instead of added: it is a record of a monoid. -/
def isMonoid : Datum → Bool
  | .record kind _ => Monoids.isMonoid kind
  | _ => false

/-- Combines values from left to right, with the operation that the first of them calls for. -/
def combine : List Datum → Except Fault Datum
  | [] => .error .indexOutside
  | first :: more => more.foldlM (if first.isMonoid then Monoids.join else add) first

end Datum

end TokenGrammar
