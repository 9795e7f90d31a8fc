/-
# Data

The values that parsers consume as tokens and produce as results.  Grammars are applied to tokens
of any kind, so that a value carries its own type.  Equality is the one that tokens are compared
with: numbers of all three types are equal when they have the same value, a sequence equals only a
sequence of its own type.
-/
import TokenGrammar.Decimal.Binary64
import TokenGrammar.Fault

namespace TokenGrammar

/-- The class of a record, with the name of its only field. -/
structure Kind where
  name : String
  field : String
deriving DecidableEq

/-- A value.  A `text` is the list of its characters.  A `record` belongs to a class that a program
defines besides the types that are built in. -/
inductive Datum where
  | null
  | bool (b : Bool)
  | int (n : Int)
  | float (x : Binary64)
  | text (cs : List Char)
  | bytes (bs : List UInt8)
  | list (items : List Datum)
  | tuple (items : List Datum)
  | record (kind : Kind) (content : Datum)
deriving Inhabited

namespace Datum

/-- A text with one character. -/
def char (c : Char) : Datum :=
  .text [c]

/-- A text with the characters of a string. -/
def ofString (s : String) : Datum :=
  .text s.toList

/-- A byte as a number. -/
def ofByte (b : UInt8) : Datum :=
  .int b.toNat

/-! ## Equality of values -/

/-- The whole number that a truth value or an integer stands for. -/
def toInteger? : Datum → Option Int
  | .bool b => some (if b then 1 else 0)
  | .int n => some n
  | _ => none

/-- Whether two integers or floating point numbers have the same value. -/
def sameNumber (a b : Datum) : Bool :=
  match a, b with
  | .float x, .float y => !x.isNaN && x.compare y == .eq
  | .float x, b =>
    match b.toInteger? with
    | some n => !x.isNaN && x.compareInt n == .eq
    | none => false
  | a, .float y =>
    match a.toInteger? with
    | some n => !y.isNaN && y.compareInt n == .eq
    | none => false
  | a, b =>
    match a.toInteger?, b.toInteger? with
    | some m, some n => m == n
    | _, _ => false

mutual

/-- Whether two values are equal as tokens. -/
def same : Datum → Datum → Bool
  | .null, .null => true
  | .text cs, .text ds => cs == ds
  | .bytes bs, .bytes cs => bs == cs
  | .list xs, .list ys => sameItems xs ys
  | .tuple xs, .tuple ys => sameItems xs ys
  | .record k a, .record l b => k == l && same a b
  | a, b => sameNumber a b

/-- Whether two lists are equal item by item. -/
def sameItems : List Datum → List Datum → Bool
  | [], [] => true
  | x :: xs, y :: ys => same x y && sameItems xs ys
  | _, _ => false

end

/-! ## Truth, size, hashing -/

/-- Absent, zero and empty values are false. -/
def truthy : Datum → Bool
  | .null => false
  | .bool b => b
  | .int n => n != 0
  | .float x => x.orderKey != 0
  | .text cs => !cs.isEmpty
  | .bytes bs => !bs.isEmpty
  | .list items => !items.isEmpty
  | .tuple items => !items.isEmpty
  | .record _ _ => true

/-- The number of items of a sequence. -/
def length : Datum → Except Fault Nat
  | .text cs => .ok cs.length
  | .bytes bs => .ok bs.length
  | .list items => .ok items.length
  | .tuple items => .ok items.length
  | _ => .error .wrongType

/-- The items of a sequence: the characters of a text, the numbers of a byte string. -/
def items : Datum → Except Fault (List Datum)
  | .text cs => .ok (cs.map char)
  | .bytes bs => .ok (bs.map ofByte)
  | .list items => .ok items
  | .tuple items => .ok items
  | _ => .error .wrongType

mutual

/-- Whether a value can be a key: no list occurs in it. -/
def hashable : Datum → Bool
  | .list _ => false
  | .tuple items => hashableItems items
  | .record _ a => hashable a
  | _ => true

/-- Whether all of several values can be keys. -/
def hashableItems : List Datum → Bool
  | [] => true
  | x :: xs => hashable x && hashableItems xs

end

end Datum

end TokenGrammar
