/-
# Binary floating point numbers

A number is kept as its 64 bits, so that two numbers are equal as data exactly when they print
alike.  Everything that decides an answer (order, rounding of a quotient, truncation) is exact
integer arithmetic on the decoded fields; only sums and products go through the machine.
-/

namespace TokenGrammar

/-! ## Powers -/

/-- A power of two. -/
def twoPow (n : Nat) : Nat :=
  Nat.pow 2 n

/-- A power of ten. -/
def tenPow (n : Nat) : Nat :=
  Nat.pow 10 n

/-! ## Numbers -/

/-- A binary floating point number of 64 bits: a sign, eleven bits of exponent and fifty-two bits
of fraction. -/
structure Binary64 where
  bits : UInt64
deriving DecidableEq, Inhabited

namespace Binary64

/-! ## The fields of a number -/

/-- Whether the sign bit is set; `-0.0` is negative in this sense. -/
def negative (x : Binary64) : Bool :=
  x.bits >>> 63 == 1

/-- The exponent field, between 0 and 2047. -/
def exponentField (x : Binary64) : Nat :=
  ((x.bits >>> 52) &&& 0x7ff).toNat

/-- The fraction field, below `2 ^ 52`. -/
def fractionField (x : Binary64) : Nat :=
  (x.bits &&& 0xfffffffffffff).toNat

/-- Whether a number is neither infinite nor without a value. -/
def isFinite (x : Binary64) : Bool :=
  x.exponentField != 2047

/-- Whether there is no value at all. -/
def isNaN (x : Binary64) : Bool :=
  x.exponentField == 2047 && x.fractionField != 0

/-- The number is `significand * 2 ^ scale` up to its sign. -/
def significand (x : Binary64) : Nat :=
  if x.exponentField = 0 then x.fractionField else x.fractionField + twoPow 52

/-- The power of two that the significand is multiplied by. -/
def scale (x : Binary64) : Int :=
  if x.exponentField = 0 then -1074 else (x.exponentField : Int) - 1075

/-! ## Order -/

/-- A key that orders numbers by value: the sign with the remaining bits as magnitude.  Both zeros
have the key 0. -/
def orderKey (x : Binary64) : Int :=
  let magnitude : Int := (x.bits &&& 0x7fffffffffffffff).toNat
  if x.negative then -magnitude else magnitude

/-- The order of two numbers that have a value. -/
def compare (x y : Binary64) : Ordering :=
  Ord.compare x.orderKey y.orderKey

/-- Compares a number with an integer without rounding either of them. -/
def compareInt (x : Binary64) (n : Int) : Ordering :=
  let signed : Int := if x.negative then -(x.significand : Int) else x.significand
  if !x.isFinite then
    if x.negative then .lt else .gt
  else if 0 ≤ x.scale then
    Ord.compare (signed * twoPow x.scale.toNat) n
  else
    Ord.compare signed (n * twoPow (-x.scale).toNat)

/-! ## Rounding to the nearest number -/

/-- The quotient rounded to the nearest natural number, a half to the even neighbour. -/
def roundQuotient (num den : Nat) : Nat :=
  let q := num / den
  let r := num % den
  if 2 * r < den then q
  else if den < 2 * r then q + 1
  else if q % 2 = 0 then q else q + 1

/-- The infinity with a sign. -/
def infinity (negative : Bool) : Binary64 :=
  ⟨if negative then 0xfff0000000000000 else 0x7ff0000000000000⟩

/-- The exponent of the largest power of two not above `num / den`, both positive. -/
def binaryExponent (num den : Nat) : Int :=
  let e : Int := (Nat.log2 num : Int) - Nat.log2 den
  let reached := if 0 ≤ e then den * twoPow e.toNat ≤ num else den ≤ num * twoPow (-e).toNat
  if reached then e else e - 1

/-- The number nearest to `num / den` with the given sign, a tie going to the even significand.
Too large a quotient gives infinity, and `den` is positive.

A significand that rounds up to the next power of two carries into the exponent field by itself,
because the fields are added and not joined. -/
def ofRatio (negative : Bool) (num den : Nat) : Binary64 :=
  let sign : Nat := if negative then twoPow 63 else 0
  if num = 0 then ⟨(UInt64.ofNat sign)⟩
  else
    let q := max (binaryExponent num den - 52) (-1074)
    let m := if 0 ≤ q then roundQuotient num (den * twoPow q.toNat)
      else roundQuotient (num * twoPow (-q).toNat) den
    let magnitude := (q + 1074).toNat * twoPow 52 + m
    if 2047 * twoPow 52 ≤ magnitude then infinity negative
    else ⟨UInt64.ofNat (sign + magnitude)⟩

/-- The number nearest to an integer, or nothing if it lies beyond the finite numbers. -/
def ofInt? (n : Int) : Option Binary64 :=
  let x := ofRatio (decide (n < 0)) n.natAbs 1
  if x.isFinite then some x else none

/-- The number nearest to `digits * 10 ^ exponent`.  Exponents far outside the range of the format
are settled without computing the power. -/
def ofDecimal (negative : Bool) (digits : Nat) (exponent : Int) : Binary64 :=
  let width : Int := (Nat.toDigits 10 digits).length
  if digits = 0 then ofRatio negative 0 1
  else if 400 < width + exponent then infinity negative
  else if width + exponent < -400 then ofRatio negative 0 1
  else if 0 ≤ exponent then ofRatio negative (digits * tenPow exponent.toNat) 1
  else ofRatio negative digits (tenPow (-exponent).toNat)

/-- The integer part, or nothing for a number that is not finite. -/
def truncate? (x : Binary64) : Option Int :=
  if !x.isFinite then none
  else
    let magnitude : Int :=
      if 0 ≤ x.scale then (x.significand * twoPow x.scale.toNat : Nat)
      else (x.significand / twoPow (-x.scale).toNat : Nat)
    some (if x.negative then -magnitude else magnitude)

/-! ## Arithmetic -/

/-- The number with the opposite sign. -/
def neg (x : Binary64) : Binary64 :=
  ⟨x.bits ^^^ 0x8000000000000000⟩

/-- The sum, rounded. -/
def add (x y : Binary64) : Binary64 :=
  ⟨(Float.ofBits x.bits + Float.ofBits y.bits).toBits⟩

/-- The difference, rounded. -/
def sub (x y : Binary64) : Binary64 :=
  ⟨(Float.ofBits x.bits - Float.ofBits y.bits).toBits⟩

/-- The product, rounded. -/
def mul (x y : Binary64) : Binary64 :=
  ⟨(Float.ofBits x.bits * Float.ofBits y.bits).toBits⟩

end Binary64

end TokenGrammar
