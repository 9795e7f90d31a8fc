/-
# Shortest decimals

A finite number is written with the fewest digits that read back as the same number.  The digits
come from the interval of reals that round to the number: on the grids of 1, 2, ..., 17 digits the
two neighbours of the number are tried, and the first grid with a neighbour inside the interval
wins.
-/
import TokenGrammar.Decimal.Binary64

namespace TokenGrammar

namespace Binary64

/-! ## Digits -/

/-- A positive real `num / den` together with the ends of the interval that rounds to it, all over
the same denominator. -/
structure Neighbourhood where
  low : Nat
  num : Nat
  high : Nat
  den : Nat
  closed : Bool

/-- The reals that round to `x`.  The lower gap is half as wide below a power of two. -/
def neighbourhood (x : Binary64) : Neighbourhood :=
  let m := x.significand
  let narrow := x.fractionField = 0 && 1 < x.exponentField
  let unit := if 0 ≤ x.scale then twoPow x.scale.toNat else 1
  let den := if 0 ≤ x.scale then 4 else 4 * twoPow (-x.scale).toNat
  { low := (4 * m - if narrow then 1 else 2) * unit
    num := 4 * m * unit
    high := (4 * m + 2) * unit
    den := den
    closed := m % 2 = 0 }

/-- The number of decimal digits. -/
def width (n : Nat) : Nat :=
  (Nat.toDigits 10 n).length

/-- The exponent of the largest power of ten not above `num / den`. -/
def decimalExponent (num den : Nat) : Int :=
  if den ≤ num then (width (num / den) : Int) - 1 else -(width ((den - 1) / num) : Int)

/-- Whether `d * 10 ^ p` lies in the interval. -/
def Neighbourhood.covers (v : Neighbourhood) (d : Nat) (p : Int) : Bool :=
  let point := if 0 ≤ p then d * tenPow p.toNat * v.den else d * v.den
  let unit := if 0 ≤ p then 1 else tenPow (-p).toNat
  if v.closed then v.low * unit ≤ point && point ≤ v.high * unit
  else v.low * unit < point && point < v.high * unit

/-- The better of the two neighbours of the number on the grid of multiples of `10 ^ p`, if one of
them lies in the interval. -/
def Neighbourhood.onGrid? (v : Neighbourhood) (p : Int) : Option (Nat × Int) :=
  let num := if 0 ≤ p then v.num else v.num * tenPow (-p).toNat
  let den := if 0 ≤ p then v.den * tenPow p.toNat else v.den
  let below := num / den
  let above := below + 1
  match v.covers below p, v.covers above p with
  | true, true =>
    let twice := 2 * (num % den)
    if twice < den || (twice = den && below % 2 = 0) then some (below, p) else some (above, p)
  | true, false => some (below, p)
  | false, true => some (above, p)
  | false, false => none

/-- Tries the grids whose unit is `10 ^ p`, `10 ^ (p - 1)`, ... in turn. -/
def Neighbourhood.shortest (v : Neighbourhood) : Nat → Int → Nat × Int
  | 0, p => (v.num / v.den, p)
  | fuel + 1, p =>
    match v.onGrid? p with
    | some answer => answer
    | none => v.shortest fuel (p - 1)

/-- The shortest decimal `d * 10 ^ p` that rounds to the finite positive number `x`. -/
def shortestDecimal (x : Binary64) : Nat × Int :=
  let v := x.neighbourhood
  v.shortest 17 (decimalExponent v.num v.den)

/-! ## Layout -/

/-- Digits without trailing zeros. -/
def dropZeros (digits : List Char) : List Char :=
  (digits.reverse.dropWhile (· = '0')).reverse

/-- Writes `0.d₁d₂... * 10 ^ point`: positionally while the decimal exponent lies between -4 and
15, and otherwise with an exponent of at least two digits. -/
def layout (digits : List Char) (point : Int) : List Char :=
  let count : Int := digits.length
  if -4 < point ∧ point ≤ 16 then
    if point ≤ 0 then '0' :: '.' :: (List.replicate (-point).toNat '0' ++ digits)
    else if count ≤ point then digits ++ List.replicate (point - count).toNat '0' ++ ['.', '0']
    else digits.take point.toNat ++ '.' :: digits.drop point.toNat
  else
    let exponent := point - 1
    let shown := Nat.toDigits 10 exponent.natAbs
    let padded := if shown.length < 2 then '0' :: shown else shown
    let tail := 'e' :: (if exponent < 0 then '-' else '+') :: padded
    match digits with
    | [] => tail
    | [d] => d :: tail
    | d :: more => d :: '.' :: (more ++ tail)

/-- The text of a number: `1.5`, `1.0`, `-0.0`, `1e+16`, `1e-05`, `inf`. -/
def render (x : Binary64) : List Char :=
  let sign := if x.negative then ['-'] else []
  if x.isNaN then "nan".toList
  else if !x.isFinite then sign ++ "inf".toList
  else if x.significand = 0 then sign ++ "0.0".toList
  else
    let (d, p) := x.shortestDecimal
    let digits := Nat.toDigits 10 d
    sign ++ layout (dropZeros digits) (digits.length + p)

end Binary64

end TokenGrammar
