/-
# Reading numbers

How a text is read as an integer in some base or as a decimal fraction.  Surrounding blanks are
dropped, a sign may lead, single underscores may stand between digits, and digits of other scripts
count as their values.
-/
import TokenGrammar.Decimal.Binary64
import TokenGrammar.Text.Character

namespace TokenGrammar

namespace Number

/-! ## Preparing a text -/

/-- Whether an ASCII character is dropped at either end of a number. -/
def isMargin (c : Char) : Bool :=
  c = ' ' || (0x09 ≤ c.toNat && c.toNat ≤ 0x0d)

/-- Blanks and digits outside ASCII are replaced by their ASCII counterparts. -/
def toAscii (c : Char) : Char :=
  if c.toNat < 0x7f then c
  else if Character.isBlank c then ' '
  else match Character.digitValue? c with
    | some v => Char.ofNat ('0'.toNat + v)
    | none => c

/-- A text without the blanks around it. -/
def trim (cs : List Char) : List Char :=
  ((cs.dropWhile isMargin).reverse.dropWhile isMargin).reverse

/-- A numeral with its digits and blanks in ASCII and without its margins. -/
def prepare (cs : List Char) : List Char :=
  trim (cs.map toAscii)

/-- Splits off a sign; the flag says whether it is a minus. -/
def splitSign : List Char → Bool × List Char
  | '-' :: cs => (true, cs)
  | '+' :: cs => (false, cs)
  | cs => (false, cs)

/-! ## Integers -/

/-- The value of a digit or letter as a digit of base 36. -/
def digit36? (c : Char) : Option Nat :=
  if c.isDigit then some (c.toNat - '0'.toNat)
  else if c.isLower then some (c.toNat - 'a'.toNat + 10)
  else if c.isUpper then some (c.toNat - 'A'.toNat + 10)
  else none

/-- The value of a digit in a base. -/
def digit? (base : Nat) (c : Char) : Option Nat :=
  (digit36? c).filter (· < base)

/-- Reads digits with single underscores between them.  `ready` says that the character before was
a digit, so that an underscore may follow. -/
def readDigits (base : Nat) : Bool → List Char → Option (List Nat)
  | ready, [] => if ready then some [] else none
  | ready, c :: cs =>
    if c = '_' then
      if ready then readDigits base false cs else none
    else
      match digit? base c with
      | some d => (readDigits base true cs).map (d :: ·)
      | none => none

/-- The value of a list of digits, the most significant first. -/
def ofDigits (base : Nat) (ds : List Nat) : Nat :=
  ds.foldl (fun acc d => base * acc + d) 0

/-- The longest numeral that is converted in a base that is not a power of two. -/
def maxDigits : Nat := 4300

/-- In these bases a numeral of any length is converted. -/
def isBinaryBase (base : Nat) : Bool :=
  [2, 4, 8, 16, 32].contains base

/-- Drops a mark such as `0x` in front of a numeral of base 2, 8 or 16, with an underscore after
it. -/
def dropBaseMark (base : Nat) : List Char → List Char
  | '0' :: m :: cs =>
    if (base = 16 && (m = 'x' || m = 'X')) || (base = 8 && (m = 'o' || m = 'O'))
        || (base = 2 && (m = 'b' || m = 'B')) then
      match cs with
      | '_' :: more => more
      | _ => cs
    else '0' :: m :: cs
  | cs => cs

/-- Reads an integer in a base from 2 to 36. -/
def readInt? (base : Nat) (cs : List Char) : Option Int := do
  let (negative, body) := splitSign (prepare cs)
  let ds ← readDigits base false (dropBaseMark base body)
  if maxDigits < ds.length && !isBinaryBase base then none
  else
    let magnitude : Int := ofDigits base ds
    some (if negative then -magnitude else magnitude)

/-! ## Decimal fractions -/

/-- Removes underscores that stand between two digits; any other underscore is an error.  `ready`
says that the character before was a digit. -/
def dropUnderscores : Bool → List Char → Option (List Char)
  | _, [] => some []
  | ready, '_' :: c :: cs =>
    if ready && c.isDigit then (dropUnderscores true cs).map (c :: ·) else none
  | _, ['_'] => none
  | _, c :: cs => (dropUnderscores c.isDigit cs).map (c :: ·)

/-- The value of the exponent part, which may be absent. -/
def readExponent? : List Char → Option Int
  | [] => some 0
  | e :: cs =>
    if e = 'e' || e = 'E' then
      let (negative, ds) := splitSign cs
      if !ds.isEmpty && ds.all Char.isDigit then
        let magnitude : Int := ofDigits 10 (ds.map fun c => c.toNat - '0'.toNat)
        some (if negative then -magnitude else magnitude)
      else none
    else none

/-- Reads digits, a point with more digits, and an exponent. -/
def readUnsigned? (negative : Bool) (cs : List Char) : Option Binary64 := do
  let whole := cs.takeWhile Char.isDigit
  let rest := cs.dropWhile Char.isDigit
  let (fraction, rest) := match rest with
    | '.' :: more => (more.takeWhile Char.isDigit, more.dropWhile Char.isDigit)
    | _ => ([], rest)
  if whole.isEmpty && fraction.isEmpty then none
  else
    let exponent ← readExponent? rest
    let digits := ofDigits 10 ((whole ++ fraction).map fun c => c.toNat - '0'.toNat)
    some (Binary64.ofDecimal negative digits (exponent - fraction.length))

/-- The number without a value. -/
def notANumber : Binary64 := ⟨0x7ff8000000000000⟩

/-- Reads a decimal number, or one of the words for infinity and not-a-number. -/
def readFloat? (cs : List Char) : Option Binary64 := do
  let body ← dropUnderscores false (prepare cs)
  let (negative, magnitude) := splitSign body
  let word := String.ofList (magnitude.map Char.toLower)
  if word = "inf" || word = "infinity" then some (Binary64.infinity negative)
  else if word = "nan" then some notANumber
  else readUnsigned? negative magnitude

end Number

end TokenGrammar
