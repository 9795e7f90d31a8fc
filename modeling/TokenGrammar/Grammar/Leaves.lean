/-
# Ready-made grammars for tokens and text

Single tokens, classes of characters, words, numbers in any base from 2 to 36, and lists of those
separated by blanks.
-/
import TokenGrammar.Grammar.Basic

namespace TokenGrammar

namespace Grammar

variable [Monoids]

/-! ## Tokens -/

/-- Any token. -/
def item : Grammar :=
  .satisfy (fun _ => .ok true) "item"

/-- A token equal to `t`. -/
def token (t : Datum) : Grammar :=
  .satisfy (fun x => .ok (x.same t)) t.render

/-- Any of the given tokens. -/
def oneOf (allowed : List Datum) : Grammar :=
  .satisfy (fun x => .ok (allowed.any fun t => x.same t))
    ("one of " ++ commaSeparated (allowed.map Datum.render))

/-- Any token but the given ones. -/
def noneOf (excluded : List Datum) : Grammar :=
  .satisfy (fun x => .ok (!excluded.any fun t => x.same t))
    ("none of " ++ commaSeparated (excluded.map Datum.render))

/-- The description in which a range of tokens is written down. -/
def rangeDescription (low high : Datum) : String :=
  "[" ++ low.render ++ ".." ++ high.render ++ "]"

/-- A token between `low` and `high`. -/
def inRange (low high : Datum) (description : String) : Grammar :=
  .satisfy (fun t => Datum.between low high t) description

/-! ## Classes of characters -/

/-- A token that is a text of the given class. -/
def textClass (member : List Char → Bool) (description : String) : Grammar :=
  .satisfy
    (fun
      | .text cs => .ok (member cs)
      | _ => .error .wrongType)
    description

/-- One letter. -/
def letter : Grammar :=
  textClass Text.isLetters "letter"

/-- One lower-case letter. -/
def lower : Grammar :=
  textClass Text.isLower "lowercase letter"

/-- One upper-case letter. -/
def upper : Grammar :=
  textClass Text.isUpper "uppercase letter"

/-- One blank. -/
def space : Grammar :=
  textClass Text.isBlank "space"

/-- The ASCII characters that are neither letters nor digits nor blanks, in order. -/
def punctuationMarks : List Char :=
  ((List.range 0x7f).map Char.ofNat).filter fun c => 0x20 < c.toNat && !c.isAlphanum

/-- A token that occurs among the given characters. -/
def among (cs : List Char) (description : String) : Grammar :=
  .satisfy (fun t => t.isIn (.text cs)) description

/-- One punctuation mark. -/
def punctuation : Grammar :=
  among punctuationMarks "punctuation"

/-- One decimal digit. -/
def digit : Grammar :=
  inRange (Datum.char '0') (Datum.char '9') "digit"

/-- One hexadecimal digit. -/
def hexDigit : Grammar :=
  among "0123456789abcdefABCDEF".toList "hex digit"

/-! ## Blanks and words -/

/-- One or more blanks. -/
def spaces : Grammar :=
  .oneOrMore space none

/-- Any number of blanks, without a value. -/
def skipSpaces : Grammar :=
  .ignore (.zeroOrMore space none)

/-- One or more of `p`, each behind any number of blanks. -/
def spaced (p : Grammar) : Grammar :=
  .oneOrMore (.ignoreLeft (.zeroOrMore space none) p) none

/-- One or more letters as one text. -/
def word : Grammar :=
  (Grammar.oneOrMore letter none).reduce.describe (some "word")

/-- Words, each behind any number of blanks. -/
def words : Grammar :=
  spaced word

/-- One or more repetitions of a token, at most as many as the bound says. -/
def characters (t : Datum) (bound : Option Bound) : Grammar :=
  .oneOrMore (token t) bound

/-- The given tokens in order, joined to one value. -/
def joined (first : Datum) (more : List Datum) (description : String) : Grammar :=
  ((token first).sequence (more.map token)).reduce.describe (some description)

/-- The items of a text or tuple in order; there must be one. -/
def string (s : Datum) : Except Fault Grammar := do
  if s.truthy then
    match ← s.items with
    | [] => .error .emptyText
    | first :: more => pure (joined first more s.render)
  else .error .emptyText

/-! ## Digits and natural numbers -/

/-- The digits of base 36, from which smaller bases take the first ones. -/
def digitCharacters : List Char :=
  "0123456789abcdefghijklmnopqrstuvwxyz".toList

/-- A token whose lower-case form occurs among the digits of a base. -/
def isDigitOf (base : Nat) : Datum → Except Fault Bool
  | .text cs => .ok (Text.occursIn (Text.toLower cs) (digitCharacters.take base))
  | .bytes _ => .error .wrongType
  | _ => .error .missingOperation

/-- One digit of a base from 2 to 36. -/
def digitIn (base : Nat) : Grammar :=
  if base = 10 then digit
  else if base = 16 then hexDigit
  else .satisfy (isDigitOf base) ("base-" ++ toString base ++ " digit")

/-- One or more digits, joined. -/
def digits (base : Nat) : Grammar :=
  (Grammar.oneOrMore (digitIn base) none).reduce.describe (some "digits")

/-- One digit as a number. -/
def digitValue (base : Nat) : Grammar :=
  (digitIn base).lift (Datum.toIntIn base)

/-- The values of digits, each behind any number of blanks. -/
def digitValues (base : Nat) : Grammar :=
  spaced (digitValue base)

/-- The number that a numeral stands for. -/
def natural (base : Nat) : Grammar :=
  ((digits base).lift (Datum.toIntIn base)).describe (some "natural number")

/-- Natural numbers, each behind any number of blanks. -/
def naturals (base : Nat) : Grammar :=
  spaced (natural base)

/-! ## Signed and fractional numbers -/

/-- A plus or a minus. -/
def sign : Grammar :=
  oneOf [Datum.char '+', Datum.char '-']

/-- Digits behind a sign, which may be absent. -/
def signedDigits : Grammar :=
  (digits 10).choice [(sign.andThen (digits 10)).reduce]

/-- The number that a numeral with or without a sign stands for. -/
def integer : Grammar :=
  (signedDigits.lift Datum.toInt).describe (some "integer")

/-- Integers, each behind any number of blanks. -/
def integers : Grammar :=
  spaced integer

/-- A point and the digits after it. -/
def fraction : Grammar :=
  ((token (Datum.char '.')).andThen (digits 10)).reduce

/-- The mark of an exponent and the integer after it. -/
def exponent : Grammar :=
  ((oneOf [Datum.char 'e', Datum.char 'E']).andThen signedDigits).reduce

/-- A decimal number with an optional sign, fraction and exponent. -/
def floating : Grammar :=
  ((((signedDigits.andThen (fraction.optional (some (.text [])))).andThen
    (exponent.optional (some (.text [])))).reduce).lift Datum.toFloat).describe
      (some "floating point number")

/-- Decimal numbers, each behind any number of blanks. -/
def floatings : Grammar :=
  spaced floating

end Grammar

end TokenGrammar
