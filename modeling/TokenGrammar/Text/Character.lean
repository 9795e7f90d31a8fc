/-
# Characters and their classes

The classes that the text leaves test (letters, blanks, upper and lower case, digits), the
characters that are printed as they are, and the two case mappings, on single characters and on
whole texts.  ASCII follows the usual rules; the other characters stand in tables, one for each
class.
-/
import TokenGrammar.Text.Hidden
import TokenGrammar.Text.LetterCase
import TokenGrammar.Text.Letters
import TokenGrammar.Text.Numerals

namespace TokenGrammar

namespace Character

/-! ## Classes -/

/-- Whether a character shows when it is printed. -/
def isPrintable (c : Char) : Bool :=
  if c.toNat < 0x7f then 0x20 ≤ c.toNat else !hiddenRanges.has c.toNat

/-- Whether a character is a letter. -/
def isLetter (c : Char) : Bool :=
  if c.toNat < 0x7f then c.isAlpha else letterRanges.has c.toNat

/-- Spaces, and what ends or separates lines, fields and paragraphs. -/
def isBlank (c : Char) : Bool :=
  if c.toNat < 0x7f then
    (0x09 ≤ c.toNat && c.toNat ≤ 0x0d) || (0x1c ≤ c.toNat && c.toNat ≤ 0x20)
  else blankRanges.has c.toNat

/-- Whether a character is in upper case. -/
def isUpper (c : Char) : Bool :=
  if c.toNat < 0x7f then c.isUpper else upperRuns.has c.toNat

/-- Whether a character is in lower case. -/
def isLower (c : Char) : Bool :=
  if c.toNat < 0x7f then c.isLower else lowerRuns.has c.toNat

/-- Upper, lower and title case. -/
def isCased (c : Char) : Bool :=
  isUpper c || isLower c || titleRanges.has c.toNat

/-- The characters that do not separate a character from its cased neighbours. -/
def isIgnorable (c : Char) : Bool :=
  if c.toNat < 0x7f then ['\'', '.', ':', '^', '\x60'].contains c else ignorableRanges.has c.toNat

/-- The value of a digit of positional notation. -/
def digitValue? (c : Char) : Option Nat :=
  if c.toNat < 0x7f then
    if c.isDigit then some (c.toNat - '0'.toNat) else none
  else
    (zeros.find? fun z => z ≤ c.toNat && c.toNat < z + 10).map (c.toNat - ·)

/-- Digits of positional notation and superscripts alike. -/
def isDigit (c : Char) : Bool :=
  (digitValue? c).isSome || digitRanges.has c.toNat

/-- Letters, numerals and the underscore make up words. -/
def isWord (c : Char) : Bool :=
  isLetter c || isDigit c || numeralRanges.has c.toNat || c = '_'

/-! ## Case mappings -/

/-- The lower-case form.  The dotted capital I has one of two characters. -/
def toLower (c : Char) : List Char :=
  if c.toNat < 0x7f then [c.toLower]
  else if c = '\u0130' then ['i', '\u0307']
  else [Char.ofNat (Shift.apply lowerShifts c.toNat)]

/-- A character in upper case, which may be up to three characters. -/
def toUpper (c : Char) : List Char :=
  if c.toNat < 0x7f then [c.toUpper]
  else
    match upperExpansions.lookup c.toNat with
    | some form => form.map Char.ofNat
    | none => [Char.ofNat (Shift.apply upperShifts c.toNat)]

end Character

/-! ## Whole texts

A class holds of a text if the text is not empty and all of its characters belong; upper and lower
case ask only the cased characters, of which there must be one. -/

namespace Text

/-- Whether a text consists of letters and is not empty. -/
def isLetters (cs : List Char) : Bool :=
  !cs.isEmpty && cs.all Character.isLetter

/-- Whether a text consists of blanks and is not empty. -/
def isBlank (cs : List Char) : Bool :=
  !cs.isEmpty && cs.all Character.isBlank

/-- Whether a text consists of digits and is not empty. -/
def isDigits (cs : List Char) : Bool :=
  !cs.isEmpty && cs.all Character.isDigit

/-- Whether a text has letters in upper case and no others that have a case. -/
def isUpper (cs : List Char) : Bool :=
  cs.any Character.isUpper && cs.all fun c => !Character.isCased c || Character.isUpper c

/-- Whether a text has letters in lower case and no others that have a case. -/
def isLower (cs : List Char) : Bool :=
  cs.any Character.isLower && cs.all fun c => !Character.isCased c || Character.isLower c

/-- Whether a letter between the characters `before`, the nearest first, and `after` ends a word:
it has a cased neighbour in front and none behind. -/
def endsWord (before after : List Char) : Bool :=
  (before.dropWhile Character.isIgnorable).head?.any Character.isCased
    && !(after.dropWhile Character.isIgnorable).head?.any Character.isCased

/-- The lower-case form of what follows the characters `before`.  A sigma that ends a word has a
form of its own. -/
def toLowerAfter : List Char → List Char → List Char
  | _, [] => []
  | before, c :: cs =>
    (if c = '\u03a3' && endsWord before cs then ['\u03c2'] else Character.toLower c)
      ++ toLowerAfter (c :: before) cs

/-- A text in lower case. -/
def toLower (cs : List Char) : List Char :=
  toLowerAfter [] cs

/-- A text in upper case. -/
def toUpper (cs : List Char) : List Char :=
  cs.flatMap Character.toUpper

/-- A character alone has its own lower-case form. -/
@[simp] theorem toLower_singleton (c : Char) : toLower [c] = Character.toLower c := by
  simp [toLower, toLowerAfter, endsWord]

/-- Whether the first text occurs in the second as a run of consecutive characters. -/
def occursIn (needle : List Char) : List Char → Bool
  | [] => needle.isEmpty
  | c :: cs => needle.isPrefixOf (c :: cs) || occursIn needle cs

end Text

end TokenGrammar
