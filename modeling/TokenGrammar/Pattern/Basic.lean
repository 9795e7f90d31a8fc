/-
# Regular expressions

The nodes of a regular expression and the sets of characters that it tests.  An expression is
written for texts or for byte strings; the characters of a byte string are its bytes, and only
ASCII letters, digits and blanks belong to their classes then.
-/
import TokenGrammar.Text.Character

namespace TokenGrammar

namespace Pattern

/-! ## Sets of characters -/

/-- The classes that have a letter of their own. -/
inductive Shorthand where
  | digit
  | word
  | blank
deriving DecidableEq

/-- A member of a set of characters. -/
inductive Item where
  | single (c : Char)
  | range (low high : Char)
  | shorthand (s : Shorthand) (negated : Bool)
deriving DecidableEq

/-- What kind of source an expression is for, and whether it ignores the case of letters. -/
structure Dialect where
  bytes : Bool
  ignoreCase : Bool
deriving DecidableEq

namespace Dialect

/-- Whether a character belongs to a class with a letter of its own. -/
def inShorthand (d : Dialect) (s : Shorthand) (c : Char) : Bool :=
  match s, d.bytes with
  | .digit, true => c.isDigit
  | .word, true => c.isAlphanum || c = '_'
  | .blank, true => c = ' ' || (0x09 ≤ c.toNat && c.toNat ≤ 0x0d)
  | .digit, false => (Character.digitValue? c).isSome
  | .word, false => Character.isWord c
  | .blank, false => Character.isBlank c

/-- The lower-case form of a character where the two cases are one. -/
def lower (d : Dialect) (c : Char) : Char :=
  if d.bytes then c.toLower else (Character.toLower c).headD c

/-- The upper-case form of a character, if it is a single character.  A longer one is no form that
a single character could have. -/
def upper? (c : Char) : Option Char :=
  match Character.toUpper c with
  | [u] => some u
  | _ => none

/-- The lower-case letters that count as one with a lower-case letter. -/
def family (c : Char) : List Char :=
  match Character.letterFamilies.find? (·.contains c.toNat) with
  | some numbers => numbers.map Char.ofNat
  | none => [c]

/-- All characters that differ from `c` in case at most. -/
def variants (d : Dialect) (c : Char) : List Char :=
  if d.bytes then [c, c.toLower, c.toUpper]
  else (family (d.lower c)).flatMap fun l =>
    l :: Char.ofNat (Shift.apply Character.furtherShifts l.toNat) :: (upper? l).toList

/-- The characters that stand for `c` when it is compared with the members of a set. -/
def forms (d : Dialect) (c : Char) : List Char :=
  if d.ignoreCase then d.variants c else [c]

/-- Whether a character belongs to a member of a set.  The classes hold letters of both cases, so
that only single characters and ranges look at the other forms. -/
def inItem (d : Dialect) (c : Char) : Item → Bool
  | .single x => (d.forms c).contains x
  | .range low high => (d.forms c).any fun x => low ≤ x && x ≤ high
  | .shorthand s negated => d.inShorthand s c != negated

/-- Whether a set of characters accepts a character. -/
def accepts (d : Dialect) (negated : Bool) (items : List Item) (c : Char) : Bool :=
  items.any (d.inItem c) != negated

end Dialect

/-! ## Widths -/

/-- The numbers of characters that a match can take: `least` or more, up to `most` if there is a
limit. -/
structure Width where
  least : Nat
  most : Option Nat
deriving DecidableEq

namespace Width

/-- A width that does not vary. -/
def exactly (n : Nat) : Width :=
  { least := n, most := some n }

/-- One match behind another. -/
def add (v w : Width) : Width :=
  { least := v.least + w.least, most := do pure ((← v.most) + (← w.most)) }

/-- One match or another. -/
def either (v w : Width) : Width :=
  { least := min v.least w.least, most := do pure (max (← v.most) (← w.most)) }

/-- A match repeated between `least` and `most` times.  Any number of matches without characters
takes no characters, and neither does no match at all. -/
def times (w : Width) (least : Nat) (most : Option Nat) : Width where
  least := w.least * least
  most := match w.most, most with
    | some 0, _ | _, some 0 => some 0
    | some h, some n => some (h * n)
    | _, _ => none

/-- The number of characters, if every match takes the same. -/
def fixed? (w : Width) : Option Nat :=
  if w.most = some w.least then some w.least else none

end Width

/-! ## Expressions -/

/-- How eagerly a repetition matches: as often as possible, as seldom as possible, or as often as
possible without giving anything back. -/
inductive Greed where
  | greedy
  | lazy
  | possessive
deriving DecidableEq

/-- A pattern as a tree. -/
inductive Node where
  | empty
  /-- Any character but a newline. -/
  | anyChar
  | set (negated : Bool) (items : List Item)
  | startOfText
  /-- The end, or with `beforeNewline` also the place before a final newline. -/
  | endOfText (beforeNewline : Bool)
  /-- A place where a word begins or ends. -/
  | boundary (negated : Bool)
  | cat (first second : Node)
  | alt (first second : Node)
  | loop (body : Node) (least : Nat) (most : Option Nat) (greed : Greed)
  /-- A group whose match can be referred to by its number. -/
  | group (number : Nat) (body : Node)
  /-- What the group with the number has matched, which takes `width` characters. -/
  | reference (number : Nat) (width : Width)
  | lookAhead (negated : Bool) (body : Node)
  /-- Looks at the `width` characters before a place. -/
  | lookBehind (negated : Bool) (width : Nat) (body : Node)

/-- How many characters a match takes. -/
def Node.width : Node → Width
  | .anyChar | .set _ _ => .exactly 1
  | .cat a b => a.width.add b.width
  | .alt a b => a.width.either b.width
  | .loop body least most _ => body.width.times least most
  | .group _ body => body.width
  | .reference _ width => width
  | _ => .exactly 0

end Pattern

/-- A regular expression together with the text it was read from. -/
structure Pattern where
  written : List Char
  dialect : Pattern.Dialect
  body : Pattern.Node

end TokenGrammar
