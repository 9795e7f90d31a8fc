/-
# Quoted text

Texts and byte strings are shown between quotes.  The single quote is used unless the content holds
one and no double quote; the quote in use, the backslash and whatever is not printable are escaped.
-/
import TokenGrammar.Text.Character

namespace TokenGrammar

namespace Quoted

/-- The hexadecimal digit for a number below sixteen. -/
def hexDigit (n : Nat) : Char :=
  if n < 10 then Char.ofNat ('0'.toNat + n) else Char.ofNat ('a'.toNat + n - 10)

/-- The last `width` hexadecimal digits of a number. -/
def hex : Nat → Nat → List Char
  | 0, _ => []
  | width + 1, n => hex width (n / 16) ++ [hexDigit (n % 16)]

/-- The double quote is used only where it saves escaping a single one. -/
def quoteFor (content : List Char) : Char :=
  if content.contains '\'' && !content.contains '"' then '"' else '\''

/-- The escapes that have a letter of their own. -/
def named? (quote c : Char) : Option (List Char) :=
  if c = '\\' || c = quote then some ['\\', c]
  else if c = '\n' then some ['\\', 'n']
  else if c = '\r' then some ['\\', 'r']
  else if c = '\t' then some ['\\', 't']
  else none

/-- Any other character that cannot be printed is written by its number, as short as it fits. -/
def numbered (c : Char) : List Char :=
  if c.toNat < 0x100 then '\\' :: 'x' :: hex 2 c.toNat
  else if c.toNat < 0x10000 then '\\' :: 'u' :: hex 4 c.toNat
  else '\\' :: 'U' :: hex 8 c.toNat

/-- How a character is written between quotes of a kind. -/
def escape (quote c : Char) : List Char :=
  match named? quote c with
  | some written => written
  | none => if Character.isPrintable c then [c] else numbered c

/-- A text between quotes. -/
def text (cs : List Char) : List Char :=
  let quote := quoteFor cs
  quote :: (cs.flatMap (escape quote) ++ [quote])

/-- How a byte is written between quotes of a kind. -/
def escapeByte (quote : Char) (b : UInt8) : List Char :=
  let c := Char.ofNat b.toNat
  match named? quote c with
  | some written => written
  | none => if 0x20 ≤ b && b ≤ 0x7e then [c] else numbered c

/-- A byte string between quotes, marked by a leading `b`. -/
def bytes (bs : List UInt8) : List Char :=
  let quote := quoteFor (bs.map fun b => Char.ofNat b.toNat)
  'b' :: quote :: (bs.flatMap (escapeByte quote) ++ [quote])

end Quoted

end TokenGrammar
