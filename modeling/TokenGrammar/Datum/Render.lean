/-
# The written form of a value

Values are shown in messages and descriptions the way a program would write them down: texts and
byte strings quoted, sequences in brackets or parentheses, a tuple of one item with a comma, a
record with the name of its class and its field.
-/
import TokenGrammar.Datum.Basic
import TokenGrammar.Decimal.Shortest
import TokenGrammar.Text.Quoted

namespace TokenGrammar

/-- Written forms separated by commas. -/
def commaSeparated (written : List String) : String :=
  ", ".intercalate written

namespace Datum

mutual

/-- The written form of a value. -/
def render : Datum → String
  | .null => "None"
  | .bool b => if b then "True" else "False"
  | .int n => toString n
  | .float x => String.ofList x.render
  | .text cs => String.ofList (Quoted.text cs)
  | .bytes bs => String.ofList (Quoted.bytes bs)
  | .list items => "[" ++ commaSeparated (renderItems items) ++ "]"
  | .tuple items =>
    match renderItems items with
    | [one] => "(" ++ one ++ ",)"
    | written => "(" ++ commaSeparated written ++ ")"
  | .record kind a => kind.name ++ "(" ++ kind.field ++ "=" ++ render a ++ ")"

/-- The written forms of several values. -/
def renderItems : List Datum → List String
  | [] => []
  | x :: xs => render x :: renderItems xs

end

/-- The longest integer, in decimal digits, that is written down on request. -/
def longest : Nat := 4300

mutual

/-- Whether all integers inside a value are short enough to be written down. -/
def writable : Datum → Bool
  | .int n => n.natAbs < tenPow longest
  | .list items => writableItems items
  | .tuple items => writableItems items
  | .record _ a => writable a
  | _ => true

/-- Whether several values can be written. -/
def writableItems : List Datum → Bool
  | [] => true
  | x :: xs => writable x && writableItems xs

end

/-- An integer can be written down if it does not have too many digits. -/
theorem writable_int_iff (n : Int) : (int n).writable = true ↔ n.natAbs < tenPow longest := by
  rw [writable, decide_eq_true_iff]

/-- The written form of a value that can be written down. -/
def written (d : Datum) : Except Fault String :=
  if d.writable then .ok d.render else .error .badValue

/-- The text of a value in a message: a text stands for itself, anything else is written down. -/
def display : Datum → String
  | .text cs => String.ofList cs
  | d => d.render

/-- The text of a value in a message, unless it would have to be written down and cannot. -/
def displayed (d : Datum) : Except Fault String :=
  if d.writable then .ok d.display else .error .badValue

end Datum

/-- The written form of a text that may be absent. -/
def renderOption : Option String → String
  | none => Datum.null.render
  | some s => (Datum.ofString s).render

end TokenGrammar
