/-
# Failures

A failure says why a parser did not accept: what it expected or how often it matched, and the
position where the attempt started.  Failures are data; `explain` shows the position in a text as a
line, a column and a caret under the offending character.
-/
import TokenGrammar.Datum.Render
import TokenGrammar.Text.Line

namespace TokenGrammar

/-- The kinds of failure, each with what it tells besides its message. -/
inductive Reason where
  | general
  /-- A token was needed and none was left. -/
  | missing
  /-- The failure of the parser that always fails. -/
  | zero
  | mismatch (expected got : Datum)
  /-- A repetition with too few or too many matches. -/
  | cardinality (bound : Datum)
  /-- A token where the input had to end. -/
  | unexpected (token : Datum)

/-- Why a parser did not accept, in words, and where. -/
structure Failure where
  reason : Reason
  message : String
  position : Option Int

namespace Failure

/-! ## The failures of the parsers -/

/-- The failure where a token was needed and none was left. -/
def missingItem (position : Nat) : Failure :=
  { reason := .missing, message := "expected item", position := some position }

/-- What is expected, given by a description that may be absent. -/
def mismatch (description : Option String) (got : Datum) (position : Nat) : Failure :=
  { reason := .mismatch ((description.map Datum.ofString).getD .null) got
    message := "expected " ++ description.getD Datum.null.render
    position := some position }

/-- The failure of a repetition without a match. -/
def tooFew (position : Nat) : Failure :=
  { reason := .cardinality (.int 1), message := "expected at least one result"
    position := some position }

/-- The failure of a repetition with more matches than its bound. -/
def tooMany (bound : Datum) (position : Nat) : Failure :=
  { reason := .cardinality bound, message := "expected at most " ++ bound.render ++ " matches"
    position := some position }

/-- The failure at a token that is in the way.  Its message shows the token, which must be short
enough to be written down. -/
def unexpected (token : Datum) (position : Nat) : Except Fault Failure := do
  let shown ← token.written
  pure
    { reason := .unexpected token, message := "unexpected " ++ shown, position := some position }

/-- A token that can be written is shown. -/
theorem unexpected_of_writable {token : Datum} (h : token.writable = true) (position : Nat) :
    unexpected token position = .ok
      { reason := .unexpected token, message := "unexpected " ++ token.render
        position := some position } := by
  rw [unexpected, Datum.written, if_pos h]
  rfl

/-- A token that cannot be written keeps the failure from being made. -/
theorem unexpected_of_not_writable {token : Datum} (h : token.writable = false) (position : Nat) :
    unexpected token position = .error .badValue := by
  rw [unexpected, Datum.written, h]
  rfl

/-- The failure of a parser that fails without saying why. -/
def zero : Failure :=
  { reason := .zero, message := "failure", position := none }

/-! ## Showing a failure -/

/-- The message together with the position. -/
def describe (f : Failure) : String :=
  match f.position with
  | none => f.message
  | some p => f.message ++ " (at position " ++ toString p ++ ")"

/-- The message, the line of `cs` around the position and a caret below the position.  A position
outside the text is shown on the line at the nearer end. -/
def explainIn (f : Failure) (position : Int) (cs : List Char) : String :=
  let place := Index.clamp cs.length position
  let start := Line.start cs place
  let column := position - start
  let line := Line.between cs start (Line.stop cs place)
  f.message ++ " at line " ++ toString (Line.number cs place) ++ ", column "
    ++ toString (column + 1) ++ "\n" ++ String.ofList line ++ "\n"
    ++ String.ofList (List.replicate column.toNat ' ' ++ ['^'])

/-- Explains a failure in the input it arose from; only a text has lines to show. -/
def explain (f : Failure) (input : Option Datum) : String :=
  match f.position, input with
  | some p, some (.text cs) => f.explainIn p cs
  | _, _ => f.describe

/-- The name of the kind of failure. -/
def kindName (f : Failure) : String :=
  match f.reason with
  | .general => "Failure"
  | .missing => "MissingError"
  | .zero => "ZeroError"
  | .mismatch _ _ => "MismatchError"
  | .cardinality _ => "CardinalityError"
  | .unexpected _ => "UnexpectedError"

/-- The fields that belong to the kind of failure alone, with their names. -/
def details (f : Failure) : List (String × Datum) :=
  match f.reason with
  | .general | .missing | .zero => []
  | .mismatch expected got => [("expected", expected), ("got", got)]
  | .cardinality bound => [("bound", bound)]
  | .unexpected token => [("unexpected", token)]

/-- The failure of the kind with the given name that has the given fields.  All fields but the
position are needed, and there are no others. -/
def ofFields (kind : String) (fields : List (String × Datum)) : Except Fault Failure := do
  let need (name : String) : Except Fault Datum :=
    match fields.lookup name with
    | some d => .ok d
    | none => .error .wrongType
  let message := (← need "message").display
  let position ← match fields.lookup "position" with
    | none | some .null => pure none
    | some d =>
      match d.toInteger? with
      | some p => pure (some p)
      | none => .error .wrongType
  let reason ← match kind with
    | "Failure" => pure .general
    | "MissingError" => pure .missing
    | "ZeroError" => pure .zero
    | "MismatchError" => pure (.mismatch (← need "expected") (← need "got"))
    | "CardinalityError" => pure (.cardinality (← need "bound"))
    | "UnexpectedError" => pure (.unexpected (← need "unexpected"))
    | _ => .error .wrongType
  let f : Failure := { reason := reason, message := message, position := position }
  let known := "message" :: "position" :: f.details.map (·.1)
  if fields.all fun (name, _) => known.contains name then pure f else .error .wrongType

/-- The position as a value. -/
def positionDatum (f : Failure) : Datum :=
  match f.position with
  | none => .null
  | some p => .int p

/-- All fields in the order in which they are written. -/
def fields (f : Failure) : List (String × Datum) :=
  ("message", Datum.ofString f.message) :: ("position", f.positionDatum) :: f.details

/-- The written form of a failure. -/
def render (f : Failure) : String :=
  f.kindName ++ "(" ++ commaSeparated (f.fields.map fun (name, d) => name ++ "=" ++ d.render) ++ ")"

/-- Whether all fields can be written down. -/
def writable (f : Failure) : Bool :=
  f.fields.all fun (_, d) => d.writable

/-- Whether two failures are of the same kind and have equal fields. -/
def same (f g : Failure) : Bool :=
  f.kindName == g.kindName && Datum.sameItems (f.fields.map (·.2)) (g.fields.map (·.2))

end Failure

end TokenGrammar
