/-
# Getting values out of a parser

The ways to use a parser from outside: all its values, its first value, or all its values provided
that they take up the whole input.  A failed application gives its leading failure instead.
-/
import TokenGrammar.Parser.Basic

namespace TokenGrammar

namespace Parser

/-- All values, or the leading failure. -/
def values (p : Parser) (r : Span) : Run (Except Failure (List Datum)) := do
  let x ← p.parse r
  match x.failure? with
  | some f => pure (.error f)
  | none => pure (.ok x.values)

/-- All values if nothing is left after them. -/
def valuesToEnd (p : Parser) (r : Span) : Run (Except Failure (List Datum)) :=
  (p.andThen done).values r

/-- The first value, if there is one, or the leading failure. -/
def first (p : Parser) (r : Span) : Run (Except Failure (Option Datum)) := do
  let x ← p.parse r
  match x.failure? with
  | some f => pure (.error f)
  | none => pure (.ok x.values.head?)

/-- The written form of a parser, which shows its description. -/
def render (p : Parser) : String :=
  "Parser(" ++ renderOption p.description ++ ")"

end Parser

/-- Where a session goes on: behind a success, and at the same place after a failure. -/
def Results.next (x : Results) (r : Span) : Span :=
  if x.isSuccess then x.remaining.getD r else r

end TokenGrammar
