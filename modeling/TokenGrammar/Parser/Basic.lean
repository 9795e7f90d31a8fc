/-
# Parsers

A parser takes a window on a source to results.  It holds no state, so that it can be applied to
any number of windows.  This module has the parsers for a single token and for nothing, and the
combinators for sequence, choice, discarding, checking and computing on values.
-/
import TokenGrammar.Results
import TokenGrammar.Run

namespace TokenGrammar

/-- A parser and the description that messages and descriptions of larger parsers use. -/
structure Parser where
  description : Option String
  parse : Span → Run Results

/-- The description of two things joined by an operator.  A part without a description is left
out. -/
def joinDescriptions (a : Option String) (op : String) (b : Option String) : Option String :=
  match a, b with
  | some a, some b => some ("[" ++ a ++ op ++ b ++ "]")
  | some one, none | none, some one => if one = "" then none else some one
  | none, none => none

namespace Parser

/-- The same parser under another description. -/
def describe (p : Parser) (description : Option String) : Parser :=
  { p with description := description }

/-! ## Single tokens -/

/-- Consumes one token if it is accepted. -/
def satisfy (accepts : Datum → Except Fault Bool) (description : String) : Parser where
  description := some description
  parse r :=
    if r.isEmpty then pure (.fail (.missingItem r.start))
    else do
      let t ← Run.ofSpan r.head
      if ← Run.ofFault (accepts t) then
        let rest ← Run.ofSpan (r.tail 1)
        pure (.single (.value t rest))
      else pure (.fail (.mismatch (some description) t r.start))

/-! ## Parsers that consume nothing -/

/-- Produces a value without consuming anything. -/
def succeed (v : Datum) : Parser where
  description := none
  parse r := pure (.single (.value v r))

/-- Succeeds without consuming anything or producing a value. -/
def empty : Parser where
  description := none
  parse r := pure (.single (.empty r))

/-- Always fails with the same failure. -/
def zero (f : Failure) : Parser where
  description := none
  parse _ := pure (.fail f)

/-- Succeeds at the end of the window only.  It halts in front of a token that its failure cannot
show. -/
def done : Parser where
  description := none
  parse r :=
    if r.isEmpty then pure (.single (.empty r))
    else do
      let t ← Run.ofSpan r.head
      let f ← Run.ofFault (Failure.unexpected t r.start)
      pure (.fail f)

/-- Halts whenever it is applied. -/
def halt (h : Halt) : Parser where
  description := none
  parse _ := .halt h

/-! ## Sequence and choice -/

end Parser

/-- Goes on from the input that successful results leave; other results are final. -/
def Results.proceed (x : Results) (k : Span → Run Results) : Run Results :=
  if x.isSuccess then
    match x.remaining with
    | some rest => k rest
    | none => pure x
  else pure x

/-- A success goes on from what it leaves. -/
theorem Results.proceed_of_success {x : Results} {rest : Span} (hx : x.isSuccess = true)
    (hrest : x.remaining = some rest) (k : Span → Run Results) : x.proceed k = k rest := by
  rw [proceed, if_pos hx, hrest]

/-- A failure stays as it is. -/
theorem Results.proceed_of_failure {x : Results} (hx : x.isSuccess = false)
    (k : Span → Run Results) : x.proceed k = pure x := by
  rw [proceed, hx]
  rfl

namespace Parser

/-- Applies `p` and then `q` to the rest.  A failure of either is the failure of both. -/
def andThen (p q : Parser) : Parser where
  description := joinDescriptions p.description " >> " q.description
  parse r := do
    let left ← p.parse r
    left.proceed fun rest => do
      let right ← q.parse rest
      pure (if right.isSuccess then left ++ right else right)

/-- Applies `p`, and `q` to the same input if `p` fails. -/
def orElse (p q : Parser) : Parser where
  description := joinDescriptions p.description " | " q.description
  parse r := do
    let x ← p.parse r
    if x.isSuccess then pure x else q.parse r

/-- Several parsers in sequence. -/
def sequence (p : Parser) : List Parser → Parser
  | [] => p
  | q :: more => p.andThen (sequence q more)

/-- The first of several parsers that succeeds, or else the last one. -/
def choice (p : Parser) : List Parser → Parser
  | [] => p
  | q :: more => p.orElse (choice q more)

/-! ## Discarding -/

/-- Consumes what `p` consumes and produces nothing. -/
def ignore (p : Parser) : Parser where
  description := p.description
  parse r := do
    let x ← p.parse r
    x.proceed fun rest => pure (.single (.empty rest))

/-- Applies both in sequence and keeps the outcomes of the second. -/
def ignoreLeft (p q : Parser) : Parser where
  description := joinDescriptions p.description " >> " q.description
  parse r := do
    let left ← p.parse r
    left.proceed q.parse

/-- Applies both in sequence and keeps the outcomes of the first, going on after the second. -/
def ignoreRight (p q : Parser) : Parser where
  description := joinDescriptions p.description " >> " q.description
  parse r := do
    let left ← p.parse r
    left.proceed fun rest => do
      let right ← q.parse rest
      right.proceed fun resumed => pure (left.resume resumed)

/-- Lets `p` be absent, in which case `fallback` is applied instead. -/
def optional (p fallback : Parser) : Parser :=
  (p.orElse fallback).describe (some ("[" ++ p.description.getD Datum.null.render ++ "]"))

/-! ## Computing on values -/

/-- Applies a function to every value. -/
def lift (p : Parser) (f : Datum → Except Fault Datum) : Parser where
  description := p.description
  parse r := do
    let x ← p.parse r
    x.map f

/-- Looks for a value that is not accepted.  The failure is placed where the parse of that value
began, which is where the success before it ended. -/
def findRejected (accepts : Datum → Except Fault Bool) (description : Option String) :
    Nat → List Outcome → Except Fault (Option Failure)
  | _, [] => pure none
  | start, .value v rest :: os => do
    if ← accepts v then findRejected accepts description rest.start os
    else pure (some (.mismatch description v start))
  | _, .empty rest :: os => findRejected accepts description rest.start os
  | start, .failure _ :: os => findRejected accepts description start os

/-- Fails unless all values are accepted. -/
def check (p : Parser) (accepts : Datum → Except Fault Bool) (description : Option String) :
    Parser where
  description := description
  parse r := do
    let x ← p.parse r
    if x.isSuccess then
      match ← Run.ofFault (findRejected accepts description r.start x.toList) with
      | some f => pure (.fail f)
      | none => pure x
    else pure x

/-- What `bind` puts in the place of an outcome. -/
def continuation (k : Datum → Parser) : Outcome → Run Results
  | .value v rest => (k v).parse rest
  | o => pure (.single o)

/-- Applies `p`, and for every value the parser that depends on it, to the input left after that
value. -/
def bind (p : Parser) (k : Datum → Parser) : Parser where
  description := p.description
  parse r := do
    let x ← p.parse r
    x.bind (continuation k)

end Parser

end TokenGrammar
