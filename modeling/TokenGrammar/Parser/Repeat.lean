/-
# Repetition

A parser is applied again and again until it fails, consumes nothing, or has been applied as often
as allowed.  The outcomes of the application that ends a repetition are dropped.  Without a bound of
its own a repetition obeys a general cap, and reaching the cap leaves a note.
-/
import TokenGrammar.Parser.Basic

namespace TokenGrammar

/-- An upper bound on the number of applications, and the way it was given. -/
structure Bound where
  limit : Nat
  shown : Datum

/-- A bound that is a natural number. -/
def Bound.ofNat (n : Nat) : Bound :=
  { limit := n, shown := .int n }

/-- Whether there is an input left and its start has moved. -/
def Span.advanced (before : Span) (after : Option Span) : Bool :=
  after.any fun r => r.start != before.start

namespace Parser

/-- Applies `p` from `rest` on, at most `room` times.  Gives the outcomes of the applications that
count and whether the repetition ended before the room was used up. -/
def again (p : Parser) : Nat → Span → Run (List Outcome × Bool)
  | 0, _ => pure ([], false)
  | room + 1, rest => do
    let x ← p.parse rest
    if x.isSuccess then
      match x.remaining with
      | some after =>
        if after.start = rest.start then do
          Run.note (.stalled p.description rest.start)
          pure ([], true)
        else do
          let (more, ended) ← again p room after
          pure (x.toList ++ more, ended)
      | none => do
        Run.note (.stalled p.description rest.start)
        pure ([], true)
    else pure ([], true)

/-- Repeats `p` after the results of its first application, `limit` applications in all.  At least
the first one counts. -/
def repeatFrom (p : Parser) (first : Results) (limit : Nat) : Run (Results × Bool) :=
  match limit - 1 with
  | 0 => pure (first, false)
  | room + 1 =>
    match first.remaining with
    | none => .halt (.breach .restLost)
    | some rest => do
      let (more, ended) ← p.again (room + 1) rest
      pure (first.extend more, ended)

/-- A repetition without a bound of its own. -/
def repeatFreely (p : Parser) (cap : Int) (first : Results) : Run Results := do
  let (x, ended) ← p.repeatFrom first cap.toNat
  if ended then pure x
  else do
    Run.note (.capped p.description (max 1 cap.toNat))
    pure x

/-- Fails if `p` matches once more after the results that the bound allows. -/
def atMost (p : Parser) (bound : Bound) (x : Results) (rest : Option Span) : Run Results :=
  match rest with
  | none => .halt (.breach .restLost)
  | some rest => do
    let extra ← p.parse rest
    if extra.isSuccess && rest.advanced extra.remaining then
      pure (.fail (.tooMany bound.shown rest.start))
    else pure (if bound.limit = 0 then .single (.empty rest) else x)

/-- The name of a parser inside the description of a repetition. -/
def label (p : Parser) : String :=
  p.description.getD Datum.null.render

/-- One or more applications of `p`, stopping after as many as the bound says. -/
def oneOrMore (p : Parser) (cap : Int) (bound : Option Bound) : Parser where
  description := some (p.label ++ " [" ++ p.label ++ " ...]")
  parse r := do
    let first ← p.parse r
    if first.isSuccess then
      match bound with
      | none => p.repeatFreely cap first
      | some b => do
        let (x, _) ← p.repeatFrom first b.limit
        pure x
    else pure (.fail (.tooFew r.start))

/-- Any number of applications of `p`; more than the bound says are a failure. -/
def zeroOrMore (p : Parser) (cap : Int) (bound : Option Bound) : Parser where
  description := some ("[" ++ p.label ++ " ...]")
  parse r := do
    let first ← p.parse r
    if first.isSuccess then
      match bound with
      | none => p.repeatFreely cap first
      | some b =>
        if b.limit = 0 then p.atMost (.ofNat 0) first (some r)
        else do
          let (x, ended) ← p.repeatFrom first b.limit
          if ended then pure x else p.atMost b x x.remaining
    else pure (.single (.empty r))

end Parser

end TokenGrammar
