/-
# Faults

What can go wrong apart from a parse that does not succeed.  A fault comes from an operation on
data or from putting a grammar together; a window can be improper; the engine can find one of its
own expectations broken; and a run can have no end.  A cause that the library words itself has a
message, any other cause has none.
-/

namespace TokenGrammar

/-! ## Faults of values and of grammars -/

/-- What goes wrong in a computation with values or in building a parser. -/
inductive Fault where
  /-- An operation does not apply to values of these types. -/
  | wrongType
  /-- A value lacks the operation asked of it. -/
  | missingOperation
  /-- A value of the right type that the operation refuses. -/
  | badValue
  | indexOutside
  /-- A result beyond the finite numbers. -/
  | overflow
  /-- A name that nothing binds. -/
  | unbound (name : String)
  /-- A text that is not a regular expression. -/
  | badPattern
  /-- The signal that an iteration has nothing more to give. -/
  | exhausted
  /-- That signal, come from a function that was called inside another iteration. -/
  | leaked
  | boundNotPositive (shown : String)
  | boundNegative (shown : String)
  | missingSeed
  | noAlternative
  | noStep
  | emptyText
  | badBase (shown : String)
deriving DecidableEq

/-- The text of a fault, where it has one of its own. -/
def Fault.message : Fault → Option String
  | .boundNotPositive shown => some s!"some expects a positive bound, got {shown}."
  | .boundNegative shown => some s!"many expects a nonnegative bound, got {shown}."
  | .missingSeed => some "reduce with a combining function requires a seed."
  | .noAlternative => some "option expects at least one parser."
  | .noStep => some "sequence expects at least one parser."
  | .emptyText => some "string expects at least one character."
  | .badBase shown => some s!"base must be between 2 and 36, got {shown}."
  | _ => none

/-- The cause as it is seen outside an iteration in which it came up.  A signal of the end must not
end that iteration, and every other cause passes through. -/
def Fault.enclosed : Fault → Fault
  | .exhausted => .leaked
  | cause => cause

/-- A computation inside an iteration. -/
def Fault.enclose {α : Type} (x : Except Fault α) : Except Fault α :=
  x.mapError Fault.enclosed

/-- Enclosing a computation does not change what it gives. -/
theorem Fault.enclose_eq_ok_iff {α : Type} {x : Except Fault α} {a : α} :
    Fault.enclose x = .ok a ↔ x = .ok a := by
  cases x with
  | ok b => exact Iff.rfl
  | error cause => exact ⟨nofun, nofun⟩

/-! ## Faults of windows -/

/-- What goes wrong with a window. -/
inductive SpanFault where
  /-- The source has no length. -/
  | notSequence
  /-- The ends `start` and `stop` do not fit a source of `size` tokens. -/
  | outside (start stop : Int) (size : Nat)
  /-- A slice takes every token in turn. -/
  | scattered
  | zeroStep
  /-- The windows belong to different sources. -/
  | apart
  | emptyHead
  | overrun (length : Nat) (count : Int)
  /-- An integer that the message would name is too long to be written down. -/
  | unwritable
  | indexOutside
  /-- The value looked for is not among the tokens. -/
  | absent
deriving DecidableEq

/-- The text of such a fault, where it has one of its own. -/
def SpanFault.message : SpanFault → Option String
  | .outside start stop size =>
    some s!"Invalid range [{start}, {stop}) over a buffer of length {size}."
  | .scattered => some "Ranges only support contiguous slices."
  | .apart => some "Cannot measure the distance between ranges over different buffers."
  | .emptyHead => some "head of an empty range"
  | .overrun length count => some s!"Cannot advance a range of length {length} by {count}."
  | _ => none

/-! ## Broken expectations of the engine -/

/-- The expectations of the engine that can be broken. -/
inductive Breach where
  /-- A success that leaves no rest to go on from. -/
  | restLost
  /-- A list of outcomes without an outcome. -/
  | noOutcome
  /-- A continuation of outcomes that gives no outcomes. -/
  | notResults
  /-- A continuation of a parser that gives no parser. -/
  | notParser
deriving DecidableEq

/-- The text of a breach, where it has one of its own. -/
def Breach.message : Breach → Option String
  | .noOutcome => some "Results must contain at least one outcome."
  | _ => none

/-! ## Why a run ends without results -/

/-- The ways in which a run stops without a result. -/
inductive Halt where
  | fault (cause : Fault)
  | span (cause : SpanFault)
  | breach (cause : Breach)
  /-- A regular expression was applied to tokens that are not characters or bytes. -/
  | unreadable (kind : String)
  /-- The definitions refer to each other without end. -/
  | endless
deriving DecidableEq

/-- The text that a run stops with, where it has one of its own. -/
def Halt.message : Halt → Option String
  | .fault cause => cause.message
  | .span cause => cause.message
  | .breach cause => cause.message
  | .unreadable kind => some s!"regex can only match str or bytes buffers, not {kind}."
  | .endless => none

/-- The reason as it is seen outside an iteration in which it came up. -/
def Halt.enclosed : Halt → Halt
  | .fault cause => .fault cause.enclosed
  | e => e

end TokenGrammar
