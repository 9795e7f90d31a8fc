/-
# Runs

What applying a parser amounts to: it ends with a result or halts, and on the way it takes notes
about repetitions that ended for a reason other than a failure.  The notes of a run that halts are
kept.
-/
import TokenGrammar.Datum.Render

namespace TokenGrammar

/-! ## Notes -/

/-- A note about a repetition, with the description of the repeated parser. -/
inductive Notice where
  /-- The parser matched at a position without consuming anything. -/
  | stalled (description : Option String) (position : Nat)
  /-- The repetition reached the general cap. -/
  | capped (description : Option String) (count : Nat)
deriving DecidableEq

/-- How serious a note is. -/
def Notice.level : Notice → String
  | .stalled _ _ => "DEBUG"
  | .capped _ _ => "WARNING"

/-- The text of a note. -/
def Notice.text : Notice → String
  | .stalled description position =>
    description.getD Datum.null.render ++ " matched without consuming input at position "
      ++ toString position ++ "; stopping repetition."
  | .capped description count =>
    "Stopped repeating " ++ description.getD Datum.null.render ++ " after " ++ toString count
      ++ " matches. Raise RANGEPARSE_MAX_MANY to allow more."

/-! ## Runs -/

/-- A result, or the reason for halting, and the notes taken until then. -/
structure Run (α : Type) where
  result : Except Halt α
  log : List Notice

namespace Run

variable {α β : Type}

protected def pure (a : α) : Run α :=
  { result := .ok a, log := [] }

/-- Halts at once. -/
def halt (h : Halt) : Run α :=
  { result := .error h, log := [] }

/-- Takes a note. -/
def note (n : Notice) : Run Unit :=
  { result := .ok (), log := [n] }

/-- Continues with the result of a run unless it halted. -/
protected def bind (x : Run α) (f : α → Run β) : Run β :=
  match x.result with
  | .ok a => { result := (f a).result, log := x.log ++ (f a).log }
  | .error h => { result := .error h, log := x.log }

instance : Monad Run where
  pure := Run.pure
  bind := Run.bind

/-- A computation on values, whose fault halts the run. -/
def ofFault (x : Except Fault α) : Run α :=
  match x with
  | .ok a => pure a
  | .error cause => halt (.fault cause)

/-- A computation on windows, whose fault halts the run. -/
def ofSpan (x : Except SpanFault α) : Run α :=
  match x with
  | .ok a => pure a
  | .error cause => halt (.span cause)

/-- A run inside an iteration, as it is seen outside. -/
def enclosed (x : Run α) : Run α :=
  { x with result := x.result.mapError Halt.enclosed }

/-! ## Laws -/

/-- A run is its result and its log. -/
theorem ext_result_log {x y : Run α} (hr : x.result = y.result) (hl : x.log = y.log) : x = y := by
  cases x
  cases y
  simp_all

theorem bind_def (x : Run α) (f : α → Run β) : x >>= f = x.bind f := rfl

@[simp] theorem result_pure (a : α) : (pure a : Run α).result = .ok a := rfl

@[simp] theorem log_pure (a : α) : (pure a : Run α).log = [] := rfl

@[simp] theorem pure_bind (a : α) (f : α → Run β) : (pure a : Run α) >>= f = f a := rfl

@[simp] theorem halt_bind (h : Halt) (f : α → Run β) : (halt h : Run α) >>= f = halt h := rfl

@[simp] theorem ofFault_ok (a : α) : ofFault (.ok a) = pure a := rfl

@[simp] theorem ofFault_error (e : Fault) : (ofFault (.error e) : Run α) = halt (.fault e) := rfl

@[simp] theorem ofSpan_ok (a : α) : ofSpan (.ok a) = pure a := rfl

@[simp] theorem enclosed_ofFault (x : Except Fault α) :
    (ofFault x).enclosed = ofFault (Fault.enclose x) := by
  cases x <;> rfl

/-- A run that ends with a result goes on with it. -/
theorem bind_of_ok {x : Run α} {a : α} (h : x.result = .ok a) (f : α → Run β) :
    x >>= f = { result := (f a).result, log := x.log ++ (f a).log } := by
  rw [bind_def, Run.bind, h]

/-- A run that halts stays as it is. -/
theorem bind_of_error {x : Run α} {e : Halt} (h : x.result = .error e) (f : α → Run β) :
    x >>= f = { result := .error e, log := x.log } := by
  rw [bind_def, Run.bind, h]

/-- If a continued run ends with a result, then so do the run and its continuation. -/
theorem exists_of_bind_eq_ok {x : Run α} {f : α → Run β} {b : β}
    (h : (x >>= f).result = .ok b) : ∃ a, x.result = .ok a ∧ (f a).result = .ok b := by
  cases hx : x.result with
  | error e =>
    rw [bind_of_error hx] at h
    cases h
  | ok a =>
    rw [bind_of_ok hx] at h
    exact ⟨a, rfl, h⟩

/-- A halt inside an iteration, seen from outside. -/
theorem result_enclosed_of_error {x : Run α} {e : Halt} (h : x.result = .error e) :
    x.enclosed.result = .error e.enclosed := by
  rw [enclosed, h]
  rfl

/-- Continuing with nothing changes nothing. -/
theorem bind_pure_self (x : Run α) : (x >>= fun a => pure a) = x := by
  rw [bind_def, Run.bind]
  split
  · next h => exact ext_result_log h.symm (List.append_nil _)
  · next h => exact ext_result_log h.symm rfl

/-- It does not matter how continuations are grouped. -/
theorem bind_assoc {γ : Type} (x : Run α) (f : α → Run β) (g : β → Run γ) :
    (x >>= f) >>= g = x >>= fun a => f a >>= g := by
  cases x with
  | mk result log =>
    cases result with
    | error h => rfl
    | ok a =>
      simp only [bind_def, Run.bind]
      cases h : (f a).result <;> simp

instance : LawfulMonad Run :=
  LawfulMonad.mk' Run bind_pure_self pure_bind bind_assoc

end Run

end TokenGrammar
