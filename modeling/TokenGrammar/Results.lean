/-
# Results

Applying a parser gives outcomes: values with the input left after them, successes without a value,
and failures.  The outcomes of one application are ordered and there is at least one.  The first
decides whether the application succeeded, the last success decides where parsing goes on.
-/
import TokenGrammar.Failure
import TokenGrammar.Run
import TokenGrammar.Span

namespace TokenGrammar

/-! ## Outcomes -/

/-- What one application of a parser gives. -/
inductive Outcome where
  /-- A success with a value; `rest` is the input left after it. -/
  | value (v : Datum) (rest : Span)
  /-- A success without a value. -/
  | empty (rest : Span)
  | failure (f : Failure)

namespace Outcome

def isFailure : Outcome → Bool
  | .failure _ => true
  | _ => false

/-- The input left after a success. -/
def rest? : Outcome → Option Span
  | .value _ rest => some rest
  | .empty rest => some rest
  | .failure _ => none

def value? : Outcome → Option Datum
  | .value v _ => some v
  | _ => none

/-- The same outcome with another input left after it. -/
def moveTo (rest : Span) : Outcome → Outcome
  | .value v _ => .value v rest
  | .empty _ => .empty rest
  | .failure f => .failure f

/-- Applies a function to the value, if there is one. -/
def mapM {m : Type → Type} [Monad m] (f : Datum → m Datum) : Outcome → m Outcome
  | .value v rest => do
    let w ← f v
    pure (.value w rest)
  | o => pure o

/-- Whether two outcomes are of the same kind with equal values and equal rests. -/
def same : Outcome → Outcome → Bool
  | .value v r, .value w s => Datum.same v w && r.same s
  | .empty r, .empty s => r.same s
  | .failure f, .failure g => f.same g
  | _, _ => false

/-- The written form of an outcome. -/
def render : Outcome → String
  | .value v rest => "Value(value=" ++ v.render ++ ", rest=" ++ rest.render ++ ")"
  | .empty rest => "Empty(rest=" ++ rest.render ++ ")"
  | .failure f => f.render

/-- Whether everything in an outcome can be written down. -/
def writable : Outcome → Bool
  | .value v rest => v.writable && rest.writable
  | .empty rest => rest.writable
  | .failure f => f.writable

/-- What leaves a rest is no failure. -/
theorem isFailure_of_rest? {o : Outcome} {rest : Span} (h : o.rest? = some rest) :
    o.isFailure = false := by
  cases o with
  | failure f => cases h
  | value v s | empty s => rfl

@[simp] theorem isFailure_moveTo (rest : Span) (o : Outcome) :
    (o.moveTo rest).isFailure = o.isFailure := by
  cases o <;> rfl

@[simp] theorem value?_moveTo (rest : Span) (o : Outcome) :
    (o.moveTo rest).value? = o.value? := by
  cases o <;> rfl

/-- A success leaves the window it is moved to. -/
theorem rest?_moveTo (rest : Span) {o : Outcome} (h : o.isFailure = false) :
    (o.moveTo rest).rest? = some rest := by
  cases o with
  | failure f => cases h
  | value v s | empty s => rfl

end Outcome

/-- The outcomes of one application, in order. -/
@[ext] structure Results where
  head : Outcome
  tail : List Outcome

namespace Results

/-! ## Making results -/

/-- One outcome alone. -/
def single (o : Outcome) : Results :=
  { head := o, tail := [] }

/-- One failure alone. -/
def fail (f : Failure) : Results :=
  single (.failure f)

/-- All outcomes, of which there is at least one. -/
def toList (x : Results) : List Outcome :=
  x.head :: x.tail

/-- The outcomes of a list that is not empty. -/
def ofList : List Outcome → Except Breach Results
  | [] => .error .noOutcome
  | o :: os => .ok { head := o, tail := os }

/-- All outcomes of `x`, followed by more. -/
def extend (x : Results) (more : List Outcome) : Results :=
  { head := x.head, tail := x.tail ++ more }

instance : Append Results where
  append x y := x.extend y.toList

@[simp] theorem toList_single (o : Outcome) : (single o).toList = [o] := rfl

@[simp] theorem toList_extend (x : Results) (more : List Outcome) :
    (x.extend more).toList = x.toList ++ more := rfl

@[simp] theorem toList_append (x y : Results) : (x ++ y).toList = x.toList ++ y.toList := rfl

/-- Results are their outcomes. -/
theorem toList_injective {x y : Results} (h : x.toList = y.toList) : x = y := by
  injection h with hd tl
  exact Results.ext hd tl

/-! ## Asking about results -/

/-- Whether the first outcome is a success. -/
def isSuccess (x : Results) : Bool :=
  !x.head.isFailure

/-- The first outcome, if it is a failure. -/
def failure? (x : Results) : Option Failure :=
  match x.head with
  | .failure f => some f
  | _ => none

/-- The last outcome. -/
def last (x : Results) : Outcome :=
  x.tail.getLastD x.head

/-- The number of outcomes. -/
def length (x : Results) : Nat :=
  x.toList.length

/-- The values in order. -/
def values (x : Results) : List Datum :=
  x.toList.filterMap Outcome.value?

/-- The input left after the last success of a list. -/
def lastRest? : List Outcome → Option Span
  | [] => none
  | o :: os => lastRest? os <|> o.rest?

/-- The input left after the last success, if there is one. -/
def remaining (x : Results) : Option Span :=
  lastRest? x.toList

/-- Ordered choice: `x` unless its first outcome is a failure. -/
def orElse (x y : Results) : Results :=
  if x.isSuccess then x else y

instance : OrElse Results where
  orElse x y := x.orElse (y ())

@[simp] theorem isSuccess_append (x y : Results) : (x ++ y).isSuccess = x.isSuccess := rfl

@[simp] theorem values_append (x y : Results) : (x ++ y).values = x.values ++ y.values := by
  simp [values]

/-- The second list decides unless it has no success. -/
theorem lastRest?_append (os ps : List Outcome) :
    lastRest? (os ++ ps) = (lastRest? ps <|> lastRest? os) := by
  induction os with
  | nil => simp [lastRest?]
  | cons o os ih => simp only [List.cons_append, lastRest?, ih]; cases lastRest? ps <;> rfl

/-- Failures leave no window. -/
theorem lastRest?_of_failures {os : List Outcome} (h : ∀ o ∈ os, o.isFailure = true) :
    lastRest? os = none := by
  induction os with
  | nil => rfl
  | cons o os ih =>
    obtain ⟨ho, hos⟩ := List.forall_mem_cons.1 h
    rw [lastRest?, ih hos]
    cases o with
    | failure f => rfl
    | value v rest | empty rest => cases ho

/-- Results that are put together leave what the last success among them leaves. -/
theorem remaining_append (x y : Results) :
    (x ++ y).remaining = (y.remaining <|> x.remaining) := by
  rw [remaining, toList_append, lastRest?_append]
  rfl

/-! ## Changing results -/

/-- Moves the rest of the last success of a list, if there is one. -/
def moveLast (rest : Span) : List Outcome → Option (List Outcome)
  | [] => none
  | o :: os =>
    match moveLast rest os with
    | some moved => some (o :: moved)
    | none => if o.isFailure then none else some (o.moveTo rest :: os)

/-- Moves the rest of the last success; results without a success stay as they are. -/
def resume (x : Results) (rest : Span) : Results :=
  match moveLast rest x.tail with
  | some moved => { head := x.head, tail := moved }
  | none => { head := x.head.moveTo rest, tail := x.tail }

variable {m : Type → Type} [Monad m]

/-- Applies a function to every value, in order. -/
def mapM (x : Results) (f : Datum → m Datum) : m Results := do
  let head ← x.head.mapM f
  let tail ← x.tail.mapM (Outcome.mapM f)
  pure { head := head, tail := tail }

/-- The results that replace one outcome: a failure stays as it is. -/
def replace (f : Outcome → m Results) (o : Outcome) : m Results :=
  if o.isFailure then pure (single o) else f o

/-- Replaces the outcomes of a list one after the other and joins what replaces them. -/
def replaceAll (f : Outcome → m Results) : List Outcome → m (List Outcome)
  | [] => pure []
  | o :: os => do
    let y ← replace f o
    let more ← replaceAll f os
    pure (y.toList ++ more)

/-- Replaces every success by the outcomes that `f` gives for it; failures stay in place. -/
def bindM (x : Results) (f : Outcome → m Results) : m Results := do
  let y ← replace f x.head
  let more ← replaceAll f x.tail
  pure (y.extend more)

end Results

namespace Results

/-- Applies a function to every value, in one iteration over the outcomes. -/
def map (x : Results) (f : Datum → Except Fault Datum) : Run Results :=
  x.mapM fun v => Run.ofFault (Fault.enclose (f v))

/-- Replaces every success by the outcomes that `f` gives for it, in one iteration over the
outcomes. -/
def bind (x : Results) (f : Outcome → Run Results) : Run Results :=
  x.bindM fun o => (f o).enclosed

/-! ## Comparing and showing results -/

/-- Whether two lists have equal outcomes. -/
def sameOutcomes : List Outcome → List Outcome → Bool
  | [], [] => true
  | o :: os, p :: ps => o.same p && sameOutcomes os ps
  | _, _ => false

/-- Whether two results are equal outcome by outcome. -/
def same (x y : Results) : Bool :=
  sameOutcomes x.toList y.toList

/-- The written form of results. -/
def render (x : Results) : String :=
  "Results([" ++ commaSeparated (x.toList.map Outcome.render) ++ "])"

/-- The written form of results that can be written down. -/
def written (x : Results) : Except Fault String :=
  if x.toList.all Outcome.writable then .ok x.render else .error .badValue

/-! ## Success leaves a rest -/

/-- A success has a rest. -/
theorem isSome_rest? {o : Outcome} (h : o.isFailure = false) : o.rest?.isSome := by
  cases o with
  | value v rest => rfl
  | empty rest => rfl
  | failure f => cases h

/-- A successful application leaves an input to go on with. -/
theorem isSome_remaining {x : Results} (h : x.isSuccess = true) : x.remaining.isSome := by
  have hhead : x.head.rest?.isSome := isSome_rest? (by simpa [isSuccess] using h)
  unfold remaining toList lastRest?
  cases lastRest? x.tail with
  | none => simpa using hhead
  | some rest => rfl

/-- A success leaves a rest. -/
theorem exists_remaining_of_success {x : Results} (h : x.isSuccess = true) :
    ∃ rest, x.remaining = some rest :=
  Option.isSome_iff_exists.1 (isSome_remaining h)

end Results

end TokenGrammar
