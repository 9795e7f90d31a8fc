/-
# Expressions

The functions inside a written grammar are expressions: values, variables and operations on values.
Arguments are evaluated from left to right, and a conditional evaluates only the branch it takes.
-/
import TokenGrammar.Datum.Arithmetic
import TokenGrammar.Datum.Render

namespace TokenGrammar

/-! ## Operations -/

/-- The operations that a function may apply to values. -/
inductive Operation where
  | add
  | sub
  | mul
  | neg
  | eq
  | ne
  | lt
  | le
  | gt
  | ge
  | not
  | isIn
  | item
  | toInt
  | toFloat
  | length
  | render
  | toUpper
  | toLower
  | isLetters
  | isDigits
  | isBlank
  | isUpper
  | isLower
  | list
  | tuple
  /-- Makes a record of a class. -/
  | record (kind : Kind)
deriving DecidableEq

namespace Operation

/-- A truth value as a value. -/
def truth (x : Except Fault Bool) : Except Fault Datum :=
  .bool <$> x

/-- Compares two values and asks whether the order is one of the given ones. -/
def ordered (allowed : List Ordering) (a b : Datum) : Except Fault Datum :=
  truth (Option.any allowed.contains <$> Datum.compare a b)

/-- Applies an operation to its arguments; a wrong number of them is a wrong type. -/
def apply (op : Operation) (args : List Datum) : Except Fault Datum :=
  match op, args with
  | .add, [a, b] => a.add b
  | .sub, [a, b] => a.sub b
  | .mul, [a, b] => a.mul b
  | .neg, [a] => a.neg
  | .eq, [a, b] => .ok (.bool (a.same b))
  | .ne, [a, b] => .ok (.bool !(a.same b))
  | .lt, [a, b] => ordered [.lt] a b
  | .le, [a, b] => ordered [.lt, .eq] a b
  | .gt, [a, b] => ordered [.gt] a b
  | .ge, [a, b] => ordered [.gt, .eq] a b
  | .not, [a] => .ok (.bool !a.truthy)
  | .isIn, [a, b] => truth (a.isIn b)
  | .item, [a, i] => a.item i
  | .toInt, [] => .ok (.int 0)
  | .toInt, [a] => a.toInt
  | .toFloat, [] => .ok (.float ⟨0⟩)
  | .toFloat, [a] => a.toFloat
  | .length, [a] => (fun n => .int n) <$> a.length
  | .render, [a] => Datum.ofString <$> a.written
  | .toUpper, [a] => a.onText fun cs => .text (Text.toUpper cs)
  | .toLower, [a] => a.onText fun cs => .text (Text.toLower cs)
  | .isLetters, [a] => a.onText fun cs => .bool (Text.isLetters cs)
  | .isDigits, [a] => a.onText fun cs => .bool (Text.isDigits cs)
  | .isBlank, [a] => a.onText fun cs => .bool (Text.isBlank cs)
  | .isUpper, [a] => a.onText fun cs => .bool (Text.isUpper cs)
  | .isLower, [a] => a.onText fun cs => .bool (Text.isLower cs)
  | .list, items => .ok (.list items)
  | .tuple, items => .ok (.tuple items)
  | .record kind, [a] => .ok (.record kind a)
  | _, _ => .error .wrongType

end Operation

/-! ## Expressions -/

/-- A function of a user, as a tree. -/
inductive Expr where
  | value (d : Datum)
  | var (name : String)
  | apply (op : Operation) (args : List Expr)
  /-- `yes` if the test gives a true value, else `no`. -/
  | cond (test yes no : Expr)

/-- The values of variables, the innermost first. -/
abbrev Env := List (String × Datum)

namespace Expr

mutual

/-- The value of an expression. -/
def eval (env : Env) : Expr → Except Fault Datum
  | .value d => .ok d
  | .var name =>
    match env.lookup name with
    | some d => .ok d
    | none => .error (.unbound name)
  | .apply op args => do op.apply (← evalAll env args)
  | .cond test yes no => do
    if (← eval env test).truthy then eval env yes else eval env no

/-- The values of several expressions, from left to right. -/
def evalAll (env : Env) : List Expr → Except Fault (List Datum)
  | [] => .ok []
  | e :: es => do
    let d ← eval env e
    let ds ← evalAll env es
    pure (d :: ds)

end

end Expr

end TokenGrammar
