/-
# Rules

A rule is a grammar written down, with expressions in the place of functions.  Building it evaluates
the expressions that are needed to know the grammar; the others become functions of the values they
are applied to.  The body of a `bind` is built anew for every value, and what is wrong with it is
found out only then.
-/
import TokenGrammar.Expr
import TokenGrammar.Grammar.Leaves
import TokenGrammar.Pattern.Reader

namespace TokenGrammar

/-! ## Written grammars -/

/-- The ready-made grammars without parameters. -/
inductive PlainLeaf where
  | item
  | empty
  | done
  | letter
  | digit
  | floating
  | floatings
  | hexDigit
  | integer
  | integers
  | lower
  | punctuation
  | skipSpaces
  | space
  | spaces
  | upper
  | word
  | words
deriving DecidableEq

/-- The ready-made grammars for numerals of a base. -/
inductive BaseLeaf where
  | digits
  | digitValue
  | digitValues
  | natural
  | naturals
deriving DecidableEq

/-- A failure whose fields are expressions. -/
structure FailureRule where
  kind : String
  fields : List (String × Expr)

/-- Missing parts are absent; an expression that gives the null value counts as missing where the
part is optional, except for defaults and seeds. -/
inductive Rule where
  | plain (leaf : PlainLeaf)
  | based (leaf : BaseLeaf) (base : Option Expr)
  | satisfy (x : String) (accepts : Expr) (description : Option Expr)
  | token (t : Expr)
  | oneOf (tokens : Expr)
  | noneOf (tokens : Expr)
  | inRange (low high : Expr) (description : Option Expr)
  | regex (pattern : Expr) (description : Option Expr)
  | characters (t : Expr) (bound : Option Expr)
  | string (s : Expr)
  | succeed (v : Expr)
  | zero (f : Option FailureRule)
  | sequence (steps : List Rule)
  | choice (alternatives : List Rule)
  | ignoreLeft (left right : Rule)
  | ignoreRight (left right : Rule)
  | oneOrMore (body : Rule) (bound : Option Expr)
  | zeroOrMore (body : Rule) (bound : Option Expr)
  | optional (body : Rule) (default : Option Expr)
  | ignore (body : Rule)
  | inject (body : Rule) (v : Expr)
  | describe (body : Rule) (description : Option Expr)
  | lift (body : Rule) (x : String) (result : Expr)
  | check (body : Rule) (x : String) (accepts : Expr) (description : Option Expr)
  | bind (body : Rule) (x : String) (next : Rule)
  /-- A right fold, if `function` gives the names of value and accumulator and the result; without
  it the seed is not used. -/
  | reduce (body : Rule) (function : Option (String × String × Expr)) (seed : Option Expr)
  | foldLeft (body : Rule) (acc x : String) (result seed : Expr)
  | reference (name : String) (description : Option Expr)
  | notParser

variable [Monoids]

namespace Rule

/-! ## Parameters -/

/-- The value of an optional parameter; the null value counts as missing. -/
def parameter (env : Env) : Option Expr → Except Fault (Option Datum)
  | none => .ok none
  | some e => do
    match ← e.eval env with
    | .null => pure none
    | d => pure (some d)

/-- A description, which is a text. -/
def description (env : Env) (e : Option Expr) : Except Fault (Option String) := do
  match ← parameter env e with
  | none => pure none
  | some (.text cs) => pure (some (String.ofList cs))
  | some _ => .error .wrongType

/-- The number of applications after which a bound is reached: the least natural number that is not
below it.  Infinity gives one that no repetition reaches, and what is not a number allows one
application. -/
def ceiling (d : Datum) : Except Fault Nat :=
  match d with
  | .float x =>
    match x.truncate? with
    | some n => .ok (if x.compareInt n == .gt then n.toNat + 1 else n.toNat)
    | none => .ok (if x.isNaN then 1 else twoPow 1024)
  | _ => Int.toNat <$> Datum.ofOption .wrongType d.toInteger?

/-- The bound of a repetition, which must not be below `least`. -/
def bound (least : Int) (tooSmall : String → Fault) : Option Datum → Except Fault (Option Bound)
  | none => .ok none
  | some d => do
    if ← d.less (.int least) then do
      let shown ← d.displayed
      .error (tooSmall shown)
    else do
      let limit ← ceiling d
      pure (some { limit := limit, shown := d })

/-- The base of a numeral, from 2 to 36. -/
def base (env : Env) (e : Option Expr) : Except Fault Nat := do
  match ← parameter env e with
  | none => pure 10
  | some d =>
    if ← Datum.between (.int 2) (.int 36) d then
      match d with
      | .int n => pure n.toNat
      | _ => .error .wrongType
    else do
      let shown ← d.displayed
      .error (.badBase shown)

/-- The values of named expressions, from the first on. -/
def evalFields (env : Env) : List (String × Expr) → Except Fault (List (String × Datum))
  | [] => .ok []
  | (name, e) :: more => do
    let d ← e.eval env
    let fields ← evalFields env more
    pure ((name, d) :: fields)

/-- The failure that a written failure describes. -/
def failure (env : Env) (f : FailureRule) : Except Fault Failure := do
  Failure.ofFields f.kind (← evalFields env f.fields)

/-- The truth of an expression in the variable `x`. -/
def predicate (env : Env) (x : String) (e : Expr) (v : Datum) : Except Fault Bool :=
  Datum.truthy <$> e.eval ((x, v) :: env)

/-- An expression as a function of the variable `x`. -/
def function (env : Env) (x : String) (e : Expr) (v : Datum) : Except Fault Datum :=
  e.eval ((x, v) :: env)

/-- An expression as a function of two variables; the second hides the first if they have the same
name. -/
def function₂ (env : Env) (x y : String) (e : Expr) (v w : Datum) : Except Fault Datum :=
  e.eval ((y, w) :: (x, v) :: env)

/-! ## Leaves -/

/-- The grammar of a leaf without parameters. -/
def plainGrammar : PlainLeaf → Grammar
  | .item => .item
  | .empty => .empty
  | .done => .done
  | .letter => .letter
  | .digit => .digit
  | .floating => .floating
  | .floatings => .floatings
  | .hexDigit => .hexDigit
  | .integer => .integer
  | .integers => .integers
  | .lower => .lower
  | .punctuation => .punctuation
  | .skipSpaces => .skipSpaces
  | .space => .space
  | .spaces => .spaces
  | .upper => .upper
  | .word => .word
  | .words => .words

/-- The grammar of a leaf with a base. -/
def baseGrammar (base : Nat) : BaseLeaf → Grammar
  | .digits => .digits base
  | .digitValue => .digitValue base
  | .digitValues => .digitValues base
  | .natural => .natural base
  | .naturals => .naturals base

/-- The grammar of a token that can be written down. -/
def tokenGrammar (t : Datum) : Except Fault Grammar := do
  let _ ← t.written
  pure (.token t)

/-- The items of a sequence whose items can be written down. -/
def tokenItems (d : Datum) : Except Fault (List Datum) := do
  let items ← d.items
  let _ ← (Datum.tuple items).written
  pure items

/-- A text without characters counts as missing. -/
def filled (description : Option String) : Option String :=
  description.filter (· != "")

/-- The grammar of a pattern, which must be a text or a byte string. -/
def regexGrammar (pattern : Datum) (description : Option String) : Except Fault Grammar :=
  match pattern with
  | .text cs => do
    let p ← Pattern.read false cs
    let written := if cs.isEmpty then "regex match" else String.ofList cs
    pure (.regex p.recogniser ((filled description).getD written))
  | .bytes bs => do
    let p ← Pattern.read true (bs.map fun b => Char.ofNat b.toNat)
    pure (.regex p.recogniser ((filled description).getD pattern.render))
  | _ => .error .wrongType

/-- A grammar that could not be built is one that halts when it is reached. -/
def orFault : Except Fault Grammar → Grammar
  | .ok g => g
  | .error cause => .fault cause

/-! ## Building -/

mutual

/-- The grammar that a rule describes, with values for its free variables. -/
def build (env : Env) : Rule → Except Fault Grammar
  | .plain leaf => .ok (plainGrammar leaf)
  | .based leaf e => do
    let b ← base env e
    pure (baseGrammar b leaf)
  | .satisfy x accepts e => do
    let d ← description env e
    pure (.satisfy (predicate env x accepts) (d.getD "item"))
  | .token t => do tokenGrammar (← t.eval env)
  | .oneOf tokens => do
    let items ← tokenItems (← tokens.eval env)
    pure (.oneOf items)
  | .noneOf tokens => do
    let items ← tokenItems (← tokens.eval env)
    pure (.noneOf items)
  | .inRange low high e => do
    let l ← low.eval env
    let h ← high.eval env
    match filled (← description env e) with
    | some d => pure (.inRange l h d)
    | none =>
      let _ ← (Datum.tuple [l, h]).written
      pure (.inRange l h (Grammar.rangeDescription l h))
  | .regex pattern e => do
    let p ← pattern.eval env
    regexGrammar p (← description env e)
  | .characters t e => do
    let d ← t.eval env
    let n ← parameter env e
    let _ ← d.written
    let b ← bound 1 .boundNotPositive n
    pure (.characters d b)
  | .string s => do
    let d ← s.eval env
    let g ← Grammar.string d
    let _ ← d.written
    pure g
  | .succeed v => do
    let d ← v.eval env
    pure (.succeed d)
  | .zero none => .ok (.zero .zero)
  | .zero (some f) => do
    let failure ← failure env f
    pure (.zero failure)
  | .sequence steps => do
    match ← buildAll env steps with
    | [] => .error .noStep
    | p :: more => pure (p.sequence more)
  | .choice alternatives => do
    match ← buildAll env alternatives with
    | [] => .error .noAlternative
    | p :: more => pure (p.choice more)
  | .ignoreLeft left right => do
    let p ← build env left
    let q ← build env right
    pure (.ignoreLeft p q)
  | .ignoreRight left right => do
    let p ← build env left
    let q ← build env right
    pure (.ignoreRight p q)
  | .oneOrMore body e => do
    let p ← build env body
    let b ← bound 1 .boundNotPositive (← parameter env e)
    pure (.oneOrMore p b)
  | .zeroOrMore body e => do
    let p ← build env body
    let b ← bound 0 .boundNegative (← parameter env e)
    pure (.zeroOrMore p b)
  | .optional body none => do
    let p ← build env body
    pure (.optional p none)
  | .optional body (some e) => do
    let p ← build env body
    let d ← e.eval env
    pure (.optional p (some d))
  | .ignore body => do
    let p ← build env body
    pure (.ignore p)
  | .inject body v => do
    let p ← build env body
    let d ← v.eval env
    pure (p.inject d)
  | .describe body e => do
    let p ← build env body
    let d ← description env e
    pure (.describe p d)
  | .lift body x result => do
    let p ← build env body
    pure (.lift p (function env x result))
  | .check body x accepts e => do
    let p ← build env body
    let d ← description env e
    pure (.check p (predicate env x accepts) d)
  | .bind body x next => do
    let p ← build env body
    pure (.bind p fun v => orFault (build ((x, v) :: env) next))
  | .reduce body none seed => do
    let p ← build env body
    let _ ← parameter env seed
    pure p.reduce
  | .reduce body (some _) none => do
    let _ ← build env body
    .error .missingSeed
  | .reduce body (some (x, acc, result)) (some seed) => do
    let p ← build env body
    let d ← seed.eval env
    pure (p.foldRight (function₂ env x acc result) d)
  | .foldLeft body acc x result seed => do
    let p ← build env body
    let d ← seed.eval env
    pure (p.foldLeft (function₂ env acc x result) d)
  | .reference name e => do
    let d ← description env e
    pure (.reference name d)
  | .notParser => .ok .notParser

/-- Builds several rules, from left to right. -/
def buildAll (env : Env) : List Rule → Except Fault (List Grammar)
  | [] => .ok []
  | rule :: rules => do
    let p ← build env rule
    let ps ← buildAll env rules
    pure (p :: ps)

end

/-- The grammar that a rule describes when a reference reaches it. -/
def definition (rule : Rule) : Grammar :=
  orFault (rule.build [])

end Rule

/-- The definitions that named rules describe.  A rule is built only when a reference reaches it. -/
def Definitions.ofRules (rules : List (String × Rule)) : Definitions :=
  { entries := rules.map fun (name, rule) => (name, rule.definition) }

end TokenGrammar
