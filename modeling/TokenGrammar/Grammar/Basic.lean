/-
# Grammars

A grammar is a parser that can be taken apart: a tree of the primitive parsers and combinators.  The
places where a user's function goes hold that function, so that a `bind` has one continuation for
every value, and a reference names a definition, which may refer to itself.
-/
import TokenGrammar.Parser.Repeat
import TokenGrammar.Parser.Fold
import TokenGrammar.Parser.Regex
import TokenGrammar.Parser.Entry

namespace TokenGrammar

/-- A parser as a tree of primitive parsers and combinators. -/
inductive Grammar where
  /-- One token that is accepted. -/
  | satisfy (accepts : Datum → Except Fault Bool) (description : String)
  | regex (pattern : Recogniser) (description : String)
  /-- A value without input. -/
  | succeed (v : Datum)
  | empty
  /-- The end of the input. -/
  | done
  | zero (f : Failure)
  | andThen (p q : Grammar)
  | orElse (p q : Grammar)
  | ignore (p : Grammar)
  | ignoreLeft (p q : Grammar)
  | ignoreRight (p q : Grammar)
  | oneOrMore (p : Grammar) (bound : Option Bound)
  | zeroOrMore (p : Grammar) (bound : Option Bound)
  /-- `p`, or else the default value, if there is one. -/
  | optional (p : Grammar) (default : Option Datum)
  /-- The values of `p` combined to one. -/
  | fold (p : Grammar) (combine : List Datum → Except Fault Datum) (allowEmpty : Bool)
  | lift (p : Grammar) (f : Datum → Except Fault Datum)
  /-- `p` with values that are all accepted. -/
  | check (p : Grammar) (accepts : Datum → Except Fault Bool) (description : Option String)
  /-- `p`, and for every value the grammar that depends on it. -/
  | bind (p : Grammar) (k : Datum → Grammar)
  | describe (p : Grammar) (description : Option String)
  | reference (name : String) (description : Option String)
  /-- Stands where the grammar could not be built. -/
  | fault (cause : Fault)
  /-- Stands where a continuation gave no grammar. -/
  | notParser

namespace Grammar

/-! ## Combined forms -/

/-- Several grammars in sequence. -/
def sequence (p : Grammar) : List Grammar → Grammar
  | [] => p
  | q :: more => p.andThen (sequence q more)

/-- The first of several grammars that succeeds. -/
def choice (p : Grammar) : List Grammar → Grammar
  | [] => p
  | q :: more => p.orElse (choice q more)

/-- The values added up, or joined if the first of them belongs to a monoid. -/
def reduce [Monoids] (p : Grammar) : Grammar :=
  p.fold Datum.combine false

/-- The values combined from the last one on, with a seed. -/
def foldRight (p : Grammar) (f : Datum → Datum → Except Fault Datum) (seed : Datum) : Grammar :=
  p.fold (fun values => values.reverse.foldlM (fun acc v => f v acc) seed) true

/-- The values combined from the first one on, with a seed. -/
def foldLeft (p : Grammar) (f : Datum → Datum → Except Fault Datum) (seed : Datum) : Grammar :=
  p.fold (fun values => values.foldlM f seed) true

/-- One value in place of whatever `p` produces. -/
def inject (p : Grammar) (v : Datum) : Grammar :=
  p.fold (fun _ => .ok v) true

/-! ## The parser of a grammar -/

/-- The parser that a grammar stands for.  `resolve` applies the definition with a given name, and
`cap` limits the repetitions without a bound of their own. -/
def parser (resolve : String → Span → Run Results) (cap : Int) : Grammar → Parser
  | .satisfy accepts description => Parser.satisfy accepts description
  | .regex pattern description => Parser.regex pattern description
  | .succeed v => Parser.succeed v
  | .empty => Parser.empty
  | .done => Parser.done
  | .zero f => Parser.zero f
  | .andThen p q => (p.parser resolve cap).andThen (q.parser resolve cap)
  | .orElse p q => (p.parser resolve cap).orElse (q.parser resolve cap)
  | .ignore p => (p.parser resolve cap).ignore
  | .ignoreLeft p q => (p.parser resolve cap).ignoreLeft (q.parser resolve cap)
  | .ignoreRight p q => (p.parser resolve cap).ignoreRight (q.parser resolve cap)
  | .oneOrMore p bound => (p.parser resolve cap).oneOrMore cap bound
  | .zeroOrMore p bound => (p.parser resolve cap).zeroOrMore cap bound
  | .optional p default =>
    (p.parser resolve cap).optional ((default.map Parser.succeed).getD Parser.empty)
  | .fold p combine allowEmpty => (p.parser resolve cap).fold combine allowEmpty
  | .lift p f => (p.parser resolve cap).lift f
  | .check p accepts description => (p.parser resolve cap).check accepts description
  | .bind p k => (p.parser resolve cap).bind fun v => (k v).parser resolve cap
  | .describe p description => (p.parser resolve cap).describe description
  | .reference name description =>
    { description := description, parse := fun r => resolve name r }
  | .fault cause => Parser.halt (.fault cause)
  | .notParser => Parser.halt (.breach .notParser)

end Grammar

/-! ## Names -/

/-- The grammars that names stand for.  Any number of names may have one, and the grammars may refer
to each other. -/
abbrev Names := String → Option Grammar

namespace Grammar

/-- Applies the grammar of a name, with at most `depth` references inside each other. -/
def resolve (names : Names) (cap : Int) : Nat → String → Span → Run Results
  | 0, _, _ => .halt .endless
  | depth + 1, name, r =>
    match names name with
    | some g => (g.parser (resolve names cap depth) cap).parse r
    | none => .halt (.fault (.unbound name))

/-- The parser of a grammar that refers to names, with references nested to a given depth. -/
def parserIn (g : Grammar) (names : Names) (cap : Int) (depth : Nat) : Parser :=
  g.parser (resolve names cap depth) cap

end Grammar

/-! ## Definitions -/

/-- Finitely many named grammars. -/
structure Definitions where
  entries : List (String × Grammar)

namespace Definitions

/-- No definitions. -/
def empty : Definitions :=
  { entries := [] }

/-- The grammar of a name, which is that of its first definition. -/
def find? (defs : Definitions) : Names :=
  fun name => defs.entries.lookup name

/-- The deepest nesting of references that comes to an end.  Every nested reference is applied to a
window that begins somewhere in the given one, so that deeper nesting would apply one definition to
one window inside itself.  One level more is for a name without a definition. -/
def depth (defs : Definitions) (r : Span) : Nat :=
  defs.entries.length * (r.length + 1) + 1

end Definitions

namespace Grammar

/-- The parser of a grammar, with references nested as deep as each window calls for. -/
def toParser (g : Grammar) (defs : Definitions) (cap : Int) : Parser where
  description := (g.parserIn defs.find? cap 0).description
  parse r := (g.parserIn defs.find? cap (defs.depth r)).parse r

end Grammar

end TokenGrammar
