/-
# Folding values

The values of one application are combined to a single value, which is placed at the end of that
application.  A failed application stays as it is.
-/
import TokenGrammar.Datum.Arithmetic
import TokenGrammar.Parser.Basic

namespace TokenGrammar

namespace Parser

/-- Combines all values of an application.  Without a value there is nothing to combine unless
`allowEmpty` says so. -/
def fold (p : Parser) (combine : List Datum → Except Fault Datum) (allowEmpty : Bool) :
    Parser where
  description := p.description
  parse r := do
    let x ← p.parse r
    x.proceed fun rest =>
      if x.values.isEmpty && !allowEmpty then pure (.single (.empty rest))
      else do
        let v ← Run.ofFault (combine x.values)
        pure (.single (.value v rest))

/-- Adds the values up, or joins them if the first of them belongs to a monoid. -/
def reduce [Monoids] (p : Parser) : Parser :=
  p.fold Datum.combine false

/-- The right fold `f v₁ (f v₂ (... (f vₙ seed)))`; the last value is combined first. -/
def foldRight (p : Parser) (f : Datum → Datum → Except Fault Datum) (seed : Datum) : Parser :=
  p.fold (fun values => values.reverse.foldlM (fun acc v => f v acc) seed) true

/-- The left fold `f (... (f (f seed v₁) v₂) ...) vₙ`. -/
def foldLeft (p : Parser) (f : Datum → Datum → Except Fault Datum) (seed : Datum) : Parser :=
  p.fold (fun values => values.foldlM f seed) true

/-- Replaces whatever `p` produces by one value. -/
def inject (p : Parser) (v : Datum) : Parser :=
  p.fold (fun _ => .ok v) true

end Parser

end TokenGrammar
