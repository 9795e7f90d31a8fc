/-
# Command line

Prints the demonstration.
-/
import TokenGrammar.Demo

instance : TokenGrammar.Monoids := .none

def main : IO Unit :=
  IO.print TokenGrammar.Demo.transcript
