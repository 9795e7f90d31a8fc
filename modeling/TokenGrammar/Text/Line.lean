/-
# Lines

Where a place lies in a text of several lines: the line that holds it, the number of that line and
the distance from its beginning.  A newline belongs to the line that it ends.
-/
import TokenGrammar.Index

namespace TokenGrammar

namespace Line

/-- The place where the line around `place` begins. -/
def start (cs : List Char) (place : Nat) : Nat :=
  (cs.take place).length - ((cs.take place).reverse.takeWhile (· != '\n')).length

/-- The place of the newline that ends the line around `place`, or the end of the text. -/
def stop (cs : List Char) (place : Nat) : Nat :=
  place + ((cs.drop place).takeWhile (· != '\n')).length

/-- The number of the line around `place`, counting from one. -/
def number (cs : List Char) (place : Nat) : Nat :=
  (cs.take place).count '\n' + 1

/-- The characters from one place up to another. -/
def between (cs : List Char) (first last : Nat) : List Char :=
  (cs.take last).drop first

end Line

end TokenGrammar
