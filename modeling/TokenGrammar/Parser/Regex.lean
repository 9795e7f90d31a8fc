/-
# Regular expressions as parsers

A regular expression is matched at the start of a window.  It is given the tokens in view and
nothing else, so that it cannot look beyond either end of the window.
-/
import TokenGrammar.Parser.Basic
import TokenGrammar.Pattern.Match

namespace TokenGrammar

/-- The characters that a recogniser for texts or for byte strings is applied to. -/
def Content.characters (c : Content) (bytes : Bool) : Except Halt (List Char) :=
  match c, bytes with
  | .text cs, false => .ok cs.toList
  | .bytes bs, true => .ok (bs.toList.map fun b => Char.ofNat b.toNat)
  | .text _, true | .bytes _, false => .error (.fault .wrongType)
  | c, _ => .error (.unreadable c.kindName)

/-- A recogniser is given as many characters as there are tokens. -/
theorem Content.length_characters {c : Content} {bytes : Bool} {cs : List Char}
    (h : c.characters bytes = .ok cs) : cs.length = c.size := by
  cases c <;> cases bytes <;> simp only [characters, Except.ok.injEq, reduceCtorEq] at h
  all_goals simp [← h, size]

namespace Parser

/-- Consumes the match of a regular expression and produces it as a text or byte string. -/
def regex (pattern : Recogniser) (description : String) : Parser where
  description := some description
  parse r := do
    let view := r.source.content.extract r.start r.stop
    match view.characters pattern.bytes with
    | .error h => .halt h
    | .ok cs =>
      match pattern.matchLength? cs with
      | some n => do
        let rest ← Run.ofSpan (r.tail n)
        pure (.single (.value (view.extract 0 n).toDatum rest))
      | none =>
        if r.isEmpty then pure (.fail (.mismatch (some description) .null r.start))
        else do
          let t ← Run.ofSpan r.head
          pure (.fail (.mismatch (some description) t r.start))

end Parser

end TokenGrammar
