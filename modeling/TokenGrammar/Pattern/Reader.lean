/-
# Reading regular expressions

An expression is first cut into lexemes and then put together with a stack of open groups.  Whatever
does not make up an expression is refused: a group or a set that is not closed, a repetition of
nothing or of a repetition, a range or a pair of bounds in the wrong order, an unknown escape, a
reference to a group that is not complete, a look back over a varying number of characters.
-/
import TokenGrammar.Fault
import TokenGrammar.Pattern.Basic

namespace TokenGrammar

namespace Pattern

/-! ## Lexemes -/

/-- What a parenthesis opens. -/
inductive GroupKind where
  | capture
  | plain
  | ahead (negated : Bool)
  | behind (negated : Bool)
deriving DecidableEq

/-- The signs that a pattern is written with. -/
inductive Lexeme where
  /-- Something that can be repeated. -/
  | atom (n : Node)
  /-- A condition on the place, which cannot be repeated. -/
  | condition (n : Node)
  | reference (number : Nat)
  | opening (kind : GroupKind)
  | closing
  | bar
  | quantifier (least : Nat) (most : Option Nat) (greed : Greed)

/-- The characters that an escaped letter stands for. -/
def controlEscape? (c : Char) : Option Char :=
  [('n', '\n'), ('r', '\r'), ('t', '\t'), ('f', '\x0c'), ('v', '\x0b'), ('a', '\x07')].lookup c

/-- The classes that an escaped letter stands for. -/
def shorthand? (c : Char) : Option Item :=
  [('d', .shorthand .digit false), ('D', .shorthand .digit true),
   ('w', .shorthand .word false), ('W', .shorthand .word true),
   ('s', .shorthand .blank false), ('S', .shorthand .blank true)].lookup c

/-- What an escaped character stands for inside and outside sets alike.  Any other letter or digit
is refused. -/
def escapedItem (c : Char) : Except Fault Item :=
  match shorthand? c, controlEscape? c with
  | some item, _ => .ok item
  | none, some control => .ok (.single control)
  | none, none => if c.isAlphanum then .error .badPattern else .ok (.single c)

/-- The number that digits stand for. -/
def decimal (digits : List Char) : Nat :=
  digits.foldl (fun acc c => 10 * acc + (c.toNat - '0'.toNat)) 0

/-- Whether a character is an octal digit. -/
def isOctal (c : Char) : Bool :=
  '0' ≤ c && c ≤ '7'

/-- The character with an octal number, which must fit a byte. -/
def octal (digits : List Char) : Except Fault Item :=
  let n := digits.foldl (fun acc c => 8 * acc + (c.toNat - '0'.toNat)) 0
  if n < 0x100 then .ok (.single (Char.ofNat n)) else .error .badPattern

/-! ## Sets in brackets -/

/-- The signs that a set of characters is written with. -/
inductive SetLexeme where
  /-- A hyphen that may join the ends of a range. -/
  | hyphen
  | item (i : Item)

/-- Reads what follows a backslash inside a set: the item and the number of characters it takes. -/
def readSetEscape (cs : List Char) : Except Fault (Item × Nat) :=
  match cs with
  | [] => .error .badPattern
  | 'b' :: _ => .ok (.single '\x08', 1)
  | c :: more =>
    if isOctal c then do
      let digits := c :: (more.take 2).takeWhile isOctal
      let item ← octal digits
      pure (item, digits.length)
    else do
      let item ← escapedItem c
      pure (item, 1)

/-- The lexemes of a set up to its closing bracket, and the number of characters they take with
the bracket.  A bracket at the beginning stands for itself. -/
def setLexemes (first : Bool) : List Char → Except Fault (List SetLexeme × Nat)
  | [] => .error .badPattern
  | '\\' :: cs => do
    let (item, taken) ← readSetEscape cs
    let (more, n) ← setLexemes false (cs.drop taken)
    pure (.item item :: more, taken + n + 1)
  | c :: cs =>
    if c = ']' && !first then .ok ([], 1)
    else do
      let (more, n) ← setLexemes false cs
      pure ((if c = '-' then .hyphen else .item (.single c)) :: more, n + 1)
termination_by cs => cs.length
decreasing_by all_goals simp only [List.length_drop, List.length_cons]; omega

/-- A hyphen that does not stand between two items is an item itself. -/
def SetLexeme.toItem : SetLexeme → Item
  | .hyphen => .single '-'
  | .item i => i

/-- A range between two single characters in order. -/
def rangeOf (low high : SetLexeme) : Except Fault Item :=
  match low.toItem, high.toItem with
  | .single a, .single b => if a ≤ b then .ok (.range a b) else .error .badPattern
  | _, _ => .error .badPattern

/-- Joins the lexemes around hyphens to ranges; a hyphen at either end stands for itself. -/
def setItems : List SetLexeme → Except Fault (List Item)
  | low :: .hyphen :: high :: more => do
    let range ← rangeOf low high
    let items ← setItems more
    pure (range :: items)
  | x :: more => do
    let items ← setItems more
    pure (x.toItem :: items)
  | [] => .ok []

/-- Reads a set behind its opening bracket, and tells how many characters it takes. -/
def readSet (cs : List Char) : Except Fault (Lexeme × Nat) := do
  match cs with
  | '^' :: more =>
    let (lexemes, n) ← setLexemes true more
    let items ← setItems lexemes
    pure (.atom (.set true items), n + 1)
  | _ =>
    let (lexemes, n) ← setLexemes true cs
    let items ← setItems lexemes
    pure (.atom (.set false items), n)

/-! ## Escapes, groups and quantifiers -/

/-- Reads what follows a backslash outside sets.  Three octal digits, or any behind a zero, are the
number of a character; other digits, two at most, are the number of a group. -/
def readEscape (cs : List Char) : Except Fault (Lexeme × Nat) :=
  match cs with
  | [] => .error .badPattern
  | 'b' :: _ => .ok (.condition (.boundary false), 1)
  | 'B' :: _ => .ok (.condition (.boundary true), 1)
  | 'A' :: _ => .ok (.condition .startOfText, 1)
  | 'Z' :: _ => .ok (.condition (.endOfText false), 1)
  | c :: more =>
    let digits := c :: (more.take 2).takeWhile isOctal
    if c = '0' || (isOctal c && digits.length = 3) then do
      let item ← octal digits
      pure (.atom (.set false [item]), digits.length)
    else if c.isDigit then
      let digits := c :: (more.take 1).takeWhile Char.isDigit
      .ok (.reference (decimal digits), digits.length)
    else do
      let item ← escapedItem c
      pure (.atom (.set false [item]), 1)

/-- Reads what follows an opening parenthesis. -/
def readOpening (cs : List Char) : Except Fault (Lexeme × Nat) :=
  match cs with
  | '?' :: ':' :: _ => .ok (.opening .plain, 2)
  | '?' :: '=' :: _ => .ok (.opening (.ahead false), 2)
  | '?' :: '!' :: _ => .ok (.opening (.ahead true), 2)
  | '?' :: '<' :: '=' :: _ => .ok (.opening (.behind false), 3)
  | '?' :: '<' :: '!' :: _ => .ok (.opening (.behind true), 3)
  | '?' :: _ => .error .badPattern
  | _ => .ok (.opening .capture, 0)

/-- A quantifier with the mark for its greed, which may follow. -/
def withGreed (least : Nat) (most : Option Nat) (n : Nat) (rest : List Char) : Lexeme × Nat :=
  match rest with
  | '?' :: _ => (.quantifier least most .lazy, n + 1)
  | '+' :: _ => (.quantifier least most .possessive, n + 1)
  | _ => (.quantifier least most .greedy, n)

/-- The sign for one character. -/
def literal (c : Char) : Lexeme :=
  .atom (.set false [.single c])

/-- Reads what follows an opening brace: one or two bounds, or else the brace stands for itself. -/
def readBounds (cs : List Char) : Except Fault (Lexeme × Nat) :=
  let low := cs.takeWhile Char.isDigit
  let rest := cs.drop low.length
  let least := decimal low
  match rest with
  | '}' :: more =>
    if low.isEmpty then .ok (literal '\x7b', 0)
    else .ok (withGreed least (some least) (low.length + 1) more)
  | ',' :: more =>
    let high := more.takeWhile Char.isDigit
    match more.drop high.length with
    | '}' :: after =>
      let most := if high.isEmpty then none else some (decimal high)
      if most.any (· < least) then .error .badPattern
      else .ok (withGreed least most (low.length + high.length + 2) after)
    | _ => .ok (literal '\x7b', 0)
  | _ => .ok (literal '\x7b', 0)

/-- The lexeme that begins with `c`, and how many of the characters after `c` belong to it. -/
def readLexeme (c : Char) (cs : List Char) : Except Fault (Lexeme × Nat) :=
  match c with
  | '\\' => readEscape cs
  | '[' => readSet cs
  | '(' => readOpening cs
  | ')' => .ok (.closing, 0)
  | '|' => .ok (.bar, 0)
  | '.' => .ok (.atom .anyChar, 0)
  | '^' => .ok (.condition .startOfText, 0)
  | '$' => .ok (.condition (.endOfText true), 0)
  | '*' => .ok (withGreed 0 none 0 cs)
  | '+' => .ok (withGreed 1 none 0 cs)
  | '?' => .ok (withGreed 0 (some 1) 0 cs)
  | '\x7b' => readBounds cs
  | _ => .ok (literal c, 0)

/-- A pattern as a list of signs. -/
def lexemes : List Char → Except Fault (List Lexeme)
  | [] => .ok []
  | c :: cs => do
    let (lexeme, n) ← readLexeme c cs
    let more ← lexemes (cs.drop n)
    pure (lexeme :: more)
termination_by cs => cs.length
decreasing_by simp only [List.length_drop, List.length_cons]; omega

/-! ## Putting an expression together -/

/-- A part of a sequence, with what a quantifier behind it may do. -/
inductive Part where
  | repeatable (n : Node)
  | repeated (n : Node)
  | condition (n : Node)

/-- A part without what it says about repetition. -/
def Part.node : Part → Node
  | .repeatable n | .repeated n | .condition n => n

/-- A group that is still open: the number of groups with a number up to and including it, which is
its own number if it has one, the alternatives before the last bar and the parts since then, the
latest first. -/
structure Frame where
  kind : GroupKind
  number : Nat
  alternatives : List Node
  parts : List Part

namespace Frame

/-- The frame of a group that has just been opened. -/
def start (kind : GroupKind) (number : Nat) : Frame :=
  { kind := kind, number := number, alternatives := [], parts := [] }

/-- One part more in a frame. -/
def push (f : Frame) (p : Part) : Frame :=
  { f with parts := p :: f.parts }

/-- The sequence since the last bar. -/
def sequence (f : Frame) : Node :=
  match f.parts with
  | [] => .empty
  | p :: ps => ps.foldl (fun n q => .cat q.node n) p.node

/-- Begins another alternative. -/
def split (f : Frame) : Frame :=
  { f with alternatives := f.sequence :: f.alternatives, parts := [] }

/-- All alternatives, the first one on the outside. -/
def choice (f : Frame) : Node :=
  f.alternatives.foldl (fun n a => .alt a n) f.sequence

/-- The node of the completed group.  Looking back needs a fixed number of characters. -/
def close (f : Frame) : Except Fault Node :=
  match f.kind with
  | .capture => .ok (.group f.number f.choice)
  | .plain => .ok f.choice
  | .ahead negated => .ok (.lookAhead negated f.choice)
  | .behind negated =>
    match f.choice.width.fixed? with
    | some width => .ok (.lookBehind negated width f.choice)
    | none => .error .badPattern

/-- Whether the group is a look back that began before the group with the given number. -/
def looksBackAround (f : Frame) (number : Nat) : Bool :=
  match f.kind with
  | .behind _ => f.number < number
  | _ => false

/-- Repeats the latest part. -/
def quantify (f : Frame) (least : Nat) (most : Option Nat) (greed : Greed) :
    Except Fault Frame :=
  match f.parts with
  | .repeatable n :: ps => .ok { f with parts := .repeated (.loop n least most greed) :: ps }
  | _ => .error .badPattern

end Frame

/-- Adds the lexemes to the innermost of the open groups.  `count` groups with a number have been
opened so far, and `closed` has the widths of those that are complete.  A reference needs a complete
group, and inside a look back one from before the look back. -/
def build (count : Nat) (closed : List (Nat × Width)) (top : Frame) (outer : List Frame) :
    List Lexeme → Except Fault Node
  | [] => if outer.isEmpty then .ok top.choice else .error .badPattern
  | .atom n :: more => build count closed (top.push (.repeatable n)) outer more
  | .condition n :: more => build count closed (top.push (.condition n)) outer more
  | .reference k :: more =>
    match closed.lookup k with
    | some width =>
      if (top :: outer).any (·.looksBackAround k) then .error .badPattern
      else build count closed (top.push (.repeatable (.reference k width))) outer more
    | none => .error .badPattern
  | .opening kind :: more =>
    let count := if kind = .capture then count + 1 else count
    build count closed (Frame.start kind count) (top :: outer) more
  | .closing :: more =>
    match outer with
    | [] => .error .badPattern
    | next :: outer => do
      let node ← top.close
      let closed := if top.kind = .capture then (top.number, node.width) :: closed else closed
      build count closed (next.push (.repeatable node)) outer more
  | .bar :: more => build count closed top.split outer more
  | .quantifier least most greed :: more => do
    let top ← top.quantify least most greed
    build count closed top outer more

/-- Takes off the marks `(?i)` at the beginning and tells whether there is one. -/
def splitMarks : List Char → Bool × List Char
  | '(' :: '?' :: 'i' :: ')' :: cs => (true, (splitMarks cs).2)
  | cs => (false, cs)

/-- Reads an expression.  A leading `(?i)` makes it ignore the case of letters. -/
def read (bytes : Bool) (written : List Char) : Except Fault Pattern := do
  let (ignoreCase, cs) := splitMarks written
  let body ← build 0 [] (Frame.start .plain 0) [] (← lexemes cs)
  pure { written := written, dialect := { bytes := bytes, ignoreCase := ignoreCase }, body := body }

end Pattern

end TokenGrammar
