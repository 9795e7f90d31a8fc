/-
# Matching regular expressions

Matching goes through the expression with a continuation that says whether the rest matches too; a
choice that does not work out is taken back.  A repetition may take another turn only if its last
voluntary turn did not begin at the same place, so that turns that match nothing come to an end.
-/
import TokenGrammar.Pattern.Basic

namespace TokenGrammar

namespace Pattern

/-- A place in a text, as the characters before it (the nearest first) and after it, with what the
groups have matched so far. -/
structure State where
  before : List Char
  after : List Char
  groups : List (Nat × List Char)

namespace State

/-- The state in which a match begins. -/
def start (cs : List Char) : State :=
  { before := [], after := cs, groups := [] }

/-- Moves over the next character if it is accepted. -/
def step? (s : State) (accepts : Char → Bool) : Option State :=
  match s.after with
  | c :: cs =>
    if accepts c then some { s with before := c :: s.before, after := cs } else none
  | [] => none

/-- Moves over given characters, compared by a key. -/
def follow? (key : Char → Char) : List Char → State → Option State
  | [], s => some s
  | c :: cs, s => do
    let t ← s.step? fun x => key x = key c
    follow? key cs t

/-- Moves back over `n` characters. -/
def back? (s : State) (n : Nat) : Option State :=
  if n ≤ s.before.length then
    some { s with before := s.before.drop n, after := (s.before.take n).reverse ++ s.after }
  else none

/-- Whether one side of the place belongs to a word and the other does not.  In an empty text there
is no such place and no other place either. -/
def atBoundary? (s : State) (isWord : Char → Bool) : Option Bool :=
  if s.before.isEmpty && s.after.isEmpty then none
  else some (s.before.head?.any isWord != s.after.head?.any isWord)

end State

/-- A matcher tries to match from a place and to go on with the continuation. -/
abbrev Matcher := State → (State → Option State) → Option State

/-- Matches without a continuation, so that nothing is given back later. -/
def Matcher.alone (m : Matcher) (s : State) : Option State :=
  m s some

/-- The turns of a repetition.  `count` turns are done and `last` says how much text was left at the
beginning of the last voluntary turn. -/
def turns (body : Matcher) (least : Nat) (most : Option Nat) (lazily : Bool)
    (k : State → Option State) : Nat → Nat → Option Nat → State → Option State
  | 0, _, _, _ => none
  | fuel + 1, count, last, s =>
    if count < least then body s (turns body least most lazily k fuel (count + 1) last)
    else
      let mayTurn := most.all (count < ·) && last != some s.after.length
      let turn (_ : Unit) : Option State :=
        if mayTurn then
          body s (turns body least most lazily k fuel (count + 1) (some s.after.length))
        else none
      if lazily then k s <|> turn () else turn () <|> k s

/-- Repeats a matcher.  Every voluntary turn but the last begins further on in the text, which
bounds the number of turns. -/
def Matcher.many (body : Matcher) (least : Nat) (most : Option Nat) (lazily : Bool) : Matcher :=
  fun s k => turns body least most lazily k (least + s.after.length + 2) 0 none s

/-- Matches a node from a place. -/
def Node.matcher (d : Dialect) : Node → Matcher
  | .empty => fun s k => k s
  | .anyChar => fun s k => s.step? (· != '\n') >>= k
  | .set negated items => fun s k => s.step? (d.accepts negated items) >>= k
  | .startOfText => fun s k => if s.before.isEmpty then k s else none
  | .endOfText beforeNewline => fun s k =>
    if s.after.isEmpty || (beforeNewline && s.after == ['\n']) then k s else none
  | .boundary negated => fun s k =>
    match s.atBoundary? (d.inShorthand .word) with
    | some b => if b != negated then k s else none
    | none => none
  | .cat a b => fun s k => a.matcher d s fun t => b.matcher d t k
  | .alt a b => fun s k => a.matcher d s k <|> b.matcher d s k
  | .loop body least most greed => fun s k =>
    match greed with
    | .greedy => (body.matcher d).many least most false s k
    | .lazy => (body.matcher d).many least most true s k
    | .possessive => ((body.matcher d).many least most false).alone s >>= k
  | .group number body => fun s k =>
    body.matcher d s fun t =>
      k { t with groups := (number, s.after.take (s.after.length - t.after.length)) :: t.groups }
  | .reference number _ => fun s k =>
    match s.groups.lookup number with
    | some cs => s.follow? (if d.ignoreCase then d.lower else id) cs >>= k
    | none => none
  | .lookAhead negated body => fun s k =>
    match (body.matcher d).alone s, negated with
    | some t, false => k { s with groups := t.groups }
    | none, true => k s
    | _, _ => none
  | .lookBehind negated width body => fun s k =>
    match s.back? width >>= (body.matcher d).alone, negated with
    | some t, false => k { s with groups := t.groups }
    | none, true => k s
    | _, _ => none

end Pattern

/-- The length of the match at the beginning of a text, if there is one. -/
def Pattern.matchLength? (p : Pattern) (cs : List Char) : Option Nat :=
  ((p.body.matcher p.dialect).alone (.start cs)).map fun s => cs.length - s.after.length

/-- A match does not reach beyond the text. -/
theorem Pattern.matchLength?_le {p : Pattern} {cs : List Char} {n : Nat}
    (h : p.matchLength? cs = some n) : n ≤ cs.length := by
  obtain ⟨s, _, rfl⟩ := Option.map_eq_some_iff.1 h
  exact Nat.sub_le ..

/-! ## Recognisers -/

/-- Anything that finds a match at the beginning of a text, or with `bytes` of a byte string.  The
match does not reach beyond what it is given. -/
structure Recogniser where
  bytes : Bool
  matchLength? : List Char → Option Nat
  matchLength?_le : ∀ {cs n}, matchLength? cs = some n → n ≤ cs.length

/-- A regular expression as a recogniser. -/
def Pattern.recogniser (p : Pattern) : Recogniser where
  bytes := p.dialect.bytes
  matchLength? := p.matchLength?
  matchLength?_le := p.matchLength?_le

end TokenGrammar
