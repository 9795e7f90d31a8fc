/-
# Sources

A source is what a parser reads: a text, a byte string, a list or a tuple.  Its tokens are values,
the characters of a text being texts of one character and the bytes of a byte string integers.  Two
sources with the same content can still be different sources, which the label tells apart.
-/
import TokenGrammar.Datum.Render

namespace TokenGrammar

/-- The content of a source. -/
inductive Content where
  | text (cs : Array Char)
  | bytes (bs : Array UInt8)
  | list (items : Array Datum)
  | tuple (items : Array Datum)

namespace Content

/-! ## Tokens -/

/-- The number of items. -/
def size : Content → Nat
  | .text cs => cs.size
  | .bytes bs => bs.size
  | .list items => items.size
  | .tuple items => items.size

/-- The tokens in order. -/
def tokens : Content → List Datum
  | .text cs => cs.toList.map Datum.char
  | .bytes bs => bs.toList.map Datum.ofByte
  | .list items => items.toList
  | .tuple items => items.toList

@[simp] theorem length_tokens (c : Content) : c.tokens.length = c.size := by
  cases c <;> simp [tokens, size]

/-- The token at a place. -/
def get (c : Content) (i : Nat) (h : i < c.size) : Datum :=
  match c with
  | .text cs => have hi : i < cs.size := h; Datum.char cs[i]
  | .bytes bs => have hi : i < bs.size := h; Datum.ofByte bs[i]
  | .list items => have hi : i < items.size := h; items[i]
  | .tuple items => have hi : i < items.size := h; items[i]

/-- Looking a token up is looking it up in the list of tokens. -/
theorem getElem?_tokens (c : Content) (i : Nat) (h : i < c.size) :
    c.tokens[i]? = some (c.get i h) := by
  cases c with
  | text cs =>
    have hi : i < cs.size := h
    show (cs.toList.map Datum.char)[i]? = some (Datum.char cs[i])
    simp [hi]
  | bytes bs =>
    have hi : i < bs.size := h
    show (bs.toList.map Datum.ofByte)[i]? = some (Datum.ofByte bs[i])
    simp [hi]
  | list items =>
    have hi : i < items.size := h
    show items.toList[i]? = some items[i]
    simp [hi]
  | tuple items =>
    have hi : i < items.size := h
    show items.toList[i]? = some items[i]
    simp [hi]

/-! ## Parts -/

/-- The part from `start` up to `stop`, of the same kind. -/
def extract (start stop : Nat) : Content → Content
  | .text cs => .text (cs.extract start stop)
  | .bytes bs => .bytes (bs.extract start stop)
  | .list items => .list (items.extract start stop)
  | .tuple items => .tuple (items.extract start stop)

/-- The tokens of a part are a part of the tokens. -/
theorem tokens_extract (c : Content) (start stop : Nat) :
    (c.extract start stop).tokens = c.tokens.extract start stop := by
  cases c <;> simp [extract, tokens, List.extract, List.map_take, List.map_drop]

/-! ## Content and values -/

/-- The value with this content. -/
def toDatum : Content → Datum
  | .text cs => .text cs.toList
  | .bytes bs => .bytes bs.toList
  | .list items => .list items.toList
  | .tuple items => .tuple items.toList

/-- The content of a sequence; other values have none. -/
def ofDatum? : Datum → Option Content
  | .text cs => some (.text cs.toArray)
  | .bytes bs => some (.bytes bs.toArray)
  | .list items => some (.list items.toArray)
  | .tuple items => some (.tuple items.toArray)
  | _ => none

/-- The name of the kind of sequence, as messages give it. -/
def kindName : Content → String
  | .text _ => "str"
  | .bytes _ => "bytes"
  | .list _ => "list"
  | .tuple _ => "tuple"

end Content

/-- Something to parse. -/
structure Source where
  label : Nat
  content : Content

namespace Source

/-- The number of tokens. -/
def size (s : Source) : Nat :=
  s.content.size

/-- All tokens. -/
def tokens (s : Source) : List Datum :=
  s.content.tokens

/-- A source with the characters of a text. -/
def ofText (cs : List Char) : Source :=
  { label := 0, content := .text cs.toArray }

/-- A source with the tokens of a list. -/
def ofList (items : List Datum) : Source :=
  { label := 0, content := .list items.toArray }

/-- A source with the items of a sequence. -/
def ofDatum (label : Nat) (d : Datum) : Except SpanFault Source :=
  match Content.ofDatum? d with
  | some content => .ok { label := label, content := content }
  | none => .error .notSequence

@[simp] theorem tokens_ofText (cs : List Char) : (ofText cs).tokens = cs.map Datum.char := by
  simp [ofText, tokens, Content.tokens]

end Source

end TokenGrammar
