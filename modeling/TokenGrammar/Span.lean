/-
# Spans

A span is a window on a source: the tokens from `start` up to `stop`.  Advancing a span moves its
start, and the tokens outside the window are never looked at.  The bounds are part of the type, so
that every span that exists is a proper one; the functions that take bounds from outside check them
and say what is wrong.
-/
import TokenGrammar.Index
import TokenGrammar.Source

namespace TokenGrammar

/-- The tokens of `source` from `start` up to `stop`. -/
structure Span where
  source : Source
  start : Nat
  stop : Nat
  start_le_stop : start ≤ stop
  stop_le_size : stop ≤ source.size

namespace Span

/-! ## Making spans -/

/-- The whole of a source. -/
def whole (s : Source) : Span :=
  { source := s, start := 0, stop := s.size, start_le_stop := Nat.zero_le _,
    stop_le_size := Nat.le_refl _ }

/-- The window with the given ends; a missing end is the end of the source.  Ends that do not fit
are named in what is wrong, if they can be written down. -/
def ofBounds (s : Source) (start : Int) (stop : Option Int) : Except SpanFault Span :=
  let last := stop.getD s.size
  if h : 0 ≤ start ∧ start ≤ last ∧ last ≤ s.size then
    .ok { source := s, start := start.toNat, stop := last.toNat,
          start_le_stop := by omega, stop_le_size := by omega }
  else if (Datum.int start).writable && (Datum.int last).writable then
    .error (.outside start last s.size)
  else .error .unwritable

/-! ## The tokens in view -/

/-- The number of tokens in view. -/
def length (r : Span) : Nat :=
  r.stop - r.start

/-- Whether no token is in view. -/
def isEmpty (r : Span) : Bool :=
  r.start == r.stop

/-- The tokens in view, in order. -/
def tokens (r : Span) : List Datum :=
  (r.source.content.extract r.start r.stop).tokens

/-- The tokens in view, copied out as a value of the kind of the source. -/
def contents (r : Span) : Datum :=
  (r.source.content.extract r.start r.stop).toDatum

theorem tokens_eq (r : Span) : r.tokens = r.source.tokens.extract r.start r.stop :=
  Content.tokens_extract ..

@[simp] theorem length_tokens (r : Span) : r.tokens.length = r.length := by
  have := r.stop_le_size
  rw [tokens_eq]
  simp only [List.extract, List.length_take, List.length_drop, Source.tokens,
    Content.length_tokens, length, Source.size] at *
  omega

@[simp] theorem tokens_whole (s : Source) : (whole s).tokens = s.tokens := by
  rw [tokens_eq]
  simp [whole, List.extract, Source.tokens, Source.size, ← Content.length_tokens]

/-- An empty window has length zero. -/
theorem isEmpty_iff (r : Span) : r.isEmpty = true ↔ r.length = 0 := by
  have := r.start_le_stop
  simp only [isEmpty, beq_iff_eq, length]
  omega

/-! ## The first token and the rest -/

/-- The first token in view. -/
def head (r : Span) : Except SpanFault Datum :=
  if h : r.start < r.stop then
    .ok (r.source.content.get r.start (Nat.lt_of_lt_of_le h r.stop_le_size))
  else .error .emptyHead

/-- The window after its first `n` tokens, which must be in view. -/
def drop (r : Span) (n : Nat) (h : n ≤ r.length) : Span :=
  { r with
    start := r.start + n
    start_le_stop := by
      have := r.start_le_stop
      simp only [length] at h
      omega }

/-- The window after its first `n` tokens, if so many are in view.  Otherwise the number is named in
what is wrong, if it can be written down. -/
def tail (r : Span) (n : Int) : Except SpanFault Span :=
  if h : 0 ≤ n ∧ n ≤ r.length then .ok (r.drop n.toNat (by omega))
  else if (Datum.int n).writable then .error (.overrun r.length n)
  else .error .unwritable

@[simp] theorem start_drop (r : Span) (n : Nat) (h : n ≤ r.length) :
    (r.drop n h).start = r.start + n := rfl

@[simp] theorem stop_drop (r : Span) (n : Nat) (h : n ≤ r.length) :
    (r.drop n h).stop = r.stop := rfl

@[simp] theorem source_drop (r : Span) (n : Nat) (h : n ≤ r.length) :
    (r.drop n h).source = r.source := rfl

/-- Dropping tokens from the window drops them from the tokens in view. -/
@[simp] theorem tokens_drop (r : Span) (n : Nat) (h : n ≤ r.length) :
    (r.drop n h).tokens = r.tokens.drop n := by
  rw [tokens_eq, tokens_eq, source_drop, start_drop, stop_drop, List.extract, List.extract,
    List.drop_take, List.drop_drop, Nat.sub_sub]

/-- Advancing by a number of tokens that are in view is dropping them. -/
theorem tail_ofNat (r : Span) (n : Nat) (h : n ≤ r.length) : r.tail n = .ok (r.drop n h) := by
  rw [tail, dif_pos ⟨Int.natCast_nonneg n, Int.ofNat_le.2 h⟩]
  rfl

/-- What a window can be advanced to is what is left of it. -/
theorem exists_drop_of_tail {r s : Span} {n : Int} (h : r.tail n = .ok s) :
    ∃ k : Nat, n = k ∧ ∃ hk : k ≤ r.length, s = r.drop k hk := by
  rw [tail] at h
  split at h
  · next hn =>
    exact ⟨n.toNat, (Int.toNat_of_nonneg hn.1).symm, by omega, (Except.ok.inj h).symm⟩
  · split at h <;> cases h

/-- The head is the first of the tokens in view. -/
theorem head_eq_ok_iff (r : Span) (t : Datum) : r.head = .ok t ↔ r.tokens.head? = some t := by
  have h₁ := r.start_le_stop
  have h₂ := r.stop_le_size
  have hlen : r.source.tokens.length = r.source.size := Content.length_tokens _
  unfold head
  split
  · next h =>
    have hlt : r.start < r.source.content.size := Nat.lt_of_lt_of_le h r.stop_le_size
    rw [tokens_eq, List.extract, List.head?_take, if_neg (by omega), List.head?_drop,
      Source.tokens, Content.getElem?_tokens _ _ hlt]
    simp
  · next h =>
    have hempty : r.tokens = [] := by
      apply List.eq_nil_of_length_eq_zero
      rw [length_tokens, length]
      omega
    simp [hempty]

/-! ## Indices and slices -/

/-- The token at an index; a negative index counts from the end of the window. -/
def get (r : Span) (i : Int) : Except SpanFault Datum :=
  match Index.place? r.length i with
  | some k =>
    .ok (r.source.content.get (r.start + k) (by
      have h₁ : r.stop ≤ r.source.content.size := r.stop_le_size
      have h₂ := k.isLt
      simp only [length] at h₂
      omega))
  | none => .error .indexOutside

/-- The window between two places of a window; it is empty if they are out of order. -/
def between (r : Span) (i j : Nat) (hi : i ≤ r.length) (hj : j ≤ r.length) : Span :=
  { source := r.source
    start := r.start + i
    stop := r.start + max i j
    start_le_stop := by omega
    stop_le_size := by
      have h₁ := r.start_le_stop
      have h₂ := r.stop_le_size
      simp only [length] at hi hj
      omega }

/-- A slice takes every token from one place up to another; a missing end is the end of the
window. -/
def slice (r : Span) (first last step : Option Int) : Except SpanFault Span :=
  match step.getD 1 with
  | 0 => .error .zeroStep
  | 1 =>
    let i := Index.clamp r.length (first.getD 0)
    let j := Index.clamp r.length (last.getD r.length)
    .ok (r.between i j (Index.clamp_le ..) (Index.clamp_le ..))
  | _ => .error .scattered

/-- The number of tokens between the starts of two windows on the same source. -/
def distance (r s : Span) : Except SpanFault Int :=
  if r.source.label = s.source.label then .ok (s.start - r.start) else .error .apart

/-! ## Looking for a token -/

/-- Whether a token in view equals a value. -/
def contains (r : Span) (v : Datum) : Bool :=
  r.tokens.any fun t => t.same v

/-- The place of the first token equal to `v`, counted from the start of the window. -/
def indexOf (r : Span) (v : Datum) : Except SpanFault Nat :=
  match r.tokens.findIdx? fun t => t.same v with
  | some i => .ok i
  | none => .error .absent

/-- How many tokens in view equal a value. -/
def count (r : Span) (v : Datum) : Nat :=
  r.tokens.countP fun t => t.same v

/-! ## Comparing and showing spans -/

/-- Whether a window can be a key, which depends on its source. -/
def hashable (r : Span) : Bool :=
  r.source.content.toDatum.hashable

/-- Whether two windows lie on equal contents and have the same ends. -/
def same (r s : Span) : Bool :=
  Datum.same r.source.content.toDatum s.source.content.toDatum
    && r.start == s.start && r.stop == s.stop

/-- The written form of a span. -/
def render (r : Span) : String :=
  "Range(" ++ r.contents.render ++ ", start=" ++ toString r.start ++ ")"

/-- Whether all tokens in view can be written down. -/
def writable (r : Span) : Bool :=
  r.contents.writable

end Span

end TokenGrammar
