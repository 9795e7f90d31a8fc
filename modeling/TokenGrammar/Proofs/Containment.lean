/-
# Containment

Wherever a parse goes on, it goes on inside the window that it began with, and the failures that it
reports are placed there too.  The invariant is a correspondence of every parse with itself: it
relates a window to itself as long as it lies inside a fixed one.
-/
import TokenGrammar.Grammar.Leaves
import TokenGrammar.Proofs.Parts

namespace TokenGrammar

/-- A failure that is placed somewhere between the ends of a window. -/
def Failure.Inside (f : Failure) (r : Span) : Prop :=
  ∃ p : Int, f.position = some p ∧ r.start ≤ p ∧ p ≤ r.stop

namespace Correspondence

/-- Every window inside `top` corresponds to itself, and so does every failure that is placed inside
`top` or is one of the given ones.  The notices that are allowed correspond to themselves. -/
def inside (top : Span) (given : Failure → Prop) (allowed : Notice → Prop)
    (hstalled : ∀ description position, allowed (.stalled description position)) :
    Correspondence where
  window r s := r = s ∧ r.Within top
  failure f g := f = g ∧ (f.Inside top ∨ given f)
  notice n m := n = m ∧ allowed n
  halt := Eq
  excuses _ := False
  view_eq h := congrArg Span.view h.1
  window_drop := by
    rintro r _ ⟨rfl, hr⟩ n hn _
    exact ⟨rfl, hr.drop n hn⟩
  start_eq_iff := by
    rintro r _ r' _ ⟨rfl, -⟩ ⟨rfl, -⟩
    exact Iff.rfl
  failure_at := by
    rintro r _ ⟨rfl, hr⟩ reason message
    refine ⟨rfl, Or.inl ⟨r.start, rfl, ?_, ?_⟩⟩
    · exact Int.ofNat_le.2 hr.start_le
    · exact Int.ofNat_le.2 hr.start_le_stop
  stalled_at := by
    rintro r _ ⟨rfl, -⟩ description
    exact ⟨rfl, hstalled description r.start⟩
  halt_reflexive := Halt.reflexive_eq
  halt_enclosed := congrArg Halt.enclosed
  excuses_enclosed := id

variable {top : Span} {given : Failure → Prop} {allowed : Notice → Prop}
  {hstalled : ∀ description position, allowed (.stalled description position)}

/-- Nothing inside a window corresponds to anything but itself. -/
theorem diagonal_inside : (inside top given allowed hstalled).Diagonal where
  eq_of_window h := h.1
  eq_of_failure h := h.1
  eq_of_notice h := h.1
  eq_of_halt h := h

/-- The rest of an outcome inside a window lies inside it. -/
theorem outcomeRel_inside_rest {o p : Outcome}
    (h : (inside top given allowed hstalled).OutcomeRel o p) {s : Span}
    (hs : o.rest? = some s) : s.Within top := by
  cases h with
  | value v hw => exact Option.some.inj hs ▸ hw.2
  | empty hw => exact Option.some.inj hs ▸ hw.2
  | failure _ => cases hs

/-- A failure inside a window has its position there or was given. -/
theorem outcomeRel_inside_failure {f : Failure} {p : Outcome}
    (h : (inside top given allowed hstalled).OutcomeRel (.failure f) p) :
    f.Inside top ∨ given f := by
  cases h with
  | failure hf => exact hf.2

end Correspondence

/-! ## Contained parsers -/

/-- Every input left by a success lies inside the window that a parser is applied to. -/
def Parser.Contained (p : Parser) : Prop :=
  ∀ r x, (p.parse r).result = .ok x → ∀ o ∈ x.toList, ∀ s, o.rest? = some s → s.Within r

/-- The input left after the last success is what some success leaves. -/
theorem Results.exists_mem_of_lastRest? {os : List Outcome} {s : Span}
    (h : lastRest? os = some s) : ∃ o ∈ os, o.rest? = some s := by
  induction os with
  | nil => cases h
  | cons o os ih =>
    rw [lastRest?] at h
    cases hos : lastRest? os with
    | none =>
      rw [hos] at h
      exact ⟨o, List.mem_cons_self, h⟩
    | some t =>
      -- a later success decides, whatever this outcome is
      rw [hos] at h
      obtain ⟨p, hp, hps⟩ := ih (hos.trans h)
      exact ⟨p, List.mem_cons_of_mem o hp, hps⟩

/-- A contained parser goes on inside the window that it was applied to. -/
theorem Parser.Contained.remaining_within {p : Parser} (hp : p.Contained) {r s : Span} {x : Results}
    (hx : (p.parse r).result = .ok x) (hs : x.remaining = some s) : s.Within r := by
  obtain ⟨o, ho, hos⟩ := Results.exists_mem_of_lastRest? hs
  exact hp r x hx o ho s hos

/-! ## Contained grammars -/

namespace Grammar

variable (g : Grammar) (names : Names) (cap : Int) (depth : Nat)

open Correspondence

/-- The parser of a grammar corresponds to itself inside every window. -/
theorem parserRel_inside (top : Span) :
    (inside top (g.Gives names) (fun _ => True) fun _ _ => trivial).ParserRel
      (g.parserIn names cap depth) (g.parserIn names cap depth) :=
  parserRel_parserIn rfl depth (fun _ _ _ hp => hp.freeRel fun _ _ => And.intro rfl trivial) g
    ⟨fun _ hf => ⟨rfl, Or.inr hf⟩, fun _ => rfl⟩

/-- Every outcome of a parse lies inside the window of that parse. -/
theorem outcomeRel_inside {r : Span} {x : Results}
    (h : ((g.parserIn names cap depth).parse r).result = .ok x) :
    ∀ o ∈ x.toList,
      (inside r (g.Gives names) (fun _ => True) fun _ _ => trivial).OutcomeRel o o := by
  rcases (g.parserRel_inside names cap depth r).parse ⟨rfl, .refl r⟩ with ⟨_, _, hno⟩ | ⟨hend, -⟩
  · exact hno.elim
  · rw [h] at hend
    cases hend with
    | ok hx => exact List.forall₂_same.1 hx

/-- The parser of every grammar is contained. -/
theorem contained_parserIn : (g.parserIn names cap depth).Contained :=
  fun _ _ hx o ho _ hs => outcomeRel_inside_rest (g.outcomeRel_inside names cap depth hx o ho) hs

/-- **Containment.**  Every success of a parse, leading or not, leaves a window on the same source
that ends where the given one ends and begins between its ends, and every failure is placed between
these ends too, unless it is one that the grammar was given to fail with. -/
theorem parse_inside {r : Span} {x : Results}
    (h : ((g.parserIn names cap depth).parse r).result = .ok x) :
    (∀ o ∈ x.toList, ∀ rest, o.rest? = some rest →
      rest.source = r.source ∧ rest.stop = r.stop ∧ r.start ≤ rest.start ∧ rest.start ≤ r.stop) ∧
    (∀ f, .failure f ∈ x.toList →
      (∃ p : Int, f.position = some p ∧ r.start ≤ p ∧ p ≤ r.stop) ∨ g.Gives names f) := by
  constructor
  · intro o ho rest hrest
    have hw : rest.Within r := g.contained_parserIn names cap depth r x h o ho rest hrest
    exact ⟨hw.source_eq, hw.stop_eq, hw.start_le, hw.start_le_stop⟩
  · intro f hf
    exact outcomeRel_inside_failure (g.outcomeRel_inside names cap depth h _ hf)

/-- The case of items that are read once more after each item but `a`, in the middle of a text: the
failures are a given one and one at the end of the window. -/
theorem parse_inside_items :
    let names : Names := fun _ => some .item
    let window (i : Nat) (h : i ≤ 4) : Span :=
      { source := .ofText "xbaby".toList, start := i, stop := 4, start_le_stop := h,
        stop_le_size := by decide }
    let r := window 1 (by decide)
    let given : Failure := { reason := .general, message := "no a", position := some 9 }
    let g : Grammar := (Grammar.oneOrMore .item none).bind fun v =>
      if v.same (Datum.char 'a') then .zero given else .reference "item" none
    let x : Results :=
      { head := .value (Datum.char 'a') (window 3 (by decide))
        tail := [.failure given, .failure (.missingItem 4)] }
    ((g.parserIn names 10 1).parse r).result = .ok x ∧
      (∀ o ∈ x.toList, ∀ rest, o.rest? = some rest →
        rest.source = r.source ∧ rest.stop = r.stop ∧ r.start ≤ rest.start ∧
          rest.start ≤ r.stop) ∧
      (∀ f, .failure f ∈ x.toList →
        (∃ p : Int, f.position = some p ∧ r.start ≤ p ∧ p ≤ r.stop) ∨ g.Gives names f) := by
  intro names window r given g x
  have hx : ((g.parserIn names 10 1).parse r).result = .ok x := rfl
  exact ⟨hx, parse_inside g names 10 1 hx⟩

end Grammar

end TokenGrammar
