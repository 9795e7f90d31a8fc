/-
# Translation

A parse sees its window only: two windows with the same tokens in view give the same parse, up to
the distance between their starts.  Nothing before a window or after it has any influence.  The
invariant is a correspondence of two windows that lie equally deep in the two given ones.

Failures that the grammar was given are the one thing that does not move.  Such a failure may well
look like one that the engine reports at that place, so that what it is cannot be read off it.  It
is told by exchanging the given failures: an outcome that was given follows every exchange.
-/
import Mathlib.Logic.Encodable.Basic
import TokenGrammar.Grammar.Leaves
import TokenGrammar.Proofs.Parts

namespace TokenGrammar

/-! ## Windows at the same depth -/

/-- What a window inside another one shows is a part of what that one shows. -/
theorem Span.Within.view_eq {r s : Span} (h : s.Within r) :
    s.view = r.view.extract (s.start - r.start) r.length := by
  have hstart : r.start + (s.start - r.start) = s.start := Nat.add_sub_cancel' h.start_le
  have hstop : min (r.start + r.length) r.stop = s.stop := by
    have := r.start_le_stop
    rw [h.stop_eq, Span.length]
    omega
  rw [Span.view, Span.view, Content.extract_extract, hstart, hstop, h.source_eq]

/-- Two windows that lie equally deep in `r₁` and in `r₂`. -/
structure Span.SameDepth (r₁ r₂ s₁ s₂ : Span) : Prop where
  left : s₁.Within r₁
  right : s₂.Within r₂
  depth_eq : s₁.start - r₁.start = s₂.start - r₂.start

namespace Span.SameDepth

variable {r₁ r₂ s₁ s₂ t₁ t₂ : Span}

/-- Two windows are equally deep in themselves. -/
theorem refl (r₁ r₂ : Span) : SameDepth r₁ r₂ r₁ r₂ :=
  ⟨.refl r₁, .refl r₂, by rw [Nat.sub_self, Nat.sub_self]⟩

/-- Equal depths mean that the starts are as far apart as those of the given windows. -/
theorem start_eq (h : SameDepth r₁ r₂ s₁ s₂) :
    (s₂.start : Int) = s₁.start + (r₂.start - r₁.start) := by
  have := h.left.start_le
  have := h.right.start_le
  have := h.depth_eq
  omega

/-- Windows at the same depth in windows that show the same show the same. -/
theorem view_eq (h : SameDepth r₁ r₂ s₁ s₂) (hview : r₁.view = r₂.view) : s₁.view = s₂.view := by
  rw [h.left.view_eq, h.right.view_eq, hview, h.depth_eq, Span.length_eq_of_view_eq hview]

/-- Windows at the same depth remain so when as many tokens are dropped from both. -/
theorem drop (h : SameDepth r₁ r₂ s₁ s₂) (n : Nat) (hn₁ : n ≤ s₁.length) (hn₂ : n ≤ s₂.length) :
    SameDepth r₁ r₂ (s₁.drop n hn₁) (s₂.drop n hn₂) := by
  refine ⟨h.left.drop n hn₁, h.right.drop n hn₂, ?_⟩
  have := h.left.start_le
  have := h.right.start_le
  have := h.depth_eq
  simp only [Span.start_drop]
  omega

/-- Windows at the same depth start together on one side if they do on the other. -/
theorem start_eq_iff (hs : SameDepth r₁ r₂ s₁ s₂) (ht : SameDepth r₁ r₂ t₁ t₂) :
    t₁.start = s₁.start ↔ t₂.start = s₂.start := by
  have := hs.start_eq
  have := ht.start_eq
  omega

end Span.SameDepth

/-! ## Translated failures, notices and outcomes -/

/-- The failure with its position moved. -/
def Failure.translate (δ : Int) (f : Failure) : Failure :=
  { f with position := f.position.map (· + δ) }

/-- Notices that agree but for the position, which is moved. -/
inductive Notice.Translated (δ : Int) : Notice → Notice → Prop where
  | stalled (description : Option String) {p q : Nat} (h : (q : Int) = p + δ) :
    Translated δ (.stalled description p) (.stalled description q)
  | capped (description : Option String) (count : Nat) :
    Translated δ (.capped description count) (.capped description count)

/-- `s` lies on `source` and its ends are those of `r`, moved. -/
structure Span.Translated (δ : Int) (source : Source) (r s : Span) : Prop where
  source_eq : s.source = source
  start_eq : (s.start : Int) = r.start + δ
  stop_eq : (s.stop : Int) = r.stop + δ

/-- Outcomes that agree but for their place, which is moved. -/
inductive Outcome.Translated (δ : Int) (source : Source) : Outcome → Outcome → Prop where
  | value (v : Datum) {r s : Span} (h : r.Translated δ source s) :
    Translated δ source (.value v r) (.value v s)
  | empty {r s : Span} (h : r.Translated δ source s) : Translated δ source (.empty r) (.empty s)
  | failure (f : Failure) : Translated δ source (.failure f) (.failure (f.translate δ))

/-- Only one failure is a failure moved by a distance. -/
theorem Outcome.Translated.failure_unique {δ : Int} {source : Source} {o : Outcome} {f f' : Failure}
    (h : o.Translated δ source (.failure f)) (h' : o.Translated δ source (.failure f')) :
    f = f' := by
  generalize hp : Outcome.failure f = p at h
  generalize hp' : Outcome.failure f' = p' at h'
  cases h with
  | failure f₀ =>
    cases h' with
    | failure _ => exact (Outcome.failure.inj hp).trans (Outcome.failure.inj hp').symm
  | value _ _ => cases hp
  | empty _ => cases hp

/-! Two things that come from one by moving it are apart by the difference of the moves. -/

section Difference

variable {δ δ₁ δ₂ : Int} (hδ : δ₂ = δ₁ + δ) {source₁ source₂ : Source}
include hδ

/-- The windows that come from one. -/
theorem Span.Translated.difference {r s₁ s₂ : Span} (h₁ : r.Translated δ₁ source₁ s₁)
    (h₂ : r.Translated δ₂ source₂ s₂) : s₁.Translated δ source₂ s₂ where
  source_eq := h₂.source_eq
  start_eq := by
    have := h₁.start_eq
    have := h₂.start_eq
    omega
  stop_eq := by
    have := h₁.stop_eq
    have := h₂.stop_eq
    omega

/-- Moving a failure in two steps is moving it once. -/
theorem Failure.translate_difference (f : Failure) :
    (f.translate δ₁).translate δ = f.translate δ₂ := by
  cases h : f.position with
  | none => simp only [translate, h, Option.map_none]
  | some p => simp only [translate, h, Option.map_some, hδ, Int.add_assoc]

/-- The outcomes that come from one. -/
theorem Outcome.Translated.difference {o o₁ o₂ : Outcome} (h₁ : o.Translated δ₁ source₁ o₁)
    (h₂ : o.Translated δ₂ source₂ o₂) : o₁.Translated δ source₂ o₂ := by
  cases h₁ with
  | value v h₁ =>
    cases h₂ with
    | value _ h₂ => exact .value v (h₁.difference hδ h₂)
  | empty h₁ =>
    cases h₂ with
    | empty h₂ => exact .empty (h₁.difference hδ h₂)
  | failure f =>
    cases h₂ with
    | failure _ =>
      rw [← f.translate_difference hδ]
      exact .failure (f.translate δ₁)

/-- The notes that come from one. -/
theorem Notice.Translated.difference {n n₁ n₂ : Notice} (h₁ : n.Translated δ₁ n₁)
    (h₂ : n.Translated δ₂ n₂) : n₁.Translated δ n₂ := by
  cases h₁ with
  | stalled description h₁ =>
    cases h₂ with
    | stalled _ h₂ => exact .stalled description (by omega)
  | capped description count =>
    cases h₂ with
    | capped _ _ => exact .capped description count

/-- The notes of two parses that both come from those of a third one. -/
theorem Notice.forall₂_difference {ns ns₁ ns₂ : List Notice}
    (h₁ : List.Forall₂ (Notice.Translated δ₁) ns ns₁)
    (h₂ : List.Forall₂ (Notice.Translated δ₂) ns ns₂) :
    List.Forall₂ (Notice.Translated δ) ns₁ ns₂ := by
  induction h₁ generalizing ns₂ with
  | nil =>
    cases h₂ with
    | nil => exact .nil
  | cons hn _ ih =>
    cases h₂ with
    | cons hn' hns' => exact .cons (hn.difference hδ hn') (ih hns')

end Difference

/-! ## Failures that a grammar was given -/

/-- Outcome `i` over a window is the failure `f` that a parser inside the grammar was given to fail
with: whatever the failures are exchanged for, it is the one that takes the place of `f`. -/
def Grammar.GivenAt (g : Grammar) (names : Names) (cap : Int) (depth : Nat) (r : Span) (i : Nat)
    (f : Failure) : Prop :=
  ∀ swap : Failure → Failure,
    ∃ x, ((g.parserGiven swap names cap depth).parse r).result = .ok x ∧
      x.toList[i]? = some (.failure (swap f))

namespace Failure

/-- The failure with a mark.  The engine reports failures at positions of a window, which are
natural numbers, so that a negative position gives away a failure that does not come from there. -/
def mark (f : Failure) : Failure :=
  { f with position := some (.negSucc (Encodable.encode f.position)) }

/-- The failure before it was marked, if it was. -/
def unmark? (f : Failure) : Option Failure :=
  match f.position with
  | some (.negSucc code) => (Encodable.decode code).map fun position => { f with position }
  | _ => none

/-- A mark tells which failure was marked. -/
theorem unmark?_mark (f : Failure) : f.mark.unmark? = some f := by
  simp only [mark, unmark?, Encodable.encodek, Option.map_some]

end Failure

/-- The failure that an outcome was before it was marked, if it was. -/
def Outcome.unmark? : Outcome → Option Failure
  | .failure f => f.unmark?
  | _ => none

namespace Correspondence

/-! ## The correspondence -/

section Translation

variable {r₁ r₂ s₁ s₂ : Span}

/-- A window at the same depth has been moved by the distance of the given windows. -/
theorem translated_of_sameDepth (hview : r₁.view = r₂.view) (h : Span.SameDepth r₁ r₂ s₁ s₂) :
    s₁.Translated (r₂.start - r₁.start) r₂.source s₂ := by
  have hstop : (r₂.stop : Int) = r₁.stop + (r₂.start - r₁.start) := by
    have hlength : r₁.stop - r₁.start = r₂.stop - r₂.start := Span.length_eq_of_view_eq hview
    have := r₁.start_le_stop
    have := r₂.start_le_stop
    omega
  -- both windows end where the given ones do
  exact ⟨h.right.source_eq, h.start_eq, h.left.stop_eq ▸ h.right.stop_eq ▸ hstop⟩

/-- A failure where a window starts, seen from the window at the same depth. -/
theorem translate_of_sameDepth (h : Span.SameDepth r₁ r₂ s₁ s₂) (reason : Reason)
    (message : String) :
    (⟨reason, message, some s₂.start⟩ : Failure)
      = Failure.translate (r₂.start - r₁.start) ⟨reason, message, some s₁.start⟩ := by
  rw [Failure.translate, h.start_eq]
  rfl

/-- A note about where a window starts, seen from the window at the same depth. -/
theorem stalled_of_sameDepth (h : Span.SameDepth r₁ r₂ s₁ s₂) (description : Option String) :
    Notice.Translated (r₂.start - r₁.start) (.stalled description s₁.start)
      (.stalled description s₂.start) :=
  .stalled description h.start_eq

end Translation

/-- Two windows correspond that lie equally deep in `r₁` and in `r₂`, which show the same.  In the
first parse the given failures are marked, in the second one they are exchanged. -/
def translation (r₁ r₂ : Span) (hview : r₁.view = r₂.view) (given : Failure → Prop)
    (swap : Failure → Failure) : Correspondence where
  window := Span.SameDepth r₁ r₂
  failure f g :=
    f.unmark?.elim (g = f.translate (r₂.start - r₁.start)) fun f₀ => given f₀ ∧ g = swap f₀
  notice := Notice.Translated (r₂.start - r₁.start)
  halt := Eq
  excuses _ := False
  view_eq h := h.view_eq hview
  window_drop h := h.drop
  start_eq_iff := Span.SameDepth.start_eq_iff
  failure_at := translate_of_sameDepth
  stalled_at := stalled_of_sameDepth
  halt_reflexive := Halt.reflexive_eq
  halt_enclosed := congrArg Halt.enclosed
  excuses_enclosed := id

variable {r₁ r₂ : Span} {hview : r₁.view = r₂.view} {given : Failure → Prop}
  {swap : Failure → Failure}

/-- An outcome with a mark is exchanged. -/
theorem given_of_outcomeRel {o₁ o₂ : Outcome} {f : Failure}
    (h : (translation r₁ r₂ hview given swap).OutcomeRel o₁ o₂) (hf : o₁.unmark? = some f) :
    given f ∧ o₂ = .failure (swap f) := by
  cases h with
  | value v h => cases hf
  | empty h => cases hf
  | @failure f₁ f₂ h =>
    replace hf : f₁.unmark? = some f := hf
    simp only [translation, hf, Option.elim] at h
    exact ⟨h.1, congrArg Outcome.failure h.2⟩

/-- An outcome without a mark is moved. -/
theorem translated_of_outcomeRel {o₁ o₂ : Outcome}
    (h : (translation r₁ r₂ hview given swap).OutcomeRel o₁ o₂) (hf : o₁.unmark? = none) :
    o₁.Translated (r₂.start - r₁.start) r₂.source o₂ := by
  cases h with
  | value v h => exact .value v (translated_of_sameDepth hview h)
  | empty h => exact .empty (translated_of_sameDepth hview h)
  | @failure f₁ f₂ h =>
    replace hf : f₁.unmark? = none := hf
    simp only [translation, hf, Option.elim] at h
    rw [h]
    exact .failure f₁

end Correspondence

/-! ## Translated parses -/

namespace Grammar

variable (g : Grammar) (names : Names) (cap : Int) (depth : Nat)

open Correspondence

/-- The marked parse over a window corresponds to every parse over a window that shows the same. -/
theorem parserRel_translation {r₁ r₂ : Span} (hview : r₁.view = r₂.view)
    (swap : Failure → Failure) :
    (translation r₁ r₂ hview (g.Gives names) swap).ParserRel
      (g.parserGiven Failure.mark names cap depth) (g.parserGiven swap names cap depth) := by
  refine parserRel_parserGiven rfl depth ?_ g ⟨?_, fun _ => rfl⟩
  · intro _ _ _ hp
    exact hp.freeRel fun description count => Notice.Translated.capped description count
  · intro f hf
    simp only [translation, Failure.unmark?_mark, Option.elim]
    exact ⟨hf, trivial⟩

/-- Two parses of which the first one is marked end alike. -/
theorem ends_of_translation {r₁ r₂ : Span} (hview : r₁.view = r₂.view)
    (swap : Failure → Failure) :
    let marked := (g.parserGiven Failure.mark names cap depth).parse r₁
    let run := (g.parserGiven swap names cap depth).parse r₂
    (translation r₁ r₂ hview (g.Gives names) swap).EndRel
        (translation r₁ r₂ hview (g.Gives names) swap).ResultsRel marked.result run.result ∧
      List.Forall₂ (Notice.Translated (r₂.start - r₁.start)) marked.log run.log := by
  intro marked run
  rcases (g.parserRel_translation names cap depth hview swap).parse (.refl r₁ r₂) with
    ⟨_, _, hno⟩ | hends
  · exact hno.elim
  · exact hends

section Marked

variable {g names cap depth} {r₁ r₂ : Span} (hview : r₁.view = r₂.view) {x : Results}
  (hx : ((g.parserGiven Failure.mark names cap depth).parse r₁).result = .ok x)
  {i : Nat} {o : Outcome} (hi : x.toList[i]? = some o)
include hview hx hi

/-- As the marked parse gives an outcome, so do all others. -/
theorem exists_outcome_of_marked (swap : Failure → Failure) :
    ∃ y p, ((g.parserGiven swap names cap depth).parse r₂).result = .ok y ∧
      y.toList[i]? = some p ∧ (translation r₁ r₂ hview (g.Gives names) swap).OutcomeRel o p := by
  have hend := (g.ends_of_translation names cap depth hview swap).1
  rw [hx] at hend
  generalize hy : ((g.parserGiven swap names cap depth).parse r₂).result = y at hend
  cases hend with
  | @ok _ y hxy =>
    have hrel := ResultsRel.getElem?_rel hxy i
    rw [hi] at hrel
    generalize hp : y.toList[i]? = p at hrel
    cases hrel with
    | some hop => exact ⟨y, _, rfl, hp, hop⟩

/-- A mark shows that an outcome was given. -/
theorem givenAt_of_marked {f : Failure} (hf : o.unmark? = some f) :
    g.GivenAt names cap depth r₂ i f := by
  intro swap
  obtain ⟨y, p, hy, hp, hop⟩ := exists_outcome_of_marked hview hx hi swap
  obtain ⟨-, rfl⟩ := given_of_outcomeRel hop hf
  exact ⟨y, hy, hp⟩

/-- An outcome without a mark was not given, as it does not follow the exchange of failures. -/
theorem not_givenAt_of_marked (hf : o.unmark? = none) (f : Failure) :
    ¬ g.GivenAt names cap depth r₂ i f := by
  intro hgiven
  have hmoved : ∀ f' : Failure, o.Translated (r₂.start - r₁.start) r₂.source (.failure f') := by
    intro f'
    obtain ⟨y, hy, hyi⟩ := hgiven fun _ => f'
    obtain ⟨z, p, hz, hp, hop⟩ := exists_outcome_of_marked hview hx hi fun _ => f'
    obtain rfl : y = z := Except.ok.inj (hy.symm.trans hz)
    obtain rfl : .failure f' = p := Option.some.inj (hyi.symm.trans hp)
    exact translated_of_outcomeRel hop hf
  -- the outcome would be moved to two failures that differ
  have heq : Failure.zero = Failure.missingItem 0 := (hmoved _).failure_unique (hmoved _)
  nomatch congrArg Failure.reason heq

/-- What an outcome of the marked parse tells about the same outcome over both windows. -/
theorem given_or_translated_of_marked {o₁ o₂ : Outcome}
    (h₁ : (translation r₁ r₁ rfl (g.Gives names) id).OutcomeRel o o₁)
    (h₂ : (translation r₁ r₂ hview (g.Gives names) id).OutcomeRel o o₂) :
    (∃ f, g.Gives names f ∧ o₁ = .failure f ∧ o₂ = .failure f ∧
      g.GivenAt names cap depth r₁ i f ∧ g.GivenAt names cap depth r₂ i f) ∨
    o₁.Translated (r₂.start - r₁.start) r₂.source o₂ ∧
      ∀ f, ¬ g.GivenAt names cap depth r₁ i f ∧ ¬ g.GivenAt names cap depth r₂ i f := by
  cases hf : o.unmark? with
  | some f =>
    obtain ⟨hgives, rfl⟩ := given_of_outcomeRel h₁ hf
    obtain ⟨-, rfl⟩ := given_of_outcomeRel h₂ hf
    exact Or.inl ⟨f, hgives, rfl, rfl, givenAt_of_marked rfl hx hi hf,
      givenAt_of_marked hview hx hi hf⟩
  | none =>
    have hmoved₁ := translated_of_outcomeRel h₁ hf
    have hmoved₂ := translated_of_outcomeRel h₂ hf
    refine Or.inr ⟨hmoved₁.difference (by omega) hmoved₂, fun f => ⟨?_, ?_⟩⟩
    · exact not_givenAt_of_marked rfl hx hi hf f
    · exact not_givenAt_of_marked hview hx hi hf f

end Marked

/-- **Translation.**  Over windows on sources of one kind with the same tokens in view, a grammar
halts in the same way, or gives as many outcomes.  A failure that the grammar was given is the same
over both windows; every other outcome is moved by the distance between their starts, and so are the
notes. -/
theorem parse_translate {r₁ r₂ : Span} (h : r₁.contents = r₂.contents) :
    let δ : Int := r₂.start - r₁.start
    let run₁ := (g.parserIn names cap depth).parse r₁
    let run₂ := (g.parserIn names cap depth).parse r₂
    ((∃ e, run₁.result = .error e ∧ run₂.result = .error e) ∨
      ∃ x₁ x₂, run₁.result = .ok x₁ ∧ run₂.result = .ok x₂ ∧
        x₁.toList.length = x₂.toList.length ∧
        ∀ i o₁ o₂, x₁.toList[i]? = some o₁ → x₂.toList[i]? = some o₂ →
          (∃ f, g.Gives names f ∧ o₁ = .failure f ∧ o₂ = .failure f ∧
            g.GivenAt names cap depth r₁ i f ∧ g.GivenAt names cap depth r₂ i f) ∨
          o₁.Translated δ r₂.source o₂ ∧
            ∀ f, ¬ g.GivenAt names cap depth r₁ i f ∧ ¬ g.GivenAt names cap depth r₂ i f) ∧
    List.Forall₂ (Notice.Translated δ) run₁.log run₂.log := by
  intro δ run₁ run₂
  have hview : r₁.view = r₂.view := Span.view_eq_of_contents_eq h
  -- both parses are compared with the one over the first window whose given failures are marked
  have hδ : δ = ((r₁.start : Int) - r₁.start) + δ := by omega
  have hrun : ∀ r : Span, (g.parserGiven id names cap depth).parse r =
      (g.parserIn names cap depth).parse r := fun r => by rw [parserGiven_id]
  obtain ⟨hend₁, hlog₁⟩ := g.ends_of_translation names cap depth (rfl : r₁.view = r₁.view) id
  obtain ⟨hend₂, hlog₂⟩ := g.ends_of_translation names cap depth hview id
  rw [hrun] at hend₁ hend₂ hlog₁ hlog₂
  refine ⟨?_, Notice.forall₂_difference hδ hlog₁ hlog₂⟩
  generalize hx : ((g.parserGiven Failure.mark names cap depth).parse r₁).result = x at hend₁ hend₂
  generalize hx₁ : run₁.result = x₁ at hend₁
  generalize hx₂ : run₂.result = x₂ at hend₂
  cases hend₁ with
  | error he₁ =>
    cases hend₂ with
    | error he₂ => exact Or.inl ⟨_, rfl, congrArg Except.error (he₂.symm.trans he₁)⟩
  | @ok x x₁ hrel₁ =>
    cases hend₂ with
    | @ok _ x₂ hrel₂ =>
      refine Or.inr ⟨x₁, x₂, rfl, rfl, hrel₁.length_eq.symm.trans hrel₂.length_eq, ?_⟩
      intro i o₁ o₂ ho₁ ho₂
      have hout₁ := ResultsRel.getElem?_rel hrel₁ i
      have hout₂ := ResultsRel.getElem?_rel hrel₂ i
      rw [ho₁] at hout₁
      rw [ho₂] at hout₂
      generalize ho : x.toList[i]? = o at hout₁ hout₂
      cases hout₁ with
      | some hout₁ =>
        cases hout₂ with
        | some hout₂ => exact given_or_translated_of_marked hview hx ho hout₁ hout₂

/-- The case of the end of one text and the start of another one, where a failure is given for a
position at which the second parse comes to the end of its window as well. -/
theorem parse_translate_items :
    let r₁ : Span :=
      { source := .ofText "xbab".toList, start := 1, stop := 4, start_le_stop := by decide,
        stop_le_size := by decide }
    let r₂ : Span :=
      { source := .ofText "baby".toList, start := 0, stop := 3, start_le_stop := by decide,
        stop_le_size := by decide }
    let names : Names := fun _ => some .item
    let given : Failure := { Failure.zero with position := some 3 }
    let g : Grammar := (Grammar.zeroOrMore .item none).bind fun v =>
      if v.same (Datum.char 'a') then .zero given else .reference "item" none
    let δ : Int := r₂.start - r₁.start
    let run₁ := (g.parserIn names 3 1).parse r₁
    let run₂ := (g.parserIn names 3 1).parse r₂
    r₁.contents = r₂.contents ∧
      ((∃ e, run₁.result = .error e ∧ run₂.result = .error e) ∨
        ∃ x₁ x₂, run₁.result = .ok x₁ ∧ run₂.result = .ok x₂ ∧
          x₁.toList.length = x₂.toList.length ∧
          ∀ i o₁ o₂, x₁.toList[i]? = some o₁ → x₂.toList[i]? = some o₂ →
            (∃ f, g.Gives names f ∧ o₁ = .failure f ∧ o₂ = .failure f ∧
              g.GivenAt names 3 1 r₁ i f ∧ g.GivenAt names 3 1 r₂ i f) ∨
            o₁.Translated δ r₂.source o₂ ∧
              ∀ f, ¬ g.GivenAt names 3 1 r₁ i f ∧ ¬ g.GivenAt names 3 1 r₂ i f) ∧
      List.Forall₂ (Notice.Translated δ) run₁.log run₂.log := by
  intro r₁ r₂ names given g δ run₁ run₂
  have hcontents₁ : r₁.contents = .text ['b', 'a', 'b'] := rfl
  have hcontents₂ : r₂.contents = .text ['b', 'a', 'b'] := rfl
  have hcontents : r₁.contents = r₂.contents := hcontents₁.trans hcontents₂.symm
  exact ⟨hcontents, parse_translate g names 3 1 hcontents⟩

end Grammar

end TokenGrammar
