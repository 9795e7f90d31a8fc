/-
# Replaced outcomes

What becomes of results when every success is replaced by the outcomes that a continuation gives for
it.  These outcomes stand together in the place of the success, and a failure stays in its place.
Results come out whenever the continuation gives some for every success, and then replacing obeys
the laws of a monad over outcomes.
-/
import TokenGrammar.Proofs.BindLaws
import Mathlib.Data.List.Forall2

namespace TokenGrammar

/-! ## What takes the place of an outcome -/

/-- `part` takes the place of `o`: a failure itself, or what `f` gives for a success. -/
inductive Outcome.Replaced (f : Outcome → Run Results) : Outcome → List Outcome → Prop
  | success {o : Outcome} {y : Results} (ho : o.isFailure = false) (hy : (f o).result = .ok y) :
    Replaced f o y.toList
  | failure (e : Failure) : Replaced f (.failure e) [.failure e]

/-- The continuation gives results for every success.  It may take notes. -/
def GivesResults (f : Outcome → Run Results) : Prop :=
  ∀ o : Outcome, o.isFailure = false → ∃ y, (f o).result = .ok y

namespace GivesResults

variable {f : Outcome → Run Results} (hf : GivesResults f)
include hf

/-- Every outcome is replaced by something if the continuation does not halt. -/
theorem exists_replaced (o : Outcome) : ∃ part, o.Replaced f part := by
  cases ho : o.isFailure with
  | false =>
    obtain ⟨y, hy⟩ := hf o ho
    exact ⟨y.toList, .success ho hy⟩
  | true =>
    cases o with
    | failure e => exact ⟨[.failure e], .failure e⟩
    | value v rest | empty rest => cases ho

/-- Every outcome of a list has something that takes its place. -/
theorem exists_parts (os : List Outcome) :
    ∃ parts, List.Forall₂ (Outcome.Replaced f) os parts := by
  induction os with
  | nil => exact ⟨[], .nil⟩
  | cons o os ih =>
    obtain ⟨part, hpart⟩ := hf.exists_replaced o
    obtain ⟨parts, hparts⟩ := ih
    exact ⟨part :: parts, .cons hpart hparts⟩

/-- A continuation that gives results is the same inside an iteration. -/
theorem enclosed_eq {o : Outcome} (ho : o.isFailure = false) : (f o).enclosed = f o := by
  obtain ⟨y, hy⟩ := hf o ho
  refine Run.enclosed_eq_self fun h => ?_
  cases hy.symm.trans h

/-- Replacing one outcome is the same inside an iteration. -/
theorem replace_enclosed (o : Outcome) :
    Results.replace (fun p => (f p).enclosed) o = Results.replace f o := by
  rw [Results.replace, Results.replace]
  split
  · rfl
  · next ho => exact hf.enclosed_eq ((Bool.not_eq_true _).mp ho)

/-- **Binding is replacing.**  An iteration over the outcomes does not show in what a continuation
gives, so that all that is said of replacing outcomes holds of binding results. -/
theorem bind_eq_bindM (x : Results) : x.bind f = x.bindM f := by
  have hall (os : List Outcome) :
      Results.replaceAll (fun p => (f p).enclosed) os = Results.replaceAll f os := by
    induction os with
    | nil => rfl
    | cons o os ih => rw [Results.replaceAll, Results.replaceAll, hf.replace_enclosed, ih]
  rw [Results.bind, Results.bindM, Results.bindM, hf.replace_enclosed, hall]

end GivesResults

/-! ## The layout of replaced results -/

namespace Results

variable {f g : Outcome → Run Results} {o : Outcome} {os ps part before after : List Outcome}
  {x y : Results}

/-- What replaces an outcome is what the continuation gives. -/
theorem replaced_iff :
    o.Replaced f part ↔ ∃ y, (replace f o).result = .ok y ∧ y.toList = part := by
  constructor
  · intro h
    cases h with
    | success ho hy =>
      refine ⟨_, ?_, rfl⟩
      rw [replace, ho]
      exact hy
    | failure e => exact ⟨single (.failure e), rfl, rfl⟩
  · rintro ⟨y, hy, rfl⟩
    cases ho : o.isFailure with
    | false =>
      rw [replace, ho] at hy
      exact .success ho hy
    | true =>
      cases o with
      | failure e =>
        obtain rfl := Except.ok.inj hy
        exact .failure e
      | value v rest | empty rest => cases ho

/-- The outcomes of a list are replaced one by one, and what takes their places is joined. -/
theorem result_replaceAll_eq_ok_iff :
    (replaceAll f os).result = .ok ps
      ↔ ∃ parts, List.Forall₂ (Outcome.Replaced f) os parts ∧ ps = parts.flatten := by
  induction os generalizing ps with
  | nil =>
    constructor
    · intro h
      cases h
      exact ⟨[], .nil, rfl⟩
    · rintro ⟨parts, hparts, rfl⟩
      cases hparts
      rfl
  | cons o os ih =>
    rw [replaceAll]
    constructor
    · intro h
      obtain ⟨y, hy, h⟩ := Run.exists_of_bind_eq_ok h
      obtain ⟨more, hmore, h⟩ := Run.exists_of_bind_eq_ok h
      cases h
      obtain ⟨parts, hparts, rfl⟩ := ih.1 hmore
      exact ⟨y.toList :: parts, .cons (replaced_iff.2 ⟨y, hy, rfl⟩) hparts, rfl⟩
    · rintro ⟨_, hparts, rfl⟩
      cases hparts with
      | cons hpart hparts =>
        obtain ⟨y, hy, rfl⟩ := replaced_iff.1 hpart
        rw [Run.bind_of_ok hy, Run.bind_of_ok (ih.2 ⟨_, hparts, rfl⟩)]
        rfl

/-- Results can be replaced whenever all their successes can. -/
theorem exists_result_bindM (hf : GivesResults f) (x : Results) :
    ∃ y, (x.bindM f).result = .ok y := by
  obtain ⟨parts, hparts⟩ := hf.exists_parts x.toList
  have hall : (replaceAll f x.toList).result = .ok parts.flatten :=
    result_replaceAll_eq_ok_iff.2 ⟨parts, hparts, rfl⟩
  rw [replaceAll_toList] at hall
  obtain ⟨y, hy, -⟩ := Run.exists_of_bind_eq_ok hall
  exact ⟨y, hy⟩

/-- A failure stays between what takes the places of the outcomes before and after it. -/
theorem exists_around_failure {e : Failure} (hx : x.toList = before ++ .failure e :: after)
    (hy : (x.bindM f).result = .ok y) :
    ∃ front back, List.Forall₂ (Outcome.Replaced f) before front ∧
      List.Forall₂ (Outcome.Replaced f) after back ∧
      y.toList = front.flatten ++ .failure e :: back.flatten := by
  have hall : (replaceAll f x.toList).result = .ok y.toList := by
    rw [replaceAll_toList, Run.bind_of_ok hy]
    rfl
  rw [hx, replaceAll_append] at hall
  obtain ⟨os, hos, hall⟩ := Run.exists_of_bind_eq_ok hall
  obtain ⟨ps, hps, hall⟩ := Run.exists_of_bind_eq_ok hall
  obtain ⟨front, hfront, rfl⟩ := result_replaceAll_eq_ok_iff.1 hos
  obtain ⟨parts, hparts, rfl⟩ := result_replaceAll_eq_ok_iff.1 hps
  cases hparts with
  | @cons _ part _ back hpart hback =>
    cases hpart with
    | success ho _ => cases ho
    | failure => exact ⟨front, back, hfront, hback, (Except.ok.inj hall).symm⟩

/-! ## Laws -/

/-- Replacing twice comes to the same results as replacing once by what both continuations give. -/
theorem exists_result_bindM_bindM (hf : GivesResults f) (hg : GivesResults g) (x : Results) :
    ∃ z, (x.bindM f >>= fun y => y.bindM g).result = .ok z ∧
      (x.bindM fun o => f o >>= fun y => y.bindM g).result = .ok z := by
  rcases Run.eq_or_halt_of_result?_eq (result?_bindM_bindM f g x) with hboth | ⟨e, _, he, -⟩
  · exact hboth
  -- both ways cannot halt, for replacing twice goes from results to results
  · obtain ⟨y, hy⟩ := exists_result_bindM hf x
    obtain ⟨z, hz⟩ := exists_result_bindM hg y
    rw [Run.bind_of_ok hy] at he
    cases hz.symm.trans he

/-- **Results obey the laws of a monad.**  Let two continuations give results for every success.
Replacing one success alone is applying the continuation to it, and replacing every outcome by
itself changes nothing.  Replacing twice gives the same results as replacing once by what both
continuations give.  Joined results are replaced apart and joined again.  Every failure stays as it
is, behind what takes the places of the outcomes before it and in front of what takes the places of
those after it. -/
theorem bindM_monad_laws (x y : Results) (ho : o.isFailure = false) (hf : GivesResults f)
    (hg : GivesResults g) :
    (single o).bindM f = f o ∧
    x.bindM (fun p => pure (single p)) = (pure x : Run Results) ∧
    (∃ z, (x.bindM f >>= fun w => w.bindM g).result = .ok z ∧
      (x.bindM fun p => f p >>= fun w => w.bindM g).result = .ok z) ∧
    ∃ a b, (x.bindM f).result = .ok a ∧ (y.bindM f).result = .ok b ∧
      ((x ++ y).bindM f).result = .ok (a ++ b) ∧
      ∀ before e after, x.toList = before ++ .failure e :: after →
        ∃ front back, List.Forall₂ (Outcome.Replaced f) before front ∧
          List.Forall₂ (Outcome.Replaced f) after back ∧
          a.toList = front.flatten ++ .failure e :: back.flatten := by
  obtain ⟨a, ha⟩ := exists_result_bindM hf x
  obtain ⟨b, hb⟩ := exists_result_bindM hf y
  refine ⟨bindM_single f ho, bindM_pure x, exists_result_bindM_bindM hf hg x, a, b, ha, hb, ?_, ?_⟩
  · rw [bindM_append, Run.bind_of_ok ha, Run.bind_of_ok hb]
    rfl
  · intro before e after hx
    exact exists_around_failure hx ha

/-- The case of a failure between two successes, where one continuation takes notes and the other
one adds failures. -/
theorem bindM_monad_laws_letters :
    let r : Span := .whole (.ofText "ab".toList)
    let e : Failure := .missingItem 0
    let o : Outcome := .value (Datum.char 'a') r
    let x : Results := { head := o, tail := [.failure e, .empty r] }
    let y : Results := single (.empty r)
    let f : Outcome → Run Results := fun p => do
      Run.note (.stalled none 0)
      pure { head := p, tail := [.empty r] }
    let g : Outcome → Run Results := fun p => pure { head := p, tail := [.failure e] }
    o.isFailure = false ∧ GivesResults f ∧ GivesResults g ∧
    (single o).bindM f = f o ∧
    x.bindM (fun p => pure (single p)) = (pure x : Run Results) ∧
    (∃ z, (x.bindM f >>= fun w => w.bindM g).result = .ok z ∧
      (x.bindM fun p => f p >>= fun w => w.bindM g).result = .ok z) ∧
    ∃ a b, (x.bindM f).result = .ok a ∧ (y.bindM f).result = .ok b ∧
      ((x ++ y).bindM f).result = .ok (a ++ b) ∧
      ∃ front back, List.Forall₂ (Outcome.Replaced f) [o] front ∧
        List.Forall₂ (Outcome.Replaced f) [.empty r] back ∧
        a.toList = front.flatten ++ .failure e :: back.flatten := by
  intro r e o x y f g
  have hf : GivesResults f := fun _ _ => ⟨_, rfl⟩
  have hg : GivesResults g := fun _ _ => ⟨_, rfl⟩
  obtain ⟨hone, hself, htwice, a, b, ha, hb, hjoined, hplaces⟩ :=
    bindM_monad_laws x y (o := o) rfl hf hg
  exact ⟨rfl, hf, hg, hone, hself, htwice, a, b, ha, hb, hjoined, hplaces [o] e [.empty r] rfl⟩

end Results

end TokenGrammar
