/-
# Corresponding runs

Two parses can be compared step by step: they look at corresponding windows, produce the same values
and give corresponding failures.  A correspondence says when windows, failures, notices and halts of
the one belong to those of the other, and asks no more of windows than that they show the same
tokens and move alike.  Whatever the engine does to outcomes and runs then keeps the correspondence.
-/
import Mathlib.Data.List.Forall2
import TokenGrammar.Parser.Basic
import TokenGrammar.Proofs.Window

namespace TokenGrammar

/-- A relation that takes the halts which come from values and from tokens to themselves. -/
structure Halt.Reflexive (R : Halt → Halt → Prop) : Prop where
  fault : ∀ cause, R (.fault cause) (.fault cause)
  unreadable : ∀ kind, R (.unreadable kind) (.unreadable kind)

/-- Equality takes every halt to itself. -/
theorem Halt.reflexive_eq : Halt.Reflexive Eq :=
  ⟨fun _ => rfl, fun _ => rfl⟩

/-- What corresponds in a first and a second parse. -/
structure Correspondence where
  window : Span → Span → Prop
  failure : Failure → Failure → Prop
  notice : Notice → Notice → Prop
  halt : Halt → Halt → Prop
  /-- The halts of the first parse that make up for anything in the second. -/
  excuses : Halt → Prop
  view_eq : ∀ {r s}, window r s → r.view = s.view
  window_drop : ∀ {r s}, window r s → ∀ n (hr : n ≤ r.length) (hs : n ≤ s.length),
    window (r.drop n hr) (s.drop n hs)
  start_eq_iff : ∀ {r s r' s'}, window r s → window r' s' →
    (r'.start = r.start ↔ s'.start = s.start)
  failure_at : ∀ {r s}, window r s → ∀ reason message,
    failure ⟨reason, message, some r.start⟩ ⟨reason, message, some s.start⟩
  stalled_at : ∀ {r s}, window r s → ∀ description,
    notice (.stalled description r.start) (.stalled description s.start)
  halt_reflexive : Halt.Reflexive halt
  /-- What corresponds inside an iteration corresponds outside of it. -/
  halt_enclosed : ∀ {e e'}, halt e e' → halt e.enclosed e'.enclosed
  excuses_enclosed : ∀ {e}, excuses e → excuses e.enclosed

namespace Correspondence

variable (S : Correspondence) {α β γ δ : Type}

/-! ## Runs -/

/-- Corresponding ends of two runs. -/
inductive EndRel (R : α → β → Prop) : Except Halt α → Except Halt β → Prop where
  | ok {a b} (h : R a b) : EndRel R (.ok a) (.ok b)
  | error {e e'} (h : S.halt e e') : EndRel R (.error e) (.error e')

/-- Corresponding runs, whose results are related by `R`. -/
def RunRel (R : α → β → Prop) (x : Run α) (y : Run β) : Prop :=
  (∃ e, x.result = .error e ∧ S.excuses e) ∨
    S.EndRel R x.result y.result ∧ List.Forall₂ S.notice x.log y.log

variable {S}

/-- Runs that do nothing but give corresponding results correspond. -/
theorem runRel_pure {R : α → β → Prop} {a : α} {b : β} (h : R a b) :
    S.RunRel R (pure a) (pure b) :=
  Or.inr ⟨.ok h, .nil⟩

/-- Runs that halt in corresponding ways correspond. -/
theorem runRel_halt {R : α → β → Prop} {e e' : Halt} (h : S.halt e e') :
    S.RunRel R (Run.halt e) (Run.halt e') :=
  Or.inr ⟨.error h, .nil⟩

/-- Runs that take corresponding notes correspond. -/
theorem runRel_note {n n' : Notice} (h : S.notice n n') :
    S.RunRel (fun _ _ => True) (Run.note n) (Run.note n') :=
  Or.inr ⟨.ok trivial, .cons h .nil⟩

/-- Corresponding runs that go on in corresponding ways. -/
theorem runRel_bind {Q : α → β → Prop} {R : γ → δ → Prop} {x : Run α} {y : Run β}
    {f : α → Run γ} {g : β → Run δ} (hx : S.RunRel Q x y)
    (hf : ∀ a b, Q a b → S.RunRel R (f a) (g b)) : S.RunRel R (x >>= f) (y >>= g) := by
  rcases hx with ⟨e, he, hexc⟩ | ⟨hend, hlog⟩
  -- an excused halt of the first run excuses whatever would follow
  · exact Or.inl ⟨e, by rw [Run.bind_of_error he], hexc⟩
  · cases hxr : x.result with
    | error e =>
      rw [hxr] at hend
      generalize hyr : y.result = e' at hend
      cases hend with
      | error h =>
        rw [Run.bind_of_error hxr, Run.bind_of_error hyr]
        exact Or.inr ⟨.error h, hlog⟩
    | ok a =>
      rw [hxr] at hend
      generalize hyr : y.result = b' at hend
      cases hend with
      | ok h =>
        rw [Run.bind_of_ok hxr, Run.bind_of_ok hyr]
        -- the notes of what follows come after those taken so far
        rcases hf _ _ h with ⟨e, he, hexc⟩ | ⟨hend', hlog'⟩
        · exact Or.inl ⟨e, he, hexc⟩
        · exact Or.inr ⟨hend', List.rel_append hlog hlog'⟩

/-- Corresponding runs inside an iteration are seen alike outside of it. -/
theorem RunRel.enclosed {R : α → β → Prop} {x : Run α} {y : Run β} (h : S.RunRel R x y) :
    S.RunRel R x.enclosed y.enclosed := by
  rcases h with ⟨e, he, hexc⟩ | ⟨hend, hlog⟩
  · exact Or.inl ⟨e.enclosed, Run.result_enclosed_of_error he, S.excuses_enclosed hexc⟩
  · refine Or.inr ⟨?_, hlog⟩
    rw [Run.enclosed, Run.enclosed]
    generalize x.result = u at hend ⊢
    generalize y.result = v at hend ⊢
    cases hend with
    | ok h => exact .ok h
    | error h => exact .error (S.halt_enclosed h)

/-- The same computation on values corresponds to itself. -/
theorem runRel_ofFault {R : α → α → Prop} (x : Except Fault α) (h : ∀ a, R a a) :
    S.RunRel R (Run.ofFault x) (Run.ofFault x) := by
  cases x with
  | ok a => exact runRel_pure (h a)
  | error cause => exact runRel_halt (S.halt_reflexive.fault cause)

/-! ## Windows -/

section Windows

variable {r s : Span} (h : S.window r s)
include h

/-- Corresponding windows are both empty or both not. -/
theorem isEmpty_eq : r.isEmpty = s.isEmpty :=
  Span.isEmpty_eq_of_view_eq (S.view_eq h)

/-- Corresponding windows are of one length. -/
theorem length_eq : r.length = s.length :=
  Span.length_eq_of_view_eq (S.view_eq h)

/-- Corresponding windows that are not empty have the same head. -/
theorem exists_head_eq (he : r.isEmpty = false) :
    ∃ t, r.head = .ok t ∧ s.head = .ok t := by
  obtain ⟨t, ht⟩ := Span.exists_head he
  exact ⟨t, ht, Span.head_eq_of_view_eq (S.view_eq h) he ▸ ht⟩

/-- Corresponding windows correspond after as many tokens in view. -/
theorem runRel_tail {n : Nat} (hn : n ≤ r.length) :
    S.RunRel S.window (Run.ofSpan (r.tail n)) (Run.ofSpan (s.tail n)) := by
  have hs : n ≤ s.length := length_eq h ▸ hn
  rw [Span.tail_ofNat r n hn, Span.tail_ofNat s n hs]
  exact runRel_pure (S.window_drop h n hn hs)

end Windows

/-! ## Outcomes -/

variable (S) in
/-- Corresponding outcomes have the same value. -/
inductive OutcomeRel : Outcome → Outcome → Prop where
  | value (v : Datum) {r s} (h : S.window r s) : OutcomeRel (.value v r) (.value v s)
  | empty {r s} (h : S.window r s) : OutcomeRel (.empty r) (.empty s)
  | failure {f g} (h : S.failure f g) : OutcomeRel (.failure f) (.failure g)

/-- Corresponding outcomes are both failures or both not. -/
theorem OutcomeRel.isFailure_eq {o p : Outcome} (h : S.OutcomeRel o p) :
    o.isFailure = p.isFailure := by
  cases h <;> rfl

/-- Corresponding outcomes carry the same value. -/
theorem OutcomeRel.value?_eq {o p : Outcome} (h : S.OutcomeRel o p) : o.value? = p.value? := by
  cases h <;> rfl

/-- Corresponding outcomes leave corresponding windows. -/
theorem OutcomeRel.rest? {o p : Outcome} (h : S.OutcomeRel o p) :
    Option.Rel S.window o.rest? p.rest? := by
  cases h with
  | value v h => exact .some h
  | empty h => exact .some h
  | failure _ => exact .none

/-- Corresponding outcomes may be moved to corresponding windows. -/
theorem OutcomeRel.moveTo {o p : Outcome} {r s : Span} (h : S.OutcomeRel o p)
    (hrs : S.window r s) : S.OutcomeRel (o.moveTo r) (p.moveTo s) := by
  cases h with
  | value v _ => exact .value v hrs
  | empty _ => exact .empty hrs
  | failure h => exact .failure h

/-! ## Results -/

variable (S) in
/-- Results that correspond outcome by outcome. -/
def ResultsRel (x y : Results) : Prop :=
  List.Forall₂ S.OutcomeRel x.toList y.toList

/-- Results of one outcome correspond if the outcomes do. -/
theorem resultsRel_single {o p : Outcome} (h : S.OutcomeRel o p) :
    S.ResultsRel (.single o) (.single p) :=
  .cons h .nil

/-- Results of one failure correspond if the failures do. -/
theorem resultsRel_fail {f g : Failure} (h : S.failure f g) :
    S.ResultsRel (.fail f) (.fail g) :=
  resultsRel_single (.failure h)

/-- The input left after the last success corresponds. -/
theorem lastRest?_rel {os ps : List Outcome} (h : List.Forall₂ S.OutcomeRel os ps) :
    Option.Rel S.window (Results.lastRest? os) (Results.lastRest? ps) := by
  induction h with
  | nil => exact .none
  | @cons o p os ps ho _ ih =>
    simp only [Results.lastRest?]
    generalize Results.lastRest? os = r at ih ⊢
    generalize Results.lastRest? ps = s at ih ⊢
    cases ih with
    | some hrest => exact .some hrest
    | none => exact ho.rest?

/-- Corresponding lists of outcomes carry the same values. -/
theorem filterMap_value?_eq {os ps : List Outcome} (h : List.Forall₂ S.OutcomeRel os ps) :
    os.filterMap Outcome.value? = ps.filterMap Outcome.value? := by
  induction h with
  | nil => rfl
  | cons ho _ ih => rw [List.filterMap_cons, List.filterMap_cons, ho.value?_eq, ih]

/-- Moving the last success to corresponding windows. -/
theorem moveLast_rel {r s : Span} (hrs : S.window r s) {os ps : List Outcome}
    (h : List.Forall₂ S.OutcomeRel os ps) :
    Option.Rel (List.Forall₂ S.OutcomeRel) (Results.moveLast r os) (Results.moveLast s ps) := by
  induction h with
  | nil => exact .none
  | @cons o p os ps ho hos ih =>
    simp only [Results.moveLast]
    generalize Results.moveLast r os = m at ih ⊢
    generalize Results.moveLast s ps = m' at ih ⊢
    cases ih with
    | some hmoved => exact .some (.cons ho hmoved)
    | none =>
      -- there is no success further on, so this outcome is the last chance
      simp only [ho.isFailure_eq]
      split
      · exact .none
      · exact .some (.cons (ho.moveTo hrs) hos)

namespace ResultsRel

variable {x y x' y' : Results} (h : S.ResultsRel x y)
include h

/-- The first outcomes of corresponding results correspond. -/
theorem head : S.OutcomeRel x.head y.head :=
  (List.forall₂_cons.1 h).1

/-- The outcomes after the first ones correspond. -/
theorem tail : List.Forall₂ S.OutcomeRel x.tail y.tail :=
  (List.forall₂_cons.1 h).2

/-- Corresponding results both succeed or both fail. -/
theorem isSuccess_eq : x.isSuccess = y.isSuccess := by
  rw [Results.isSuccess, Results.isSuccess, h.head.isFailure_eq]

/-- Every outcome corresponds to the one at the same place. -/
theorem getElem?_rel (i : Nat) : Option.Rel S.OutcomeRel x.toList[i]? y.toList[i]? := by
  rw [ResultsRel] at h
  generalize x.toList = os at h
  generalize y.toList = ps at h
  induction h generalizing i with
  | nil => exact .none
  | cons ho _ ih =>
    cases i with
    | zero => exact .some ho
    | succ i => exact ih i

/-- Corresponding results carry the same values. -/
theorem values_eq : x.values = y.values :=
  filterMap_value?_eq h

/-- Corresponding results leave corresponding windows. -/
theorem remaining : Option.Rel S.window x.remaining y.remaining :=
  lastRest?_rel h

/-- Corresponding successes leave corresponding windows. -/
theorem exists_remaining (hx : x.isSuccess = true) :
    ∃ r s, x.remaining = some r ∧ y.remaining = some s ∧ S.window r s := by
  obtain ⟨r, hr⟩ := Results.exists_remaining_of_success hx
  have hrel := h.remaining
  rw [hr] at hrel
  generalize hs : y.remaining = o at hrel
  cases hrel with
  | some hrs => exact ⟨r, _, hr, rfl, hrs⟩

/-- Corresponding results may be extended by corresponding outcomes. -/
theorem extend {os ps : List Outcome} (hos : List.Forall₂ S.OutcomeRel os ps) :
    S.ResultsRel (x.extend os) (y.extend ps) :=
  List.rel_append h hos

/-- Corresponding results may be put together. -/
theorem append (h' : S.ResultsRel x' y') : S.ResultsRel (x ++ x') (y ++ y') :=
  List.rel_append h h'

/-- Corresponding results may go on from corresponding windows. -/
theorem resume {r s : Span} (hrs : S.window r s) : S.ResultsRel (x.resume r) (y.resume s) := by
  rw [Results.resume, Results.resume]
  generalize hm : Results.moveLast r x.tail = m
  generalize hm' : Results.moveLast s y.tail = m'
  have hrel := moveLast_rel hrs h.tail
  rw [hm, hm'] at hrel
  -- the head is moved only if no outcome after it is a success
  cases hrel with
  | some hmoved => exact .cons h.head hmoved
  | none => exact .cons (h.head.moveTo hrs) h.tail

/-- Going on from corresponding results in corresponding ways. -/
theorem proceed {k l : Span → Run Results}
    (hkl : ∀ r s, S.window r s → S.RunRel S.ResultsRel (k r) (l s)) :
    S.RunRel S.ResultsRel (x.proceed k) (y.proceed l) := by
  cases hx : x.isSuccess with
  | false =>
    rw [Results.proceed_of_failure hx, Results.proceed_of_failure (h.isSuccess_eq ▸ hx)]
    exact runRel_pure h
  | true =>
    obtain ⟨r, s, hr, hs, hrs⟩ := h.exists_remaining hx
    rw [Results.proceed_of_success hx hr,
      Results.proceed_of_success (h.isSuccess_eq ▸ hx) hs]
    exact hkl r s hrs

end ResultsRel

/-! ## Changing every outcome -/

/-- The same function applied to the values of corresponding outcomes. -/
theorem runRel_outcomeMapM {o p : Outcome} (h : S.OutcomeRel o p)
    (f : Datum → Except Fault Datum) :
    S.RunRel S.OutcomeRel (o.mapM fun v => Run.ofFault (f v))
      (p.mapM fun v => Run.ofFault (f v)) := by
  cases h with
  | value v h =>
    refine runRel_bind (Q := Eq) (runRel_ofFault _ fun _ => rfl) ?_
    rintro w _ rfl
    exact runRel_pure (.value w h)
  | empty h => exact runRel_pure (.empty h)
  | failure h => exact runRel_pure (.failure h)

/-- The same function applied to the values of corresponding lists of outcomes. -/
theorem runRel_listMapM (f : Datum → Except Fault Datum) {os ps : List Outcome}
    (h : List.Forall₂ S.OutcomeRel os ps) :
    S.RunRel (List.Forall₂ S.OutcomeRel) (os.mapM (Outcome.mapM fun v => Run.ofFault (f v)))
      (ps.mapM (Outcome.mapM fun v => Run.ofFault (f v))) := by
  induction h with
  | nil => exact runRel_pure .nil
  | cons ho _ ih =>
    rw [List.mapM_cons, List.mapM_cons]
    refine runRel_bind (runRel_outcomeMapM ho f) fun _ _ ho' => ?_
    exact runRel_bind ih fun _ _ hos' => runRel_pure (.cons ho' hos')

/-- The same function applied to the values of corresponding results. -/
theorem ResultsRel.mapM {x y : Results} (h : S.ResultsRel x y)
    (f : Datum → Except Fault Datum) :
    S.RunRel S.ResultsRel (x.mapM fun v => Run.ofFault (f v))
      (y.mapM fun v => Run.ofFault (f v)) := by
  refine runRel_bind (runRel_outcomeMapM h.head f) fun _ _ hhead => ?_
  exact runRel_bind (runRel_listMapM f h.tail) fun _ _ htail => runRel_pure (.cons hhead htail)

/-- The same for the function of a user, which runs inside an iteration. -/
theorem ResultsRel.map {x y : Results} (h : S.ResultsRel x y) (f : Datum → Except Fault Datum) :
    S.RunRel S.ResultsRel (x.map f) (y.map f) :=
  h.mapM fun v => Fault.enclose (f v)

section Replacing

variable {f g : Outcome → Run Results}
  (hfg : ∀ o p, S.OutcomeRel o p → S.RunRel S.ResultsRel (f o) (g p))
include hfg

/-- Corresponding replacements of corresponding outcomes. -/
theorem runRel_replace {o p : Outcome} (h : S.OutcomeRel o p) :
    S.RunRel S.ResultsRel (Results.replace f o) (Results.replace g p) := by
  rw [Results.replace, Results.replace, h.isFailure_eq]
  split
  · exact runRel_pure (resultsRel_single h)
  · exact hfg o p h

/-- Corresponding replacements of all outcomes of corresponding lists. -/
theorem runRel_replaceAll {os ps : List Outcome} (h : List.Forall₂ S.OutcomeRel os ps) :
    S.RunRel (List.Forall₂ S.OutcomeRel) (Results.replaceAll f os)
      (Results.replaceAll g ps) := by
  induction h with
  | nil => exact runRel_pure .nil
  | cons ho _ ih =>
    refine runRel_bind (runRel_replace hfg ho) fun _ _ hxy => ?_
    exact runRel_bind ih fun _ _ hmore => runRel_pure (List.rel_append hxy hmore)

/-- Corresponding replacements of all outcomes of corresponding results. -/
theorem ResultsRel.bindM {x y : Results} (h : S.ResultsRel x y) :
    S.RunRel S.ResultsRel (x.bindM f) (y.bindM g) := by
  refine runRel_bind (runRel_replace hfg h.head) fun _ _ hhead => ?_
  exact runRel_bind (runRel_replaceAll hfg h.tail) fun _ _ hmore =>
    runRel_pure (hhead.extend hmore)

/-- The same for the continuation of a user, which runs inside an iteration. -/
theorem ResultsRel.bind {x y : Results} (h : S.ResultsRel x y) :
    S.RunRel S.ResultsRel (x.bind f) (y.bind g) :=
  h.bindM fun o p hop => (hfg o p hop).enclosed

end Replacing

/-! ## Correspondences of things with themselves -/

variable (S) in
/-- Nothing corresponds to anything but itself. -/
structure Diagonal : Prop where
  eq_of_window : ∀ {r s}, S.window r s → r = s
  eq_of_failure : ∀ {f g}, S.failure f g → f = g
  eq_of_notice : ∀ {n m}, S.notice n m → n = m
  eq_of_halt : ∀ {e e'}, S.halt e e' → e = e'

namespace Diagonal

variable (hS : S.Diagonal)
include hS

/-- Corresponding outcomes are equal. -/
theorem eq_of_outcomeRel {o p : Outcome} (h : S.OutcomeRel o p) : o = p := by
  cases h with
  | value v h => rw [hS.eq_of_window h]
  | empty h => rw [hS.eq_of_window h]
  | failure h => rw [hS.eq_of_failure h]

/-- Corresponding results are equal. -/
theorem eq_of_resultsRel {x y : Results} (h : S.ResultsRel x y) : x = y := by
  apply Results.toList_injective
  exact List.forall₂_eq_eq_eq ▸ h.imp fun _ _ => hS.eq_of_outcomeRel

/-- Corresponding runs are equal unless the first one is excused. -/
theorem eq_of_runRel {x y : Run Results} (h : S.RunRel S.ResultsRel x y) :
    (∃ e, x.result = .error e ∧ S.excuses e) ∨ x = y := by
  rcases h with hexc | ⟨hend, hlog⟩
  · exact Or.inl hexc
  · refine Or.inr (Run.ext_result_log ?_ ?_)
    · generalize x.result = u at hend ⊢
      generalize y.result = v at hend ⊢
      cases hend with
      | ok h => rw [hS.eq_of_resultsRel h]
      | error h => rw [hS.eq_of_halt h]
    · exact List.forall₂_eq_eq_eq ▸ hlog.imp fun _ _ => hS.eq_of_notice

end Diagonal

end Correspondence

end TokenGrammar
