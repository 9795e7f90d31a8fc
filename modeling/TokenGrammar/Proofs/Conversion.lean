/-
# Conversion of values

A function of values can be applied to the values of a repetition while it goes on, one by one, or
to all of them when it has ended.  Both ways give the same results or halt for the same reason, if
nothing but the function can halt the repetition and every success moves.  Converted values may then
be combined in the step that converts them.
-/
import TokenGrammar.Parser.Fold
import TokenGrammar.Proofs.Taking
import TokenGrammar.Proofs.Totality

namespace TokenGrammar

/-! ## Results of runs -/

namespace Run

variable {α β : Type}

/-- Runs with the same result that go on to the same result end with the same result. -/
theorem result_bind_congr {x y : Run α} {k l : α → Run β} (hxy : x.result = y.result)
    (hkl : ∀ a, x.result = .ok a → (k a).result = (l a).result) :
    (x >>= k).result = (y >>= l).result := by
  cases hx : x.result with
  | error e => rw [bind_of_error hx, bind_of_error (hxy ▸ hx)]
  | ok a => rw [bind_of_ok hx, bind_of_ok (hxy ▸ hx), hkl a hx]

/-- Computations that may fault can be joined before they are run. -/
theorem ofFault_bind (c : Except Fault α) (k : α → Except Fault β) :
    ofFault (c >>= k) = ofFault c >>= fun a => ofFault (k a) := by
  cases c <;> rfl

end Run

/-! ## Outcomes with converted values -/

section Outcomes

variable (f : Datum → Except Fault Datum) {o p : Outcome} {os ps : List Outcome} {x y : Results}

/-- An outcome with another value is of the same kind and leaves the same window. -/
theorem Outcome.isFailure_rest?_of_mapM (h : (o.mapM fun v => Run.ofFault (f v)).result = .ok p) :
    p.isFailure = o.isFailure ∧ p.rest? = o.rest? := by
  cases o with
  | value v rest =>
    obtain ⟨w, -, hp⟩ := Run.exists_of_bind_eq_ok h
    cases hp
    exact ⟨rfl, rfl⟩
  | empty rest | failure e =>
    cases h
    exact ⟨rfl, rfl⟩

/-- Converted outcomes leave the windows that the outcomes leave. -/
theorem Results.lastRest?_of_mapM
    (h : (os.mapM (Outcome.mapM fun v => Run.ofFault (f v))).result = .ok ps) :
    lastRest? ps = lastRest? os := by
  induction os generalizing ps with
  | nil =>
    cases h
    rfl
  | cons o os ih =>
    rw [List.mapM_cons] at h
    obtain ⟨p, hp, h⟩ := Run.exists_of_bind_eq_ok h
    obtain ⟨qs, hqs, h⟩ := Run.exists_of_bind_eq_ok h
    cases h
    obtain ⟨-, hrest⟩ := Outcome.isFailure_rest?_of_mapM f hp
    rw [lastRest?, lastRest?, ih hqs, hrest]

/-- Conversion keeps a success a success and leaves the same window. -/
theorem Results.isSuccess_remaining_of_map (h : (x.map f).result = .ok y) :
    y.isSuccess = x.isSuccess ∧ y.remaining = x.remaining := by
  obtain ⟨head, hhead, h⟩ := Run.exists_of_bind_eq_ok h
  obtain ⟨tail, htail, h⟩ := Run.exists_of_bind_eq_ok h
  cases h
  obtain ⟨hfailure, hrest⟩ := Outcome.isFailure_rest?_of_mapM _ hhead
  refine ⟨congrArg (!·) hfailure, ?_⟩
  rw [remaining, remaining, toList, toList, lastRest?, lastRest?, lastRest?_of_mapM _ htail, hrest]

/-- What goes on with the values alone goes on as well when the values are converted without their
outcomes. -/
theorem Outcome.mapM_bind {β : Type} (k : List Datum → Run β) (os : List Outcome) :
    (os.mapM (Outcome.mapM fun v => Run.ofFault (f v)) >>= fun ps => k (ps.filterMap value?))
      = Run.ofFault ((os.filterMap value?).mapM f) >>= k := by
  induction os generalizing k with
  | nil => rfl
  | cons o os ih =>
    rw [List.mapM_cons]
    cases o with
    | value v rest =>
      have hcons : (Outcome.value v rest :: os).filterMap value? = v :: os.filterMap value? := rfl
      have hih (w : Datum) := ih fun ds => k (w :: ds)
      rw [hcons, List.mapM_cons]
      simp only [Outcome.mapM, Run.ofFault_bind, Run.bind_assoc, Run.pure_bind]
      exact congrArg _ (funext hih)
    | empty rest | failure e =>
      simp only [Outcome.mapM, Run.bind_assoc, Run.pure_bind]
      exact ih k

/-- What goes on from the values of changed results goes on from changed values. -/
theorem Results.map_bind {β : Type} (k : List Datum → Run β) (x : Results) :
    (x.map f >>= fun y => k y.values)
      = Run.ofFault (x.values.mapM fun v => Fault.enclose (f v)) >>= k := by
  rw [values, ← Outcome.mapM_bind _ k x.toList, toList, List.mapM_cons, map, mapM]
  simp only [Run.bind_assoc, Run.pure_bind]
  rfl

/-- Results with more outcomes are converted first, and then the outcomes that were added. -/
theorem Results.map_extend (x : Results) (os : List Outcome) :
    (x.extend os).map f = x.map f >>= fun y =>
      os.mapM (Outcome.mapM fun v => Run.ofFault (Fault.enclose (f v))) >>= fun ps =>
        pure (y.extend ps) := by
  rw [map, map, mapM, mapM, extend, List.mapM_append]
  simp only [Run.bind_assoc, Run.pure_bind]
  rfl

/-- Changing the outcomes one by one changes the results. -/
theorem Results.map_toList (x : Results) :
    x.toList.mapM (Outcome.mapM fun v => Run.ofFault (Fault.enclose (f v)))
      = x.map f >>= fun y => pure y.toList := by
  rw [toList, List.mapM_cons, map, mapM]
  simp only [Run.bind_assoc, Run.pure_bind]
  rfl

end Outcomes

namespace Parser

variable {p : Parser} {top r s t : Span} {x : Results}

/-- A parser that nothing halts fails with a lone failure or succeeds. -/
theorem HaltsOnly.fails_or_succeeds (hp : p.HaltsOnly (fun _ => False) top) (hr : r.Within top) :
    (∃ e, p.Fails r e) ∨ ∃ x s, p.Succeeds r x s ∧ s.Within top := by
  rcases (hp r hr).ok_or_error with ⟨x, hx, hregular⟩ | ⟨_, _, h⟩
  · cases hsuc : x.isSuccess with
    | true =>
      obtain ⟨s, hs, hwithin⟩ := hregular.exists_remaining hsuc
      exact Or.inr ⟨x, s, ⟨hx, hsuc, hs⟩, hwithin⟩
    | false =>
      obtain ⟨head, tail⟩ := x
      obtain rfl : tail = [] := hregular.tail_eq_nil hsuc
      cases head with
      | failure e => exact Or.inl ⟨e, hx⟩
      | value v rest | empty rest => cases hsuc
  · exact h.elim

/-! ## Conversion inside and outside a repetition -/

section Repetition

variable (f : Datum → Except Fault Datum)

/-- A success goes on as before if its values can be converted. -/
theorem Succeeds.lift (hx : p.Succeeds r x s) {y : Results}
    (hy : (x.map f).result = .ok y) : (p.lift f).Succeeds r y s := by
  obtain ⟨hsuc, hrest⟩ := Results.isSuccess_remaining_of_map f hy
  exact ⟨(hx.result_lift f).trans hy, hsuc.trans hx.isSuccess, hrest.trans hx.remaining_eq⟩

variable (hp : p.HaltsOnly (fun _ => False) top)
  (hmoves : ∀ {s x t}, p.Succeeds s x t → t.start ≠ s.start)
include hp hmoves

/-- A loop whose values are converted one by one gives what the loop gives, converted at the end.
The induction is on the room, with one success of the loop in front in each step. -/
theorem HaltsOnly.result_again_lift {room : Nat} (hs : s.Within top) {y : List Outcome × Bool}
    (hy : (p.again room s).result = .ok y) :
    ((p.lift f).again room s).result
      = (y.1.mapM (Outcome.mapM fun v => Run.ofFault (Fault.enclose (f v))) >>= fun os =>
          pure (os, y.2)).result := by
  induction room generalizing s y with
  | zero =>
    cases hy
    rfl
  | succ room ih =>
    rcases hp.fails_or_succeeds hs with ⟨e, he⟩ | ⟨x, t, hx, ht⟩
    · rw [result_again_of_stays he.stays] at hy
      cases hy
      exact result_again_of_stays (he.lift f).stays room
    · rw [again_of_advances hx.result_eq hx.isSuccess hx.remaining_eq (hmoves hx)] at hy
      obtain ⟨_, -, hy⟩ := Run.exists_of_bind_eq_ok hy
      obtain ⟨z, hz, hy⟩ := Run.exists_of_bind_eq_ok hy
      cases hy
      rw [List.mapM_append, Results.map_toList]
      simp only [Run.bind_assoc, Run.pure_bind]
      cases hconv : (x.map f).result with
      | error e =>
        have hhalts := (hx.result_lift f).trans hconv
        rw [Parser.again, Run.bind_of_error hhalts, Run.bind_of_error hconv]
      | ok x' =>
        have hx' : (p.lift f).Succeeds s x' t := hx.lift f hconv
        rw [again_of_advances hx'.result_eq hx'.isSuccess hx'.remaining_eq (hmoves hx),
          Run.bind_of_ok hx'.result_eq, Run.bind_of_ok hconv]
        refine (Run.result_bind_congr (ih ht hz) fun _ _ => rfl).trans ?_
        simp only [Run.bind_assoc, Run.pure_bind]

/-- **A repetition may be converted as a whole.**  Converting the values of every application inside
a repetition and converting all values of the repetition give the same results or halt for the same
reason. -/
theorem HaltsOnly.result_oneOrMore_lift (hr : r.Within top) (cap : Int) :
    (((p.lift f).oneOrMore cap none).parse r).result
      = (((p.oneOrMore cap none).lift f).parse r).result := by
  rcases hp.fails_or_succeeds hr with ⟨e, he⟩ | ⟨x, s, hx, hs⟩
  · have hfails : (p.oneOrMore cap none).Fails r (.tooFew r.start) :=
      result_oneOrMore_of_failure he rfl cap none
    exact (result_oneOrMore_of_failure (he.lift f) rfl cap none).trans (hfails.lift f).symm
  · rcases (hp.again (cap.toNat - 1) hs).ok_or_error with ⟨y, hy, -⟩ | ⟨_, _, h⟩
    · have hmany : ((p.oneOrMore cap none).parse r).result = .ok (x.extend y.1) :=
        result_oneOrMore_of_again hx.result_eq hx.isSuccess hx.remaining_eq hy
      simp only [Parser.lift]
      rw [Run.bind_of_ok hmany, Results.map_extend]
      cases hconv : (x.map f).result with
      | error e =>
        have hhalts := (hx.result_lift f).trans hconv
        rw [Run.bind_of_error hconv]
        exact result_oneOrMore_of_error hhalts cap none
      | ok x' =>
        rw [Run.bind_of_ok hconv]
        have hx' : (p.lift f).Succeeds r x' s := hx.lift f hconv
        have hloop := result_oneOrMore_eq_again hx'.result_eq hx'.isSuccess hx'.remaining_eq cap
        refine hloop.trans ?_
        refine (Run.result_bind_congr (hp.result_again_lift f hmoves hs hy) fun _ _ => rfl).trans ?_
        simp only [Run.bind_assoc, Run.pure_bind]
    · exact h.elim

end Repetition

/-! ## Values that are combined -/

/-- What combines the values of a success may convert them first. -/
theorem Succeeds.result_fold_lift (hx : p.Succeeds r x s) (f : Datum → Except Fault Datum)
    (combine : List Datum → Except Fault Datum) :
    (((p.lift f).fold combine true).parse r).result
      = (Run.ofFault ((x.values.mapM fun v => Fault.enclose (f v)) >>= combine) >>= fun v =>
          pure (.single (.value v s))).result := by
  rw [Run.ofFault_bind, Run.bind_assoc, ← Results.map_bind f]
  refine Run.result_bind_congr (hx.result_lift f) fun y hy => ?_
  have hconv := (hx.result_lift f).symm.trans hy
  obtain ⟨hsuc, hrest⟩ := Results.isSuccess_remaining_of_map f hconv
  rw [Results.proceed_of_success (hsuc.trans hx.isSuccess) (hrest.trans hx.remaining_eq),
    Bool.not_true, Bool.and_false]
  rfl

end Parser

end TokenGrammar
