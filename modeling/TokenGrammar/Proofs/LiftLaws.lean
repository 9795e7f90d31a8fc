/-
# Laws of lift

To apply a function to the values of a parser is to bind every value to the parser that produces
what the function gives for it.  The one changes values where they stand, the other joins what
replaces each outcome, and they come to the same results, notes and reasons to halt.  That makes the
laws of a functor a case of the laws of bind.  Lifting leaves everything but the values as it is.
-/
import TokenGrammar.Proofs.BindLaws
import TokenGrammar.Proofs.Conversion

namespace TokenGrammar

/-- A run of a computation ends with the value that is computed. -/
theorem Run.result_ofFault_eq_ok_iff {α : Type} {c : Except Fault α} {a : α} :
    (ofFault c).result = .ok a ↔ c = .ok a := by
  cases c with
  | ok b => exact ⟨fun h => congrArg _ (Except.ok.inj h), congrArg fun c => (ofFault c).result⟩
  | error cause => exact ⟨nofun, nofun⟩

/-! ## Changed values as replaced outcomes -/

namespace Results

variable {m : Type → Type} [Monad m] [LawfulMonad m] (f g : Datum → m Datum)

/-- An outcome alone, with its value changed if it has one. -/
def changed (o : Outcome) : m Results := do
  let p ← o.mapM f
  pure (single p)

/-- A failure stays in place whether or not values are changed. -/
theorem replace_changed (o : Outcome) : replace (changed f) o = changed f o := by
  cases o with
  | failure e => exact (pure_bind (Outcome.failure e) fun p => pure (single p)).symm
  | value v rest | empty rest => rfl

/-- Replacing outcomes by changed ones is changing them all. -/
theorem replaceAll_changed (os : List Outcome) :
    replaceAll (changed f) os = os.mapM (Outcome.mapM f) := by
  induction os with
  | nil => rfl
  | cons o os ih =>
    rw [replaceAll, replace_changed, ih, List.mapM_cons]
    simp only [changed, bind_assoc, pure_bind, toList_single, List.singleton_append]

/-- Changing the values is replacing every outcome by itself with its value changed. -/
theorem mapM_eq_bindM (x : Results) : x.mapM f = x.bindM (changed f) := by
  rw [mapM, bindM, replace_changed, replaceAll_changed]
  simp only [changed, bind_assoc, pure_bind]
  rfl

/-- Changing no values gives back every outcome. -/
theorem changed_pure : changed pure = fun o => (pure (single o) : m Results) := by
  funext o
  cases o with
  | value v rest | empty rest | failure e => simp only [changed, Outcome.mapM, pure_bind]

/-- Values that are put in their own place change nothing. -/
theorem mapM_pure (x : Results) : x.mapM pure = (pure x : m Results) := by
  rw [mapM_eq_bindM, changed_pure, bindM_pure]

/-- One outcome changed twice. -/
theorem changed_bindM (o : Outcome) :
    (changed f o >>= fun y => y.bindM (changed g)) = changed (fun v => f v >>= g) o := by
  have hsingle (p : Outcome) : (single p).bindM (changed g) = changed g p := by
    cases hp : p.isFailure with
    | false => exact bindM_single (changed g) hp
    | true =>
      rw [bindM_failure (changed g) hp, ← replace_changed, replace, hp]
      rfl
  simp only [changed, bind_assoc, pure_bind, hsingle]
  cases o with
  | value v rest => simp only [Outcome.mapM, bind_assoc, pure_bind]
  | empty rest | failure e => simp only [Outcome.mapM, pure_bind]

variable {f g}

/-- Values may be changed once by both functions, if it does not matter that the first function is
applied to all values before the second one is applied to any. -/
theorem mapM_mapM (hm : Interchangeable m) (x : Results) :
    (x.mapM f >>= fun y => y.mapM g) = x.mapM fun v => f v >>= g := by
  simp only [mapM_eq_bindM, bindM_bindM hm, changed_bindM]

/-- In one iteration, too, changing the values is replacing outcomes. -/
theorem map_eq_bind (x : Results) (f : Datum → Except Fault Datum) :
    x.map f = x.bind (changed fun v => Run.ofFault (f v)) := by
  rw [map, mapM_eq_bindM, bind]
  congr 1
  funext o
  cases o with
  | value v rest => cases hv : f v <;> simp only [changed, Outcome.mapM, hv] <;> rfl
  | empty rest | failure e => rfl

/-- A function that changes nothing changes no results. -/
theorem map_ok (x : Results) : x.map .ok = pure x :=
  mapM_pure x

/-- Whether values can be changed depends on the results of the function alone. -/
theorem result?_mapM (f : Datum → Run Datum) (x : Results) :
    (x.mapM f).result? = x.mapM fun v => (f v).result? := by
  rw [mapM_eq_bindM, mapM_eq_bindM, result?_bindM]
  congr 1
  funext o
  cases o with
  | value v rest =>
    simp only [changed, Outcome.mapM, Run.result?_bind, Run.result?_pure]
    rfl
  | empty rest | failure e => rfl

/-- The results of changing values, without the ways of halting. -/
theorem result?_map (x : Results) (f : Datum → Except Fault Datum) :
    (x.map f).result? = x.mapM fun v => (Run.ofFault (f v)).result? := by
  simp only [map, result?_mapM, ← Run.enclosed_ofFault, Run.result?_enclosed]

end Results

/-! ## What changed outcomes keep -/

/-- `p` is `o` with its value, if it has one, replaced by what `f` gives for it. -/
inductive Outcome.Lifted (f : Datum → Except Fault Datum) : Outcome → Outcome → Prop
  | value {v w : Datum} (hvalue : f v = .ok w) (rest : Span) :
    Lifted f (.value v rest) (.value w rest)
  | empty (rest : Span) : Lifted f (.empty rest) (.empty rest)
  | failure (e : Failure) : Lifted f (.failure e) (.failure e)

section Lifted

variable {f : Datum → Except Fault Datum} {o p : Outcome} {os ps : List Outcome} {x y : Results}

/-- Changing the value of an outcome succeeds exactly if the function does. -/
theorem Outcome.mapM_eq_ok_iff :
    (o.mapM fun v => Run.ofFault (Fault.enclose (f v))).result = .ok p ↔ o.Lifted f p := by
  constructor
  · intro h
    cases o with
    | value v rest =>
      obtain ⟨w, hw, hp⟩ := Run.exists_of_bind_eq_ok h
      cases hp
      exact .value (Fault.enclose_eq_ok_iff.1 (Run.result_ofFault_eq_ok_iff.1 hw)) rest
    | empty rest | failure e =>
      cases h
      constructor
  · intro h
    cases h with
    | value hv rest =>
      rw [Outcome.mapM, hv]
      rfl
    | empty rest | failure e => rfl

/-- Outcomes are converted one by one. -/
theorem Results.listMapM_eq_ok_iff :
    (os.mapM (Outcome.mapM fun v => Run.ofFault (Fault.enclose (f v)))).result = .ok ps
      ↔ List.Forall₂ (Outcome.Lifted f) os ps := by
  induction os generalizing ps with
  | nil =>
    rw [List.forall₂_nil_left_iff]
    constructor
    · intro h
      cases h
      rfl
    · rintro rfl
      rfl
  | cons o os ih =>
    rw [List.mapM_cons]
    constructor
    · intro h
      obtain ⟨p, hp, h⟩ := Run.exists_of_bind_eq_ok h
      obtain ⟨qs, hqs, h⟩ := Run.exists_of_bind_eq_ok h
      cases h
      exact .cons (Outcome.mapM_eq_ok_iff.1 hp) (ih.1 hqs)
    · intro h
      cases h with
      | cons hp hqs =>
        rw [Run.bind_of_ok (Outcome.mapM_eq_ok_iff.2 hp), Run.bind_of_ok (ih.2 hqs)]
        rfl

/-- Changing the values of results succeeds exactly if the function always does. -/
theorem Results.map_eq_ok_iff :
    (x.map f).result = .ok y ↔ List.Forall₂ (Outcome.Lifted f) x.toList y.toList := by
  rw [← listMapM_eq_ok_iff, Results.map_toList]
  constructor
  · intro h
    rw [Run.bind_of_ok h]
    rfl
  · intro h
    obtain ⟨z, hz, h⟩ := Run.exists_of_bind_eq_ok h
    obtain rfl := Results.toList_injective (Except.ok.inj h)
    exact hz

end Lifted

/-! ## Parsers -/

namespace Parser

variable (p : Parser) (f g : Datum → Except Fault Datum)

/-- Produces a computed value, or halts if there is none. -/
def produce : Except Fault Datum → Parser
  | .ok v => succeed v
  | .error cause => halt (.fault cause)

/-- To go on by producing a changed value is to change the value. -/
theorem continuation_produce :
    continuation (fun v => produce (f v)) = Results.changed fun v => Run.ofFault (f v) := by
  funext o
  cases o with
  | value v rest =>
    cases hv : f v with
    | ok w => simp only [continuation, hv, produce, succeed, Results.changed, Outcome.mapM,
        Run.ofFault_ok, Run.pure_bind]
    | error cause => simp only [continuation, hv, produce, halt, Results.changed, Outcome.mapM,
        Run.ofFault_error, Run.halt_bind]
  | empty rest | failure e => rfl

/-- Lifting is binding to what produces the lifted value. -/
theorem lift_eq_bind : p.lift f = p.bind fun v => produce (f v) := by
  simp only [lift, bind, continuation_produce, Results.map_eq_bind]

/-- A function that changes nothing changes no parser. -/
theorem lift_ok : p.lift .ok = p := by
  simp only [lift, Results.map_ok, Run.bind_pure_self]

/-- Two functions lifted one after the other give what both give when they are lifted as one. -/
theorem result?_lift_lift (r : Span) :
    (((p.lift f).lift g).parse r).result? = ((p.lift fun v => f v >>= g).parse r).result? := by
  have hboth (v : Datum) : (Run.ofFault (f v >>= g)).result?
      = (Run.ofFault (f v)).result? >>= fun w => (Run.ofFault (g w)).result? := by
    rw [Run.ofFault_bind, Run.result?_bind]
  simp only [lift, Run.result?_bind, Results.result?_map, bind_assoc,
    Results.mapM_mapM interchangeable_option, hboth]

/-- The results of a parser with changed values are the changed results. -/
theorem result_lift_eq_ok_iff {r : Span} {y : Results} :
    ((p.lift f).parse r).result = .ok y ↔ ∃ x, (p.parse r).result = .ok x ∧
      List.Forall₂ (Outcome.Lifted f) x.toList y.toList := by
  constructor
  · intro h
    obtain ⟨x, hx, hy⟩ := Run.exists_of_bind_eq_ok h
    exact ⟨x, hx, Results.map_eq_ok_iff.1 hy⟩
  · rintro ⟨x, hx, hy⟩
    simp only [lift]
    rw [Run.bind_of_ok hx]
    exact Results.map_eq_ok_iff.2 hy

/-- **Lifting is the functor map.**  Lifting a function gives the same results and notes, or halts
with the same notes and for the same reason, as binding each value to the parser that produces what
the function gives.  Lifting the identity changes nothing.  Two functions lifted one after the other
give the same results as both lifted as one, or both ways halt, possibly for different reasons,
since they apply the functions in different orders.  A lifted parser gives results exactly if the
parser does and the function applies to all values, and these results differ in the values alone:
there are as many outcomes, of the same kinds, with the same rests and failures, so that success and
the input that is left are the same. -/
theorem lift_functor_laws (r : Span) :
    (p.lift f).parse r = (p.bind fun v => produce (f v)).parse r ∧
    p.lift .ok = p ∧
    ((∃ x, (((p.lift f).lift g).parse r).result = .ok x ∧
        ((p.lift fun v => f v >>= g).parse r).result = .ok x) ∨
      ∃ e e', (((p.lift f).lift g).parse r).result = .error e ∧
        ((p.lift fun v => f v >>= g).parse r).result = .error e') ∧
    ∀ y, ((p.lift f).parse r).result = .ok y ↔ ∃ x, (p.parse r).result = .ok x ∧
      List.Forall₂ (Outcome.Lifted f) x.toList y.toList ∧
      y.isSuccess = x.isSuccess ∧ y.remaining = x.remaining := by
  refine ⟨congrFun (congrArg parse (lift_eq_bind p f)) r, lift_ok p,
    Run.eq_or_halt_of_result?_eq (result?_lift_lift p f g r), fun y => ?_⟩
  rw [result_lift_eq_ok_iff]
  constructor
  · rintro ⟨x, hx, hlifted⟩
    exact ⟨x, hx, hlifted,
      Results.isSuccess_remaining_of_map f (Results.map_eq_ok_iff.2 hlifted)⟩
  · rintro ⟨x, hx, hlifted, -⟩
    exact ⟨x, hx, hlifted⟩

end Parser

end TokenGrammar
