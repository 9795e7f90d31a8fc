/-
# Laws of bind

Replacing every success by the outcomes of a continuation, and then those again, is the same as
replacing once by what both continuations give together.  The two ways run the continuations in
different orders, so that the law needs effects which may change places.  A run that is asked only
for its results has such effects, and in this sense parsers obey the laws of a monad.  The
continuations of a `bind` are called inside an iteration, which a signal of the end cannot leave:
for that signal alone, binding is seen from outside.
-/
import TokenGrammar.Parser.Basic

namespace TokenGrammar

/-! ## Outcomes replaced twice -/

/-- Two computations, neither of which depends on the other, may change places. -/
def Interchangeable (m : Type → Type) [Monad m] : Prop :=
  ∀ {α β γ : Type} (x : m α) (y : m β) (k : α → β → m γ),
    (x >>= fun a => y >>= fun b => k a b) = y >>= fun b => x >>= fun a => k a b

/-- The order of computations that give a value or nothing does not matter. -/
theorem interchangeable_option : Interchangeable Option := by
  intro α β γ x y k
  cases x <;> cases y <;> rfl

namespace Results

variable {m : Type → Type} [Monad m] [LawfulMonad m] (f g : Outcome → m Results)

/-- Results extended by nothing. -/
theorem extend_nil (x : Results) : x.extend [] = x := by
  apply toList_injective
  rw [toList_extend, List.append_nil]

/-- Results extended twice. -/
theorem extend_extend (x : Results) (os ps : List Outcome) :
    (x.extend os).extend ps = x.extend (os ++ ps) := by
  apply toList_injective
  rw [toList_extend, toList_extend, toList_extend, List.append_assoc]

/-- One success is replaced by what the continuation gives for it. -/
theorem bindM_single {o : Outcome} (ho : o.isFailure = false) : (single o).bindM f = f o := by
  simp only [bindM, single, replace, ho, replaceAll, pure_bind, Bool.false_eq_true, if_false,
    extend_nil, bind_pure]

/-- One failure stays as it is. -/
theorem bindM_failure {o : Outcome} (ho : o.isFailure = true) :
    (single o).bindM f = pure (single o) := by
  simp only [bindM, single, replace, ho, replaceAll, pure_bind, if_true, extend_nil]

/-- Replacing every outcome by itself. -/
theorem replaceAll_single (os : List Outcome) :
    replaceAll (fun o => pure (single o)) os = (pure os : m (List Outcome)) := by
  induction os with
  | nil => rfl
  | cons o os ih =>
    simp only [replaceAll, replace, ite_self, ih, pure_bind, toList_single, List.singleton_append]

/-- Replacing every success by itself changes nothing. -/
theorem bindM_pure (x : Results) :
    x.bindM (fun o => pure (single o)) = (pure x : m Results) := by
  rw [bindM, replaceAll_single, replace, ite_self, pure_bind, pure_bind]
  rfl

/-- Replacing the outcomes of two lists, one after the other. -/
theorem replaceAll_append (os ps : List Outcome) :
    replaceAll f (os ++ ps)
      = replaceAll f os >>= fun a => replaceAll f ps >>= fun b => pure (a ++ b) := by
  induction os with
  | nil => simp only [List.nil_append, replaceAll, pure_bind, bind_pure]
  | cons o os ih =>
    simp only [List.cons_append, replaceAll, ih, bind_assoc, pure_bind, List.append_assoc]

/-- Replacing outcomes that are followed by more. -/
theorem bindM_extend (x : Results) (more : List Outcome) :
    (x.extend more).bindM f
      = x.bindM f >>= fun y => replaceAll f more >>= fun os => pure (y.extend os) := by
  rw [bindM, bindM, extend, replaceAll_append]
  simp only [bind_assoc, pure_bind, extend_extend]

/-- The same as lists of outcomes. -/
theorem replaceAll_toList (x : Results) :
    replaceAll f x.toList = x.bindM f >>= fun y => pure y.toList := by
  simp only [toList, replaceAll, bindM, bind_assoc, pure_bind, extend, List.cons_append]

/-- Joined results are replaced one after the other. -/
theorem bindM_append (x y : Results) :
    (x ++ y).bindM f = x.bindM f >>= fun a => y.bindM f >>= fun b => pure (a ++ b) := by
  have happend (a b : Results) : a ++ b = a.extend b.toList := rfl
  simp only [happend, bindM_extend, replaceAll_toList, bind_assoc, pure_bind]

/-- One outcome replaced twice. -/
theorem replace_bindM (o : Outcome) :
    (replace f o >>= fun y => y.bindM g) = replace (fun p => f p >>= fun y => y.bindM g) o := by
  cases ho : o.isFailure with
  | true => simp only [replace, ho, if_true, pure_bind, bindM_failure g ho]
  | false => simp only [replace, ho, Bool.false_eq_true, if_false]

variable {f g}

/-- The outcomes of a list replaced twice.  What `f` gives for the later outcomes changes places
with what `g` makes of the first one. -/
theorem replaceAll_replaceAll (hm : Interchangeable m) (os : List Outcome) :
    (replaceAll f os >>= replaceAll g) = replaceAll (fun o => f o >>= fun y => y.bindM g) os := by
  induction os with
  | nil => rw [replaceAll, replaceAll, pure_bind, replaceAll]
  | cons o os ih =>
    calc (replaceAll f (o :: os) >>= replaceAll g)
        = replace f o >>= fun y => replaceAll f os >>= fun more => y.bindM g >>= fun z =>
            replaceAll g more >>= fun rest => pure (z.toList ++ rest) := by
          simp only [replaceAll, replaceAll_append, replaceAll_toList, bind_assoc, pure_bind]
      _ = replace f o >>= fun y => y.bindM g >>= fun z => replaceAll f os >>= fun more =>
            replaceAll g more >>= fun rest => pure (z.toList ++ rest) := by
          congr 1
          funext y
          exact hm _ _ _
      _ = replaceAll (fun p => f p >>= fun y => y.bindM g) (o :: os) := by
          rw [replaceAll, ← replace_bindM, ← ih]
          simp only [bind_assoc]

/-- Results replaced twice are results replaced once by what both continuations give. -/
theorem bindM_bindM (hm : Interchangeable m) (x : Results) :
    (x.bindM f >>= fun y => y.bindM g) = x.bindM fun o => f o >>= fun y => y.bindM g := by
  calc (x.bindM f >>= fun y => y.bindM g)
      = replace f x.head >>= fun y => replaceAll f x.tail >>= fun more => y.bindM g >>= fun z =>
          replaceAll g more >>= fun rest => pure (z.extend rest) := by
        rw [bindM]
        simp only [bind_assoc, pure_bind, bindM_extend]
    _ = replace f x.head >>= fun y => y.bindM g >>= fun z => replaceAll f x.tail >>= fun more =>
          replaceAll g more >>= fun rest => pure (z.extend rest) := by
        congr 1
        funext y
        exact hm _ _ _
    _ = x.bindM fun o => f o >>= fun y => y.bindM g := by
        symm
        rw [bindM, ← replace_bindM, ← replaceAll_replaceAll hm]
        simp only [bind_assoc]

end Results

/-! ## Runs asked for their results -/

namespace Run

variable {α β : Type}

/-- The result of a run, if it has one. -/
def result? (x : Run α) : Option α :=
  x.result.toOption

/-- The result of a run that does nothing else. -/
@[simp] theorem result?_pure (a : α) : (pure a : Run α).result? = some a := rfl

/-- The result of a run that goes on. -/
@[simp] theorem result?_bind (x : Run α) (f : α → Run β) :
    (x >>= f).result? = x.result? >>= fun a => (f a).result? := by
  cases hx : x.result with
  | error e => rw [bind_of_error hx, result?, result?, hx]; rfl
  | ok a => rw [bind_of_ok hx, result?, result?, hx]; rfl

/-- An iteration around a run does not change what it gives. -/
@[simp] theorem result?_enclosed (x : Run α) : x.enclosed.result? = x.result? := by
  rw [result?, result?, enclosed]
  cases x.result <;> rfl

/-- Outside an iteration a run is seen as it is, unless it halts with the signal of the end. -/
theorem enclosed_eq_self {x : Run α} (h : x.result ≠ .error (.fault .exhausted)) :
    x.enclosed = x := by
  refine ext_result_log ?_ rfl
  rw [enclosed]
  cases hx : x.result with
  | ok a => rfl
  | error e =>
    cases e with
    | fault cause =>
      cases cause with
      | exhausted => exact absurd hx h
      | _ => rfl
    | span _ | breach _ | unreadable _ | endless => rfl

/-- Runs with the same result or none both give it or both halt. -/
theorem eq_or_halt_of_result?_eq {x y : Run α} (h : x.result? = y.result?) :
    (∃ a, x.result = .ok a ∧ y.result = .ok a) ∨
      ∃ e e', x.result = .error e ∧ y.result = .error e' := by
  rw [result?, result?] at h
  cases hx : x.result with
  | error e =>
    cases hy : y.result with
    | error e' => exact Or.inr ⟨e, e', rfl, rfl⟩
    | ok b => simp [hx, hy, Except.toOption] at h
  | ok a =>
    cases hy : y.result with
    | error e' => simp [hx, hy, Except.toOption] at h
    | ok b =>
      obtain rfl : a = b := by simpa [hx, hy, Except.toOption] using h
      exact Or.inl ⟨a, rfl, rfl⟩

end Run

namespace Results

variable (f : Outcome → Run Results)

/-- The result of replacing one outcome depends on the results of the continuation. -/
theorem result?_replace (o : Outcome) :
    (replace f o).result? = replace (fun p => (f p).result?) o := by
  cases ho : o.isFailure <;> simp [replace, ho]

/-- The result of replacing outcomes depends on the results of the continuation. -/
theorem result?_replaceAll (os : List Outcome) :
    (replaceAll f os).result? = replaceAll (fun p => (f p).result?) os := by
  induction os with
  | nil => rfl
  | cons o os ih =>
    simp only [replaceAll, Run.result?_bind, result?_replace, ih, Run.result?_pure]
    rfl

/-- Whether outcomes can be replaced depends on the results of the continuation alone. -/
theorem result?_bindM (x : Results) :
    (x.bindM f).result? = x.bindM fun o => (f o).result? := by
  simp only [bindM, Run.result?_bind, result?_replace, result?_replaceAll, Run.result?_pure]
  rfl

/-- Whether results can be continued depends on the results of the continuation. -/
theorem result?_bind (x : Results) :
    (x.bind f).result? = x.bindM fun o => (f o).result? := by
  simp only [bind, result?_bindM, Run.result?_enclosed]

/-- One success is replaced by what the continuation gives for it, seen from outside. -/
theorem bind_single {o : Outcome} (ho : o.isFailure = false) :
    (single o).bind f = (f o).enclosed :=
  bindM_single _ ho

/-- A failure is continued by itself. -/
theorem bind_failure {o : Outcome} (ho : o.isFailure = true) :
    (single o).bind f = pure (single o) :=
  bindM_failure _ ho

/-- Continuing every outcome with itself changes nothing. -/
theorem bind_pure (x : Results) : (x.bind fun o => pure (single o)) = pure x :=
  bindM_pure x

/-- Replacing twice and replacing once by what both continuations give have the same result. -/
theorem result?_bindM_bindM (g : Outcome → Run Results) (x : Results) :
    (x.bindM f >>= fun y => y.bindM g).result?
      = (x.bindM fun o => f o >>= fun y => y.bindM g).result? := by
  calc (x.bindM f >>= fun y => y.bindM g).result?
      = (x.bindM fun o => (f o).result?) >>= fun y => y.bindM fun o => (g o).result? := by
        simp only [Run.result?_bind, result?_bindM]
    _ = x.bindM fun o => (f o).result? >>= fun y => y.bindM fun o => (g o).result? :=
        bindM_bindM interchangeable_option x
    _ = (x.bindM fun o => f o >>= fun y => y.bindM g).result? := by
        simp only [Run.result?_bind, result?_bindM]

end Results

/-! ## Parsers -/

namespace Parser

/-- A parser that goes on by its values continues its results. -/
theorem parse_bind (p : Parser) (k : Datum → Parser) (r : Span) :
    (p.bind k).parse r = p.parse r >>= fun x => x.bind (continuation k) := rfl

end Parser

end TokenGrammar
