/-
# Discarding is sequencing

A parser whose values are discarded may be put in a sequence, and the sequence then yields the
values of its other part alone.  The combinators that discard one part do the same without joining
outcomes: one keeps the outcomes of the second part only, one moves the last success of the first
part, one puts a value in the place of all outcomes.  Single outcomes differ between the two ways,
but not the values, the window that is left, failing results, or the reason to halt.
-/
import TokenGrammar.Proofs.Folding
import TokenGrammar.Proofs.OutcomeOrder

namespace TokenGrammar

namespace Results

variable {x y : Results} {s : Span}

/-! ## Moving the last success -/

/-- A list consists of failures only, or the last success in it is moved and all else stays. -/
theorem moveLast_cases (s : Span) (os : List Outcome) :
    ((∀ f ∈ os, f.isFailure = true) ∧ moveLast s os = none) ∨
      ∃ before o fs, os = before ++ o :: fs ∧ o.isFailure = false ∧
        (∀ f ∈ fs, f.isFailure = true) ∧ moveLast s os = some (before ++ o.moveTo s :: fs) := by
  induction os with
  | nil => exact Or.inl ⟨List.forall_mem_nil _, rfl⟩
  | cons p os ih =>
    rcases ih with ⟨hfailures, hnone⟩ | ⟨before, o, fs, rfl, ho, hfs, hmoved⟩
    · cases hp : p.isFailure with
      | true =>
        refine Or.inl ⟨List.forall_mem_cons.2 ⟨hp, hfailures⟩, ?_⟩
        rw [moveLast, hnone, hp]
        rfl
      | false =>
        refine Or.inr ⟨[], p, os, rfl, hp, hfailures, ?_⟩
        rw [moveLast, hnone, hp]
        rfl
    · refine Or.inr ⟨p :: before, o, fs, rfl, ho, hfs, ?_⟩
      rw [moveLast, hmoved]
      rfl

/-- `y` is `x` with the last success moved to `s`. -/
def Moved (x : Results) (s : Span) (y : Results) : Prop :=
  ∃ before o fs, x.toList = before ++ o :: fs ∧ o.isFailure = false ∧
    (∀ f ∈ fs, f.isFailure = true) ∧ y.toList = before ++ o.moveTo s :: fs

/-- A success that is resumed has been moved. -/
theorem moved_resume (hx : x.isSuccess = true) (s : Span) : x.Moved s (x.resume s) := by
  rcases moveLast_cases s x.toList with ⟨hfailures, -⟩ | ⟨before, o, fs, hos, ho, hfs, hmoved⟩
  · -- the first outcome is a success
    have hhead : x.head.isFailure = true := hfailures x.head List.mem_cons_self
    rw [isSuccess, hhead] at hx
    cases hx
  · exact ⟨before, o, fs, hos, ho, hfs, toList_resume hmoved⟩

namespace Moved

/-- Moving keeps the number of outcomes. -/
theorem length_eq (h : x.Moved s y) : y.length = x.length := by
  obtain ⟨before, o, fs, hx, -, -, hy⟩ := h
  rw [length, length, hx, hy, List.length_append, List.length_append, List.length_cons,
    List.length_cons]

/-- Moving keeps the values. -/
theorem values_eq (h : x.Moved s y) : y.values = x.values := by
  obtain ⟨before, o, fs, hx, -, -, hy⟩ := h
  rw [values, values, hx, hy, List.filterMap_append, List.filterMap_append, List.filterMap_cons,
    List.filterMap_cons, Outcome.value?_moveTo]

/-- Moving keeps success and failure. -/
theorem isSuccess_eq (h : x.Moved s y) : y.isSuccess = x.isSuccess := by
  obtain ⟨before, o, fs, hx, -, -, hy⟩ := h
  cases before with
  | nil =>
    obtain ⟨hx, -⟩ := List.cons.inj hx
    obtain ⟨hy, -⟩ := List.cons.inj hy
    rw [isSuccess, isSuccess, hx, hy, Outcome.isFailure_moveTo]
  | cons p before =>
    obtain ⟨hx, -⟩ := List.cons.inj hx
    obtain ⟨hy, -⟩ := List.cons.inj hy
    rw [isSuccess, isSuccess, hx, hy]

/-- Moved results leave the window they were moved to. -/
theorem remaining_eq (h : x.Moved s y) : y.remaining = some s := by
  obtain ⟨before, o, fs, -, ho, hfs, hy⟩ := h
  rw [remaining, hy, lastRest?_append, lastRest?, lastRest?_of_failures hfs,
    Outcome.rest?_moveTo s ho]
  rfl

end Moved

/-! ## What is observed of results -/

/-- The values of a success and the window that it leaves, or else the failing results. -/
def observed (x : Results) : Except Results (List Datum × Option Span) :=
  if x.isSuccess then .ok (x.values, x.remaining) else .error x

/-- A success is observed by its values and what it leaves. -/
theorem observed_of_success (hx : x.isSuccess = true) : x.observed = .ok (x.values, x.remaining) :=
  if_pos hx

/-- An outcome without a value in front of results cannot be observed. -/
theorem observed_joined_empty (s : Span) (y : Results) :
    ((single (.empty s)).joined y).observed = y.observed := by
  cases hy : y.isSuccess with
  | false => rw [joined_of_failure hy]
  | true =>
    obtain ⟨rest, hrest⟩ := exists_remaining_of_success hy
    rw [joined_of_success hy, observed_of_success rfl, observed_of_success hy, values_append,
      remaining_append_of_success hrest, hrest]
    rfl

/-- Moving the last success and adding one without a value behind it look the same. -/
theorem observed_resume (hx : x.isSuccess = true) (s : Span) :
    (x.resume s).observed = (x.joined (single (.empty s))).observed := by
  have hmoved : x.Moved s (x.resume s) := moved_resume hx s
  have hsuc : (x ++ single (.empty s)).isSuccess = true := hx
  have hvalues : (x ++ single (.empty s)).values = x.values := by
    rw [values_append]
    exact List.append_nil _
  rw [joined_of_success rfl, observed_of_success (hmoved.isSuccess_eq.trans hx),
    observed_of_success hsuc, hmoved.values_eq, hmoved.remaining_eq, hvalues,
    remaining_append_of_success rfl]

end Results

namespace Parser

open Results (observed)

variable {p q : Parser} {r s : Span} {y : Results}

/-- What is observed of a parse. -/
def observe (p : Parser) (r : Span) : Run (Except Results (List Datum × Option Span)) :=
  observed <$> p.parse r

/-- Parses that begin in the same way look the same if they do behind every success. -/
theorem observed_proceed_congr (m : Run Results) {k l : Results → Span → Run Results}
    (h : ∀ x rest, x.isSuccess = true → observed <$> k x rest = observed <$> l x rest) :
    observed <$> (m >>= fun x => x.proceed (k x))
      = observed <$> (m >>= fun x => x.proceed (l x)) := by
  rw [map_bind, map_bind]
  congr 1
  funext x
  cases hx : x.isSuccess with
  | false => rw [Results.proceed_of_failure hx, Results.proceed_of_failure hx]
  | true =>
    obtain ⟨rest, hrest⟩ := Results.exists_remaining_of_success hx
    rw [Results.proceed_of_success hx hrest, Results.proceed_of_success hx hrest, h x rest hx]

/-- A sequence goes on from ignored outcomes as from one without a value. -/
theorem parse_ignore_andThen (p q : Parser) (r : Span) :
    (p.ignore.andThen q).parse r = p.parse r >>= fun x => x.proceed fun rest =>
      q.parse rest >>= fun y => pure ((Results.single (.empty rest)).joined y) := by
  rw [parse_andThen, ignore, Run.bind_assoc]
  congr 1
  funext x
  cases hx : x.isSuccess with
  | false =>
    rw [Results.proceed_of_failure hx, Results.proceed_of_failure hx, Run.pure_bind,
      Results.proceed_of_failure hx]
  | true =>
    obtain ⟨rest, hrest⟩ := Results.exists_remaining_of_success hx
    rw [Results.proceed_of_success hx hrest, Results.proceed_of_success hx hrest, Run.pure_bind]
    exact Results.proceed_of_success rfl rfl _

/-- To drop the values on the left is to ignore the parser on the left. -/
theorem observe_ignoreLeft (p q : Parser) (r : Span) :
    (p.ignoreLeft q).observe r = (p.ignore.andThen q).observe r := by
  rw [observe, observe, parse_ignore_andThen]
  refine observed_proceed_congr (p.parse r) fun x rest _ => ?_
  rw [map_bind, map_eq_pure_bind]
  congr 1
  funext y
  rw [map_pure, Results.observed_joined_empty]

/-- To drop the values on the right is to ignore the parser on the right. -/
theorem observe_ignoreRight (p q : Parser) (r : Span) :
    (p.ignoreRight q).observe r = (p.andThen q.ignore).observe r := by
  refine observed_proceed_congr (p.parse r) fun x rest hx => ?_
  rw [ignore, Run.bind_assoc, map_bind, map_bind]
  congr 1
  funext y
  cases hy : y.isSuccess with
  | false =>
    rw [Results.proceed_of_failure hy, Results.proceed_of_failure hy, Run.pure_bind, hy]
    rfl
  | true =>
    obtain ⟨resumed, hresumed⟩ := Results.exists_remaining_of_success hy
    rw [Results.proceed_of_success hy hresumed, Results.proceed_of_success hy hresumed,
      Run.pure_bind, map_pure, map_pure, Results.observed_resume hx]
    rfl

/-- A value in place of whatever a parser gives. -/
theorem parse_inject (p : Parser) (v : Datum) (r : Span) :
    (p.inject v).parse r
      = p.parse r >>= fun x => x.proceed fun rest => pure (.single (.value v rest)) :=
  parse_fold_of_ok (fun _ => rfl) p r

/-- To put a value in place of others is to ignore these and give it afterwards. -/
theorem observe_inject (p : Parser) (v : Datum) (r : Span) :
    (p.inject v).observe r = (p.ignore.andThen (succeed v)).observe r := by
  rw [observe, observe, parse_ignore_andThen, parse_inject]
  refine observed_proceed_congr (p.parse r) fun x rest _ => ?_
  rw [succeed, Run.pure_bind, map_pure, map_pure, Results.observed_joined_empty]

/-- A success with a value put in place is that value alone. -/
theorem Succeeds.of_inject {v : Datum} (h : (p.inject v).Succeeds r y s) :
    y = .single (.value v s) := by
  have hy := h.result_eq
  rw [parse_inject] at hy
  obtain ⟨x, -, hy⟩ := Run.exists_of_bind_eq_ok hy
  obtain ⟨rest, -, -, hy⟩ := Results.exists_of_proceed hy h.isSuccess
  cases hy
  obtain rfl := Option.some.inj h.rest?_eq
  rfl

/-- Both parts of a success that keeps its first part succeed, and the last success of the first
part is moved to where the second one leads. -/
theorem Succeeds.of_ignoreRight (h : (p.ignoreRight q).Succeeds r y s) :
    ∃ x t z, p.Succeeds r x t ∧ q.Succeeds t z s ∧ x.Moved s y := by
  obtain ⟨x, hx, hy⟩ := Run.exists_of_bind_eq_ok h.result_eq
  obtain ⟨t, hxsuc, ht, hy⟩ := Results.exists_of_proceed hy h.isSuccess
  obtain ⟨z, hz, hy⟩ := Run.exists_of_bind_eq_ok hy
  obtain ⟨u, hzsuc, hu, hy⟩ := Results.exists_of_proceed hy h.isSuccess
  cases hy
  have hmoved : x.Moved u (x.resume u) := Results.moved_resume hxsuc u
  obtain rfl := Option.some.inj (hmoved.remaining_eq.symm.trans h.remaining_eq)
  exact ⟨x, t, z, ⟨hx, hxsuc, ht⟩, ⟨hz, hzsuc, hu⟩, hmoved⟩

/-- **Discarding is sequencing.**  To keep one part of a sequence, or to put a value in the place of
what a parser gives, looks the same as a sequence whose other outcomes are ignored: there is the
same reason to halt, or the same failing results, or a success with the same values, which leaves
the same window.  A success that keeps the first part has the outcomes of that part, of which only
the last success is moved to where the second part leads. -/
theorem discarding_sequences (p q : Parser) (v : Datum) (r : Span) :
    (p.ignoreLeft q).observe r = (p.ignore.andThen q).observe r ∧
    (p.ignoreRight q).observe r = (p.andThen q.ignore).observe r ∧
    (p.inject v).observe r = (p.ignore.andThen (succeed v)).observe r ∧
    (∀ y s, (p.inject v).Succeeds r y s → y.values = [v]) ∧
    ∀ y s, (p.ignoreRight q).Succeeds r y s →
      ∃ x t z, p.Succeeds r x t ∧ q.Succeeds t z s ∧ y.length = x.length ∧ x.Moved s y := by
  refine ⟨observe_ignoreLeft p q r, observe_ignoreRight p q r, observe_inject p v r, ?_, ?_⟩
  · intro y s h
    rw [h.of_inject]
    rfl
  · intro y s h
    obtain ⟨x, t, z, hx, hz, hmoved⟩ := h.of_ignoreRight
    exact ⟨x, t, z, hx, hz, hmoved.length_eq, hmoved⟩

/-- The case of a first part whose success is followed by a failure. -/
theorem discarding_sequences_letters :
    let window (i : Nat) (h : i ≤ 2) : Span :=
      { source := .ofText "ab".toList, start := i, stop := 2, start_le_stop := h,
        stop_le_size := by decide }
    let letter := satisfy (fun _ => .ok true) "letter"
    let p := (letter.oneOrMore 9 none).bind fun d =>
      if d.same (Datum.char 'a') then succeed d else zero (.missingItem 2)
    let found (i : Nat) (h : i ≤ 2) : Results :=
      { head := .value (Datum.char 'a') (window i h), tail := [.failure (.missingItem 2)] }
    let r := window 0 (by decide)
    let s := window 1 (by decide)
    let t := window 2 (by decide)
    let y : Results := .single (.value .null s)
    (p.inject .null).Succeeds r y s ∧ y.values = [.null] ∧
    (p.ignoreRight letter).Succeeds r (found 2 (by decide)) t ∧
    (found 1 (by decide)).Moved t (found 2 (by decide)) := by
  intro window letter p found r s t y
  obtain ⟨-, -, -, hinject, hright⟩ := discarding_sequences p letter .null r
  have hx : p.Succeeds r (found 1 (by decide)) s := ⟨rfl, rfl, rfl⟩
  have hy : (p.ignoreRight letter).Succeeds r (found 2 (by decide)) t := ⟨rfl, rfl, rfl⟩
  have hnull : (p.inject .null).Succeeds r y s := ⟨rfl, rfl, rfl⟩
  obtain ⟨x, u, z, hx', -, -, hmoved⟩ := hright _ t hy
  obtain rfl := Except.ok.inj (hx.result_eq.symm.trans hx'.result_eq)
  exact ⟨hnull, hinject y s hnull, hy, hmoved⟩

end Parser

end TokenGrammar
