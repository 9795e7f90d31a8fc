/-
# Folds of sequences

The values of a sequence are those of its first part followed by those of its second part.  A left
fold of a sequence can therefore be cut in two, where the second part goes on folding from what the
first part comes to, and a right fold of it is a right fold of the first values that starts from the
one of the second values.
-/
import TokenGrammar.Parser.Fold
import TokenGrammar.Proofs.BindLaws
import TokenGrammar.Proofs.SequenceChoice
import TokenGrammar.Proofs.Taking

namespace TokenGrammar

/-- Runs that go on in the same way from the result of a run are equal. -/
theorem Run.bind_congr_of_ok {α β : Type} {x : Run α} {k l : α → Run β}
    (h : ∀ a, x.result = .ok a → k a = l a) : x >>= k = x >>= l := by
  cases hx : x.result with
  | error e => rw [bind_of_error hx, bind_of_error hx]
  | ok a => rw [bind_of_ok hx, bind_of_ok hx, h a hx]

/-! ## Runs that go on inside an iteration -/

namespace Run

variable {α β : Type} {x : Run α} {k : α → Run β}

/-- Going on inside an iteration or outside makes no difference but for the signal of the end. -/
theorem bind_enclosed_eq (h : (x >>= k).result ≠ .error (.fault .exhausted)) :
    (x >>= fun a => (k a).enclosed) = x >>= k := by
  refine bind_congr_of_ok fun a ha => enclosed_eq_self fun hk => h ?_
  rw [bind_of_ok ha, hk]

/-- If the signal of the end comes up, there is a fault either way. -/
theorem exists_fault_of_bind_enclosed (h : (x >>= k).result = .error (.fault .exhausted)) :
    ∃ cause, (x >>= fun a => (k a).enclosed).result = .error (.fault cause) := by
  cases hx : x.result with
  | error e =>
    rw [bind_of_error hx] at h
    rw [bind_of_error hx]
    exact ⟨.exhausted, h⟩
  | ok a =>
    rw [bind_of_ok hx] at h
    rw [bind_of_ok hx]
    exact ⟨.leaked, result_enclosed_of_error h⟩

end Run

/-! ## Values that are joined or added -/

namespace Datum

variable [Monoids] {v : Datum} {vs : List Datum}

/-- Values of a monoid are joined. -/
theorem combine_of_monoid {kind : Kind} {a : Datum} (h : Monoids.isMonoid kind = true) :
    combine (.record kind a :: vs) = vs.foldlM Monoids.join (.record kind a) := by
  rw [combine, isMonoid, h, if_pos rfl]

/-- All other values are added up. -/
theorem combine_of_not_monoid (h : ∀ kind a, v = .record kind a → Monoids.isMonoid kind = false) :
    combine (v :: vs) = vs.foldlM add v := by
  have hv : v.isMonoid = false := by
    cases v with
    | record kind a => exact h kind a rfl
    | _ => rfl
  rw [combine, hv, if_neg Bool.false_ne_true]

end Datum

namespace Parser

variable {p : Parser} {r s : Span} {x : Results}

/-! ## One fold -/

/-- Nothing is combined in failing results. -/
theorem Rejects.parse_fold (hp : p.Rejects r) (combine : List Datum → Except Fault Datum)
    (allowEmpty : Bool) : (p.fold combine allowEmpty).parse r = p.parse r := by
  obtain ⟨x, hx, hfail⟩ := hp
  simp only [fold]
  rw [Run.bind_of_ok hx, Results.proceed_of_failure hfail]
  exact Run.ext_result_log hx.symm (List.append_nil _)

/-- Values that can always be combined are replaced by what they come to. -/
theorem parse_fold_of_ok {combine : List Datum → Except Fault Datum} {total : List Datum → Datum}
    (h : ∀ vs, combine vs = .ok (total vs)) (p : Parser) (r : Span) :
    (p.fold combine true).parse r = p.parse r >>= fun x => x.proceed fun rest =>
      pure (.single (.value (total x.values) rest)) := by
  simp only [fold, h, Bool.not_true, Bool.and_false, Bool.false_eq_true, if_false, Run.ofFault_ok,
    Run.pure_bind]

/-- A fold from the left gives one value, which leaves what the parser leaves. -/
theorem parse_foldLeft (p : Parser) (g : Datum → Datum → Datum) (seed : Datum) (r : Span) :
    (p.foldLeft (fun a v => pure (g a v)) seed).parse r
      = p.parse r >>= fun x => x.proceed fun rest =>
        pure (.single (.value (x.values.foldl g seed) rest)) :=
  parse_fold_of_ok (fun _ => List.foldlM_pure) p r

/-- A fold from the right gives one value, which leaves what the parser leaves. -/
theorem parse_foldRight (p : Parser) (f : Datum → Datum → Datum) (seed : Datum) (r : Span) :
    (p.foldRight (fun v a => pure (f v a)) seed).parse r
      = p.parse r >>= fun x => x.proceed fun rest =>
        pure (.single (.value (x.values.foldr f seed) rest)) := by
  -- the values are reversed and then folded from the left
  refine parse_fold_of_ok (fun vs => ?_) p r
  rw [List.foldlM_pure, List.foldl_reverse]
  rfl

/-- A success is folded from the right. -/
theorem Succeeds.result_foldRight (hx : p.Succeeds r x s) (f : Datum → Datum → Datum)
    (seed : Datum) : ((p.foldRight (fun v a => pure (f v a)) seed).parse r).result
      = .ok (.single (.value (x.values.foldr f seed) s)) := by
  rw [parse_foldRight, Run.bind_of_ok hx.result_eq,
    Results.proceed_of_success hx.isSuccess hx.remaining_eq]
  rfl

/-! ## Folds of sequences -/

/-- Joined results are folded by going on with the second ones from what the first ones come to. -/
theorem proceed_foldLeft_joined (hx : x.isSuccess = true) (y : Results)
    (g : Datum → Datum → Datum) (seed : Datum) :
    (x.joined y).proceed (fun rest =>
        pure (.single (.value ((x.joined y).values.foldl g seed) rest)))
      = y.proceed fun rest =>
        pure (.single (.value (y.values.foldl g (x.values.foldl g seed)) rest)) := by
  cases hy : y.isSuccess with
  | false =>
    rw [Results.joined_of_failure hy, Results.proceed_of_failure hy, Results.proceed_of_failure hy]
  | true =>
    obtain ⟨rest, hrest⟩ := Results.exists_remaining_of_success hy
    have hsuc : (x ++ y).isSuccess = true := hx
    have hjoined : (x ++ y).remaining = some rest := Results.remaining_append_of_success hrest
    rw [Results.joined_of_success hy, Results.proceed_of_success hsuc hjoined,
      Results.proceed_of_success hy hrest, Results.values_append, List.foldl_append]

/-- What comes of a left fold of a sequence after its first part. -/
def foldRest (q : Parser) (g : Datum → Datum → Datum) (seed : Datum) (x : Results) : Run Results :=
  x.proceed (q.foldLeft (fun a v => pure (g a v)) (x.values.foldl g seed)).parse

/-- A left fold of a sequence goes on from what the first part comes to. -/
theorem parse_foldLeft_andThen (p q : Parser) (g : Datum → Datum → Datum) (seed : Datum)
    (r : Span) :
    ((p.andThen q).foldLeft (fun a v => pure (g a v)) seed).parse r
      = p.parse r >>= q.foldRest g seed := by
  rw [parse_foldLeft, parse_andThen, Run.bind_assoc]
  congr 1
  funext x
  cases hsuc : x.isSuccess with
  | false =>
    rw [foldRest, Results.proceed_of_failure hsuc, Results.proceed_of_failure hsuc, Run.pure_bind,
      Results.proceed_of_failure hsuc]
  | true =>
    obtain ⟨rest, hrest⟩ := Results.exists_remaining_of_success hsuc
    rw [foldRest, Results.proceed_of_success hsuc hrest, Results.proceed_of_success hsuc hrest,
      parse_foldLeft, Run.bind_assoc]
    congr 1
    funext y
    rw [Run.pure_bind]
    exact proceed_foldLeft_joined hsuc y g seed

/-- Bound to a left fold of the second part, one of the first part goes on in the same way, but
inside an iteration. -/
theorem parse_foldLeft_bind (hp : p.Rejects r → ∃ e, p.Fails r e) (q : Parser)
    (g : Datum → Datum → Datum) (seed : Datum) :
    ((p.foldLeft (fun a v => pure (g a v)) seed).bind fun a =>
        q.foldLeft (fun a v => pure (g a v)) a).parse r
      = p.parse r >>= fun x => (q.foldRest g seed x).enclosed := by
  rw [parse_bind, parse_foldLeft, Run.bind_assoc]
  refine Run.bind_congr_of_ok fun x hx => ?_
  cases hsuc : x.isSuccess with
  | false =>
    -- a lone failure stays as it is on both sides
    obtain ⟨e, he⟩ := hp ⟨x, hx, hsuc⟩
    obtain rfl := Except.ok.inj (hx.symm.trans he)
    rw [foldRest, Results.proceed_of_failure rfl, Results.proceed_of_failure rfl, Run.pure_bind]
    exact Results.bind_failure _ rfl
  | true =>
    obtain ⟨rest, hrest⟩ := Results.exists_remaining_of_success hsuc
    rw [foldRest, Results.proceed_of_success hsuc hrest, Results.proceed_of_success hsuc hrest,
      Run.pure_bind]
    exact Results.bind_single _ rfl

/-- **Folds compose along a sequence.**  A left fold of a sequence whose first part fails with
nothing but a failure is a left fold of the first part, from whose value the second part goes on
folding; only a signal that an iteration has ended may come out as another fault, since the second
part is then applied inside an iteration.  A right fold of a sequence that succeeds gives the right
fold of the values of the first part that starts from the right fold of those of the second part,
where the sequence ends.  Without a function the values are joined from left to right if the first
of them is a record of a monoid and added up otherwise, and without a value there is an empty
success.  Failing results are never folded. -/
theorem folding_composes [Monoids] (p q : Parser) (f g : Datum → Datum → Datum) (seed : Datum)
    (r : Span) :
    ((p.Rejects r → ∃ e, p.Fails r e) →
      let whole := ((p.andThen q).foldLeft (fun a v => pure (g a v)) seed).parse r
      let parts := ((p.foldLeft (fun a v => pure (g a v)) seed).bind fun a =>
        q.foldLeft (fun a v => pure (g a v)) a).parse r
      (whole.result ≠ .error (.fault .exhausted) → whole = parts) ∧
      (whole.result = .error (.fault .exhausted) →
        ∃ cause, parts.result = .error (.fault cause))) ∧
    (∀ z t, (p.andThen q).Succeeds r z t → ∃ x s y, p.Succeeds r x s ∧ q.Succeeds s y t ∧
      z.values = x.values ++ y.values ∧
      z.values.foldr f seed = x.values.foldr f (y.values.foldr f seed) ∧
      (((p.andThen q).foldRight (fun v a => pure (f v a)) seed).parse r).result
        = .ok (.single (.value (z.values.foldr f seed) t))) ∧
    (p.Rejects r → ∀ combine allowEmpty, (p.fold combine allowEmpty).parse r = p.parse r) ∧
    ∀ x s, p.Succeeds r x s →
      (x.values = [] → (p.reduce.parse r).result = .ok (.single (.empty s))) ∧
      ∀ v vs, x.values = v :: vs →
        ((∃ kind a, v = .record kind a ∧ Monoids.isMonoid kind = true) →
          (p.reduce.parse r).result = ((vs.foldlM Monoids.join v).map fun w =>
            .single (.value w s)).mapError .fault) ∧
        ((∀ kind a, v = .record kind a → Monoids.isMonoid kind = false) →
          (p.reduce.parse r).result = ((vs.foldlM Datum.add v).map fun w =>
            .single (.value w s)).mapError .fault) := by
  refine ⟨fun hp => ?_, ?_, Rejects.parse_fold, ?_⟩
  · intro whole parts
    have hwhole : whole = p.parse r >>= q.foldRest g seed := parse_foldLeft_andThen p q g seed r
    have hparts : parts = p.parse r >>= fun x => (q.foldRest g seed x).enclosed :=
      parse_foldLeft_bind hp q g seed
    rw [hwhole, hparts]
    exact ⟨fun h => (Run.bind_enclosed_eq h).symm, Run.exists_fault_of_bind_enclosed⟩
  · intro z t hz
    obtain ⟨x, s, y, hx, hy, rfl⟩ := hz.of_andThen
    refine ⟨x, s, y, hx, hy, Results.values_append x y, ?_, hz.result_foldRight f seed⟩
    rw [Results.values_append, List.foldr_append]
  · intro x s hx
    refine ⟨fun hvalues => hx.result_fold_of_nil hvalues _, fun v vs hvalues => ?_⟩
    have hreduce : (p.reduce.parse r).result = ((Datum.combine (v :: vs)).map fun w =>
        .single (.value w s)).mapError .fault := by
      rw [reduce, hx.result_fold_of_ne_nil (hvalues ▸ List.cons_ne_nil v vs), hvalues]
    constructor
    · rintro ⟨kind, a, rfl, hkind⟩
      rw [hreduce, Datum.combine_of_monoid hkind]
    · intro hv
      rw [hreduce, Datum.combine_of_not_monoid hv]

/-- Records of one class, the greater one of which is kept when they are joined. -/
abbrev greatest : Monoids where
  isMonoid kind := kind.name == "Greatest"
  join
    | .record kind a, .record _ b => do
      let later ← a.less b
      pure (.record kind (if later then b else a))
    | _, _ => .error .wrongType

/-- The case of two items, each read by a part of its own: letters, which are added, and records,
which are joined. -/
theorem folding_composes_items :
    let _ : Monoids := greatest
    let record (n : Int) : Datum := .record { name := "Greatest", field := "n" } (.int n)
    let letters : Source := .ofText "ab".toList
    let records : Source := .ofList [record 3, record 1]
    let window (i : Nat) (h : i ≤ 2) : Span :=
      { source := letters, start := i, stop := 2, start_le_stop := h, stop_le_size := by decide }
    let item := satisfy (fun _ => .ok true) "item"
    let pair (a b : Datum) : Datum := .tuple [a, b]
    let r := window 0 (by decide)
    let t := window 2 (by decide)
    let u : Span :=
      { source := records, start := 2, stop := 2, start_le_stop := by decide
        stop_le_size := Nat.le_refl 2 }
    ((item.andThen item).foldLeft (fun a v => pure (pair a v)) .null).parse r
      = ((item.foldLeft (fun a v => pure (pair a v)) .null).bind fun a =>
          item.foldLeft (fun a v => pure (pair a v)) a).parse r ∧
    (((item.andThen item).foldRight (fun v a => pure (pair v a)) .null).parse r).result
      = .ok (.single (.value (pair (Datum.char 'a') (pair (Datum.char 'b') .null)) t)) ∧
    ((item.andThen item).reduce.parse r).result
      = .ok (.single (.value (.text ['a', 'b']) t)) ∧
    ((item.andThen item).reduce.parse (.whole records)).result
      = .ok (.single (.value (record 3) u)) ∧
    ((item.andThen item).reduce.parse t).result = .ok (.fail (.missingItem 2)) := by
  intro _ record letters records window item pair r t u
  let x : Results :=
    { head := .value (Datum.char 'a') (window 1 (by decide)), tail := [.value (Datum.char 'b') t] }
  have hx : (item.andThen item).Succeeds r x t := ⟨rfl, rfl, rfl⟩
  let y : Results :=
    { head := .value (record 3) ((Span.whole records).drop 1 (by decide))
      tail := [.value (record 1) u] }
  have hy : (item.andThen item).Succeeds (.whole records) y u := ⟨rfl, rfl, rfl⟩
  have hitem : item.Rejects r → ∃ e, item.Fails r e := by
    rintro ⟨z, hz, hfail⟩
    cases hz
    cases hfail
  have hletter (kind : Kind) (a : Datum) (h : Datum.char 'a' = .record kind a) :
      Monoids.isMonoid kind = false := nomatch h
  obtain ⟨hleft, hright, -, -⟩ := folding_composes item item pair pair .null r
  obtain ⟨-, -, -, hadd⟩ := folding_composes (item.andThen item) item pair pair .null r
  obtain ⟨-, -, -, hjoin⟩ :=
    folding_composes (item.andThen item) item pair pair .null (.whole records)
  obtain ⟨-, -, hfails, -⟩ := folding_composes (item.andThen item) item pair pair .null t
  obtain ⟨-, -, -, -, -, -, -, hpair⟩ := hright x t hx
  refine ⟨(hleft hitem).1 nofun, hpair, ?_, ?_, ?_⟩
  · exact (((hadd x t hx).2 _ _ rfl).2 hletter).trans rfl
  · exact (((hjoin y u hy).2 _ _ rfl).1 ⟨_, _, rfl, rfl⟩).trans rfl
  · exact congrArg Run.result (hfails ⟨_, rfl, rfl⟩ _ _)

end Parser

end TokenGrammar
