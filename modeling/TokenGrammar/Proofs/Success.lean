/-
# Successful applications

What a success is made of.  A combinator succeeds because its parts do, one after the other, each on
the input that the one before it left; the lemmas of this module say which parts, on which windows,
and how their outcomes go into the results.
-/
import TokenGrammar.Parser.Fold
import TokenGrammar.Parser.Regex
import TokenGrammar.Proofs.Iteration
import TokenGrammar.Proofs.Window

namespace TokenGrammar

/-- If something follows successful results that is itself successful, then so were they. -/
theorem Results.exists_of_proceed {x y : Results} {k : Span → Run Results}
    (h : (x.proceed k).result = .ok y) (hy : y.isSuccess = true) :
    ∃ rest, x.isSuccess = true ∧ x.remaining = some rest ∧ (k rest).result = .ok y := by
  cases hx : x.isSuccess with
  | false =>
    rw [proceed_of_failure hx] at h
    cases h
    exact absurd hy (by simp [hx])
  | true =>
    obtain ⟨rest, hrest⟩ := exists_remaining_of_success hx
    rw [proceed_of_success hx hrest] at h
    exact ⟨rest, rfl, hrest, h⟩

/-- Outcomes that lead from `r` to `s` and outcomes that lead from `s` to `t` lead from `r` to `t`:
without a success among them the window stays. -/
theorem Results.lastRest?_append_orElse {r s t : Span} {os ps : List Outcome}
    (hos : (lastRest? os <|> some r) = some s) (hps : (lastRest? ps <|> some s) = some t) :
    (lastRest? (os ++ ps) <|> some r) = some t := by
  rw [lastRest?_append]
  cases hlast : lastRest? ps with
  | none =>
    rw [hlast] at hps
    obtain rfl := Option.some.inj hps
    exact hos
  | some rest =>
    rw [hlast] at hps
    exact hps

namespace Parser

/-- `p` succeeds on `r` with the results `x` and goes on from `s`. -/
structure Succeeds (p : Parser) (r : Span) (x : Results) (s : Span) : Prop where
  result_eq : (p.parse r).result = .ok x
  isSuccess : x.isSuccess = true
  remaining_eq : x.remaining = some s

variable {p q : Parser} {r s : Span} {x : Results}

/-- A successful result of a run makes the parser succeed, with some rest. -/
theorem exists_succeeds (hx : (p.parse r).result = .ok x) (hsuc : x.isSuccess = true) :
    ∃ s, p.Succeeds r x s := by
  obtain ⟨s, hs⟩ := Results.exists_remaining_of_success hsuc
  exact ⟨s, hx, hsuc, hs⟩

/-- A failure is no success. -/
theorem Succeeds.not_fail {f : Failure} : ¬ p.Succeeds r (.fail f) s := by
  intro h
  cases h.isSuccess

/-- A single outcome that succeeds leaves its own rest. -/
theorem Succeeds.rest?_eq {o : Outcome} (h : p.Succeeds r (.single o) s) : o.rest? = some s := by
  have hrest := h.remaining_eq
  cases o <;> exact hrest

/-! ## Primitive parsers -/

/-- A token that is accepted is the head, and the rest begins after it. -/
theorem Succeeds.of_satisfy {accepts : Datum → Except Fault Bool} {description : String}
    (h : (satisfy accepts description).Succeeds r x s) :
    ∃ t, r.head = .ok t ∧ accepts t = .ok true ∧ r.tail 1 = .ok s ∧ x = .single (.value t s) := by
  have hx := h.result_eq
  rw [satisfy] at hx
  cases he : r.isEmpty with
  | true =>
    simp only [he, if_true] at hx
    cases hx
    exact h.not_fail.elim
  | false =>
    obtain ⟨t, ht⟩ := Span.exists_head he
    have htail : r.tail 1 = .ok (r.drop 1 (Span.one_le_length he)) :=
      Span.tail_ofNat r 1 (Span.one_le_length he)
    simp only [he, Bool.false_eq_true, if_false, ht, htail, Run.ofSpan_ok, Run.pure_bind] at hx
    cases ha : accepts t with
    | error cause =>
      rw [ha] at hx
      cases hx
    | ok accepted =>
      rw [ha] at hx
      cases accepted with
      | false =>
        cases hx
        exact h.not_fail.elim
      | true =>
        cases hx
        obtain rfl := Option.some.inj h.rest?_eq
        exact ⟨t, ht, ha, htail, rfl⟩

/-- The parser that gives a value succeeds with it on the spot. -/
theorem Succeeds.of_succeed {v : Datum} (h : (succeed v).Succeeds r x s) :
    s = r ∧ x = .single (.value v r) := by
  have hx := h.result_eq
  cases hx
  exact ⟨(Option.some.inj h.rest?_eq).symm, rfl⟩

/-- The parser that gives no value succeeds on the spot. -/
theorem Succeeds.of_empty (h : empty.Succeeds r x s) : s = r ∧ x = .single (.empty r) := by
  have hx := h.result_eq
  cases hx
  exact ⟨(Option.some.inj h.rest?_eq).symm, rfl⟩

/-- The end of the input is a success on the spot. -/
theorem Succeeds.of_done (h : done.Succeeds r x s) : s = r ∧ x = .single (.empty r) := by
  have hx := h.result_eq
  rw [done] at hx
  cases he : r.isEmpty with
  | true =>
    simp only [he, if_true] at hx
    cases hx
    exact ⟨(Option.some.inj h.rest?_eq).symm, rfl⟩
  | false =>
    obtain ⟨t, ht⟩ := Span.exists_head he
    simp only [he, Bool.false_eq_true, if_false, ht, Run.ofSpan_ok, Run.pure_bind] at hx
    obtain ⟨f, -, hend⟩ := Run.exists_of_bind_eq_ok hx
    cases hend
    exact h.not_fail.elim

/-- A parser that always fails never succeeds. -/
theorem not_succeeds_zero {f : Failure} : ¬ (zero f).Succeeds r x s := by
  intro h
  have hx := h.result_eq
  cases hx
  exact h.not_fail.elim

/-- A parser that always halts never succeeds. -/
theorem not_succeeds_halt {e : Halt} : ¬ (halt e).Succeeds r x s := by
  intro h
  have hx := h.result_eq
  cases hx

/-- A pattern that succeeds has matched a prefix of the text in view. -/
theorem Succeeds.of_regex {pattern : Recogniser} {description : String}
    (h : (regex pattern description).Succeeds r x s) :
    ∃ cs n, r.view.characters pattern.bytes = .ok cs ∧ pattern.matchLength? cs = some n ∧
      r.tail n = .ok s ∧ x = .single (.value (r.view.extract 0 n).toDatum s) := by
  have hx := h.result_eq
  simp only [regex] at hx
  cases hc : (r.source.content.extract r.start r.stop).characters pattern.bytes with
  | error e =>
    rw [hc] at hx
    cases hx
  | ok cs =>
    simp only [hc] at hx
    cases hm : pattern.matchLength? cs with
    | some n =>
      have hn : n ≤ r.length := by
        rw [← Span.size_view, Span.view, ← Content.length_characters hc]
        exact pattern.matchLength?_le hm
      have htail : r.tail n = .ok (r.drop n hn) := Span.tail_ofNat r n hn
      simp only [hm, htail] at hx
      cases hx
      obtain rfl := Option.some.inj h.rest?_eq
      exact ⟨cs, n, hc, hm, htail, rfl⟩
    | none =>
      simp only [hm] at hx
      cases he : r.isEmpty with
      | true =>
        simp only [he, if_true] at hx
        cases hx
        exact h.not_fail.elim
      | false =>
        obtain ⟨t, ht⟩ := Span.exists_head he
        simp only [he, Bool.false_eq_true, if_false, ht] at hx
        cases hx
        exact h.not_fail.elim

/-! ## Sequence, choice, checking and computing on values -/

/-- A description has no part in a success. -/
theorem Succeeds.of_describe {description : Option String}
    (h : (p.describe description).Succeeds r x s) : p.Succeeds r x s :=
  ⟨h.result_eq, h.isSuccess, h.remaining_eq⟩

/-- A sequence succeeds through both of its parsers, one after the other. -/
theorem Succeeds.of_andThen (h : (p.andThen q).Succeeds r x s) :
    ∃ left t right, p.Succeeds r left t ∧ q.Succeeds t right s ∧ x = left ++ right := by
  obtain ⟨left, hleft, hx⟩ := Run.exists_of_bind_eq_ok h.result_eq
  obtain ⟨t, hlsuc, hlrest, hx⟩ := Results.exists_of_proceed hx h.isSuccess
  obtain ⟨right, hright, hx⟩ := Run.exists_of_bind_eq_ok hx
  cases hrsuc : right.isSuccess with
  | false =>
    simp only [hrsuc, Bool.false_eq_true, if_false] at hx
    cases hx
    exact absurd h.isSuccess (by simp [hrsuc])
  | true =>
    simp only [hrsuc, if_true] at hx
    cases hx
    obtain ⟨u, hu⟩ := exists_succeeds hright hrsuc
    -- the second part decides where the whole goes on
    have hs : u = s := by
      have hrest := h.remaining_eq
      rw [Results.remaining_append, hu.remaining_eq] at hrest
      exact Option.some.inj hrest
    exact ⟨left, t, right, ⟨hleft, hlsuc, hlrest⟩, hs ▸ hu, rfl⟩

/-- A choice succeeds through one of its parsers. -/
theorem Succeeds.of_orElse (h : (p.orElse q).Succeeds r x s) :
    p.Succeeds r x s ∨ q.Succeeds r x s := by
  obtain ⟨y, hy, hx⟩ := Run.exists_of_bind_eq_ok h.result_eq
  cases hsuc : y.isSuccess with
  | false =>
    simp only [hsuc, Bool.false_eq_true, if_false] at hx
    exact Or.inr ⟨hx, h.isSuccess, h.remaining_eq⟩
  | true =>
    simp only [hsuc, if_true] at hx
    cases hx
    exact Or.inl ⟨hy, h.isSuccess, h.remaining_eq⟩

/-- What passes a check has succeeded before. -/
theorem Succeeds.of_check {accepts : Datum → Except Fault Bool} {description : Option String}
    (h : (p.check accepts description).Succeeds r x s) : p.Succeeds r x s := by
  obtain ⟨y, hy, hx⟩ := Run.exists_of_bind_eq_ok h.result_eq
  cases hsuc : y.isSuccess with
  | false =>
    simp only [hsuc, Bool.false_eq_true, if_false] at hx
    cases hx
    exact absurd h.isSuccess (by simp [hsuc])
  | true =>
    simp only [hsuc, if_true] at hx
    obtain ⟨rejected, _, hx⟩ := Run.exists_of_bind_eq_ok hx
    cases rejected with
    | some f =>
      cases hx
      exact h.not_fail.elim
    | none =>
      cases hx
      exact ⟨hy, h.isSuccess, h.remaining_eq⟩

/-- A combined success is one value, or none if there was nothing to combine. -/
theorem Succeeds.of_fold {combine : List Datum → Except Fault Datum} {allowEmpty : Bool}
    (h : (p.fold combine allowEmpty).Succeeds r x s) :
    ∃ y, p.Succeeds r y s ∧ ((y.values = [] ∧ x = .single (.empty s)) ∨
      ∃ v, combine y.values = .ok v ∧ x = .single (.value v s)) := by
  obtain ⟨y, hy, hx⟩ := Run.exists_of_bind_eq_ok h.result_eq
  obtain ⟨t, hsuc, hrest, hx⟩ := Results.exists_of_proceed hx h.isSuccess
  split at hx
  · next hempty =>
    cases hx
    obtain rfl := Option.some.inj h.rest?_eq
    rw [Bool.and_eq_true, List.isEmpty_iff] at hempty
    exact ⟨y, ⟨hy, hsuc, hrest⟩, Or.inl ⟨hempty.1, rfl⟩⟩
  · obtain ⟨v, hv, hx⟩ := Run.exists_of_bind_eq_ok hx
    cases hx
    obtain rfl := Option.some.inj h.rest?_eq
    refine ⟨y, ⟨hy, hsuc, hrest⟩, Or.inr ⟨v, ?_, rfl⟩⟩
    cases hc : combine y.values with
    | error cause =>
      rw [hc] at hv
      cases hv
    | ok w =>
      rw [hc] at hv
      cases hv
      rfl

/-- A function is applied to the values of a success. -/
theorem Succeeds.result_lift (hx : p.Succeeds r x s) (f : Datum → Except Fault Datum) :
    ((p.lift f).parse r).result = (x.map f).result := by
  simp only [Parser.lift]
  rw [Run.bind_of_ok hx.result_eq]

/-! ## Repetition -/

/-- Successes of `p` one after the other, each of which moves.  They lead from one window to
another, and their outcomes are joined. -/
inductive Repeats (p : Parser) : Span → List Outcome → Span → Prop where
  | stop (s : Span) : Repeats p s [] s
  | step {s t u : Span} {x : Results} {os : List Outcome} (hx : p.Succeeds s x t)
      (hmoved : t.start ≠ s.start) (hrest : Repeats p t os u) : Repeats p s (x.toList ++ os) u

/-- The last of the successes decides where they lead to. -/
theorem Repeats.orElse_eq {os : List Outcome} {t u : Span} (h : p.Repeats t os u) :
    (Results.lastRest? os <|> some t) = some u := by
  induction h with
  | stop s => rfl
  | @step s t u x os hx _ _ ih =>
    have hrest : Results.lastRest? x.toList = some t := hx.remaining_eq
    refine Results.lastRest?_append_orElse ?_ ih
    rw [hrest]
    rfl

/-- A loop that comes to an end consists of successes that move. -/
theorem exists_repeats_of_again {room : Nat} {y : List Outcome × Bool}
    (hy : (p.again room s).result = .ok y) : ∃ u, p.Repeats s y.1 u := by
  induction room generalizing s y with
  | zero =>
    cases hy
    exact ⟨s, .stop s⟩
  | succ room ih =>
    cases hadv : p.advances s with
    | false =>
      rw [again_of_not_advances hadv] at hy
      obtain ⟨_, _, hy⟩ := Run.exists_of_bind_eq_ok hy
      cases hy
      exact ⟨s, .stop s⟩
    | true =>
      obtain ⟨x, after, hx, hsuc, hafter, hmoved⟩ := exists_of_advances hadv
      rw [again_of_advances hx hsuc hafter hmoved] at hy
      obtain ⟨_, _, hy⟩ := Run.exists_of_bind_eq_ok hy
      obtain ⟨more, hmore, hy⟩ := Run.exists_of_bind_eq_ok hy
      cases hy
      obtain ⟨u, hu⟩ := ih hmore
      exact ⟨u, .step ⟨hx, hsuc, hafter⟩ hmoved hu⟩

/-- `y` joins the outcomes of a first success and of further ones that move. -/
def Repeated (p : Parser) (r : Span) (y : Results) (u : Span) : Prop :=
  ∃ x t os, p.Succeeds r x t ∧ p.Repeats t os u ∧ y = x.extend os

/-- A repetition leaves what its last application leaves. -/
theorem Repeated.remaining_eq {y : Results} {u : Span} (h : p.Repeated r y u) :
    y.remaining = some u := by
  obtain ⟨x, t, os, hx, hos, rfl⟩ := h
  have hrest : Results.lastRest? x.toList = some t := hx.remaining_eq
  rw [Results.remaining, Results.toList_extend, Results.lastRest?_append, hrest, hos.orElse_eq]

/-- Going on from a success is a repetition. -/
theorem Succeeds.exists_repeated {t : Span} (hx : p.Succeeds r x t) {limit : Nat}
    {y : Results × Bool} (hy : (p.repeatFrom x limit).result = .ok y) :
    ∃ u, p.Repeated r y.1 u := by
  rw [repeatFrom_eq_again hx.remaining_eq] at hy
  obtain ⟨more, hmore, hy⟩ := Run.exists_of_bind_eq_ok hy
  cases hy
  obtain ⟨u, hu⟩ := exists_repeats_of_again hmore
  exact ⟨u, x, t, more.1, hx, hu, rfl⟩

/-- The same without a bound. -/
theorem Succeeds.exists_repeated_freely {t : Span} (hx : p.Succeeds r x t) {cap : Int}
    {y : Results} (hy : (p.repeatFreely cap x).result = .ok y) : ∃ u, p.Repeated r y u := by
  obtain ⟨z, hz, hy⟩ := Run.exists_of_bind_eq_ok hy
  obtain ⟨u, hu⟩ := hx.exists_repeated hz
  -- the note about the cap does not change the results
  have hzy : z.1 = y := by
    obtain ⟨z, ended⟩ := z
    cases ended with
    | true =>
      cases hy
      rfl
    | false =>
      obtain ⟨_, _, hy⟩ := Run.exists_of_bind_eq_ok hy
      cases hy
      rfl
  exact ⟨u, hzy ▸ hu⟩

/-- A repetition that needs a match succeeds by repeated applications. -/
theorem Succeeds.of_oneOrMore {cap : Int} {bound : Option Bound}
    (h : (p.oneOrMore cap bound).Succeeds r x s) : p.Repeated r x s := by
  obtain ⟨first, hfirst, hx⟩ := Run.exists_of_bind_eq_ok h.result_eq
  cases hsuc : first.isSuccess with
  | false =>
    simp only [hsuc, Bool.false_eq_true, if_false] at hx
    cases hx
    exact h.not_fail.elim
  | true =>
    simp only [hsuc, if_true] at hx
    obtain ⟨t, ht⟩ := exists_succeeds hfirst hsuc
    obtain ⟨u, hu⟩ : ∃ u, p.Repeated r x u := by
      cases bound with
      | none => exact ht.exists_repeated_freely hx
      | some b =>
        obtain ⟨y, hy, hx⟩ := Run.exists_of_bind_eq_ok hx
        cases hx
        exact ht.exists_repeated hy
    obtain rfl := Option.some.inj (hu.remaining_eq.symm.trans h.remaining_eq)
    exact hu

/-- Unless one match more is found, the results of a bounded repetition stand. -/
theorem eq_of_atMost {bound : Bound} {y : Results} {t : Span}
    (hx : (p.atMost bound y (some t)).result = .ok x) (hsuc : x.isSuccess = true) :
    x = if bound.limit = 0 then .single (.empty t) else y := by
  obtain ⟨extra, _, hx⟩ := Run.exists_of_bind_eq_ok hx
  split at hx
  · cases hx
    cases hsuc
  · cases hx
    rfl

/-- A repetition that can do without a match succeeds on the spot or by repeated applications. -/
theorem Succeeds.of_zeroOrMore {cap : Int} {bound : Option Bound}
    (h : (p.zeroOrMore cap bound).Succeeds r x s) :
    (s = r ∧ x = .single (.empty r)) ∨ p.Repeated r x s := by
  -- an empty success leaves the window as it is
  have hempty (hx : x = .single (.empty r)) : s = r ∧ x = .single (.empty r) := by
    subst hx
    exact ⟨(Option.some.inj h.rest?_eq).symm, rfl⟩
  have hrepeated : (∃ u, p.Repeated r x u) → p.Repeated r x s := by
    rintro ⟨u, hu⟩
    obtain rfl := Option.some.inj (hu.remaining_eq.symm.trans h.remaining_eq)
    exact hu
  obtain ⟨first, hfirst, hx⟩ := Run.exists_of_bind_eq_ok h.result_eq
  cases hsuc : first.isSuccess with
  | false =>
    simp only [hsuc, Bool.false_eq_true, if_false] at hx
    cases hx
    exact Or.inl (hempty rfl)
  | true =>
    simp only [hsuc, if_true] at hx
    obtain ⟨t, ht⟩ := exists_succeeds hfirst hsuc
    cases bound with
    | none => exact Or.inr (hrepeated (ht.exists_repeated_freely hx))
    | some b =>
      simp only at hx
      split at hx
      · exact Or.inl (hempty (eq_of_atMost hx h.isSuccess))
      · next hlimit =>
        obtain ⟨y, hy, hx⟩ := Run.exists_of_bind_eq_ok hx
        obtain ⟨u, hu⟩ := ht.exists_repeated hy
        have hyx : x = y.1 := by
          split at hx
          · cases hx
            rfl
          · rw [hu.remaining_eq] at hx
            rw [eq_of_atMost hx h.isSuccess, if_neg hlimit]
        exact Or.inr (hrepeated ⟨u, hyx ▸ hu⟩)

end Parser

end TokenGrammar
