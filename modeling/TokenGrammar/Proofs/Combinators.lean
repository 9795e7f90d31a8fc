/-
# Corresponding parsers

Parsers correspond if they take corresponding windows to corresponding runs.  The primitive parsers
correspond to themselves, and every combinator makes corresponding parsers out of corresponding
ones.
-/
import TokenGrammar.Parser.Fold
import TokenGrammar.Parser.Regex
import TokenGrammar.Parser.Repeat
import TokenGrammar.Proofs.Correspondence

namespace TokenGrammar

namespace Correspondence

/-- Parsers that take corresponding windows to corresponding runs. -/
structure ParserRel (S : Correspondence) (p q : Parser) : Prop where
  description_eq : p.description = q.description
  parse : ∀ {r s}, S.window r s → S.RunRel S.ResultsRel (p.parse r) (q.parse s)

variable {S : Correspondence} {p p' q q' : Parser}

/-! ## Primitive parsers -/

/-- Two parsers for one accepted token decide by the token, which is the same. -/
theorem parserRel_satisfy (accepts : Datum → Except Fault Bool) (description : String) :
    S.ParserRel (.satisfy accepts description) (.satisfy accepts description) where
  description_eq := rfl
  parse {r s} h := by
    simp only [Parser.satisfy, isEmpty_eq h]
    cases he : s.isEmpty with
    | true => exact runRel_pure (resultsRel_fail (S.failure_at h _ _))
    | false =>
      have he' : r.isEmpty = false := isEmpty_eq h ▸ he
      obtain ⟨t, ht, ht'⟩ := exists_head_eq h he'
      simp only [Bool.false_eq_true, if_false, ht, ht', Run.ofSpan_ok, Run.pure_bind]
      refine runRel_bind (Q := Eq) (runRel_ofFault _ fun _ => rfl) ?_
      rintro accepted _ rfl
      cases accepted with
      | false => exact runRel_pure (resultsRel_fail (S.failure_at h _ _))
      | true =>
        refine runRel_bind (runRel_tail h (Span.one_le_length he')) fun _ _ hrest => ?_
        exact runRel_pure (resultsRel_single (.value t hrest))

/-- The parser that gives a value leaves its whole window. -/
theorem parserRel_succeed (v : Datum) : S.ParserRel (.succeed v) (.succeed v) where
  description_eq := rfl
  parse h := runRel_pure (resultsRel_single (.value v h))

/-- The parser that gives no value leaves its whole window. -/
theorem parserRel_empty : S.ParserRel .empty .empty where
  description_eq := rfl
  parse h := runRel_pure (resultsRel_single (.empty h))

/-- The parsers that always fail correspond if their failures do. -/
theorem parserRel_zero {f g : Failure} (h : S.failure f g) : S.ParserRel (.zero f) (.zero g) where
  description_eq := rfl
  parse _ := runRel_pure (resultsRel_fail h)

/-- The parsers that always halt correspond if their halts do. -/
theorem parserRel_halt {e e' : Halt} (h : S.halt e e') : S.ParserRel (.halt e) (.halt e') where
  description_eq := rfl
  parse _ := runRel_halt h

/-- The end of the input depends on the token that is in the way, which is the same. -/
theorem parserRel_done : S.ParserRel .done .done where
  description_eq := rfl
  parse {r s} h := by
    simp only [Parser.done, isEmpty_eq h]
    cases he : s.isEmpty with
    | true => exact runRel_pure (resultsRel_single (.empty h))
    | false =>
      obtain ⟨t, ht, ht'⟩ := exists_head_eq h (isEmpty_eq h ▸ he)
      simp only [Bool.false_eq_true, if_false, ht, ht', Run.ofSpan_ok, Run.pure_bind]
      cases ht : t.writable with
      | true =>
        rw [Failure.unexpected_of_writable ht, Failure.unexpected_of_writable ht]
        exact runRel_pure (resultsRel_fail (S.failure_at h _ _))
      | false =>
        rw [Failure.unexpected_of_not_writable ht, Failure.unexpected_of_not_writable ht]
        exact runRel_halt (S.halt_reflexive.fault _)

/-- A recogniser that cannot read a content halts on it in a way that corresponds to itself. -/
theorem halt_characters {c : Content} {bytes : Bool} {e : Halt}
    (h : c.characters bytes = .error e) : S.halt e e := by
  cases c <;> cases bytes <;>
    simp only [Content.characters, Except.error.injEq, reduceCtorEq] at h
  all_goals subst h
  all_goals first | exact S.halt_reflexive.fault _ | exact S.halt_reflexive.unreadable _

/-- A pattern sees the text in view only, and its match is as long on both sides. -/
theorem parserRel_regex (pattern : Recogniser) (description : String) :
    S.ParserRel (.regex pattern description) (.regex pattern description) where
  description_eq := rfl
  parse {r s} h := by
    -- both sides match against the same view
    have hview : r.source.content.extract r.start r.stop
        = s.source.content.extract s.start s.stop := S.view_eq h
    simp only [Parser.regex, hview, isEmpty_eq h]
    cases hc : (s.source.content.extract s.start s.stop).characters pattern.bytes with
    | error e => exact runRel_halt (halt_characters hc)
    | ok cs =>
      cases hm : pattern.matchLength? cs with
      | some n =>
        have hn : n ≤ r.length := by
          rw [length_eq h, ← Span.size_view, Span.view, ← Content.length_characters hc]
          exact pattern.matchLength?_le hm
        simp only [hm]
        refine runRel_bind (runRel_tail h hn) fun _ _ hrest => ?_
        exact runRel_pure (resultsRel_single (.value _ hrest))
      | none =>
        simp only [hm]
        cases he : s.isEmpty with
        | true => exact runRel_pure (resultsRel_fail (S.failure_at h _ _))
        | false =>
          obtain ⟨t, ht, ht'⟩ := exists_head_eq h (isEmpty_eq h ▸ he)
          rw [ht, ht']
          exact runRel_pure (resultsRel_fail (S.failure_at h _ _))

/-! ## Sequence, choice and discarding -/

namespace ParserRel

theorem describe (hp : S.ParserRel p p') (description : Option String) :
    S.ParserRel (p.describe description) (p'.describe description) where
  description_eq := rfl
  parse h := hp.parse h

/-- One parser after another. -/
theorem andThen (hp : S.ParserRel p p') (hq : S.ParserRel q q') :
    S.ParserRel (p.andThen q) (p'.andThen q') where
  description_eq := by simp only [Parser.andThen, hp.description_eq, hq.description_eq]
  parse h := by
    refine runRel_bind (hp.parse h) fun left left' hleft => ?_
    refine hleft.proceed fun _ _ hrest => ?_
    refine runRel_bind (hq.parse hrest) fun right right' hright => ?_
    rw [hright.isSuccess_eq]
    split
    · exact runRel_pure (hleft.append hright)
    · exact runRel_pure hright

/-- One parser or another: the choice is made by success, which is the same. -/
theorem orElse (hp : S.ParserRel p p') (hq : S.ParserRel q q') :
    S.ParserRel (p.orElse q) (p'.orElse q') where
  description_eq := by simp only [Parser.orElse, hp.description_eq, hq.description_eq]
  parse h := by
    refine runRel_bind (hp.parse h) fun x x' hx => ?_
    rw [hx.isSuccess_eq]
    split
    · exact runRel_pure hx
    · exact hq.parse h

/-- A parser or a default. -/
theorem optional (hp : S.ParserRel p p') (hq : S.ParserRel q q') :
    S.ParserRel (p.optional q) (p'.optional q') := by
  rw [Parser.optional, Parser.optional, hp.description_eq]
  exact (hp.orElse hq).describe _

/-- A parser whose values are dropped. -/
theorem ignore (hp : S.ParserRel p p') : S.ParserRel p.ignore p'.ignore where
  description_eq := hp.description_eq
  parse h := by
    refine runRel_bind (hp.parse h) fun _ _ hx => ?_
    exact hx.proceed fun _ _ hrest => runRel_pure (resultsRel_single (.empty hrest))

/-- A sequence that drops the values on the left. -/
theorem ignoreLeft (hp : S.ParserRel p p') (hq : S.ParserRel q q') :
    S.ParserRel (p.ignoreLeft q) (p'.ignoreLeft q') where
  description_eq := by simp only [Parser.ignoreLeft, hp.description_eq, hq.description_eq]
  parse h := by
    refine runRel_bind (hp.parse h) fun _ _ hleft => ?_
    exact hleft.proceed fun _ _ hrest => hq.parse hrest

/-- A sequence that drops the values on the right. -/
theorem ignoreRight (hp : S.ParserRel p p') (hq : S.ParserRel q q') :
    S.ParserRel (p.ignoreRight q) (p'.ignoreRight q') where
  description_eq := by simp only [Parser.ignoreRight, hp.description_eq, hq.description_eq]
  parse h := by
    refine runRel_bind (hp.parse h) fun _ _ hleft => ?_
    refine hleft.proceed fun _ _ hrest => ?_
    refine runRel_bind (hq.parse hrest) fun _ _ hright => ?_
    exact hright.proceed fun _ _ hresumed => runRel_pure (hleft.resume hresumed)

/-! ## Computing on values -/

/-- A parser whose values are combined. -/
theorem fold (hp : S.ParserRel p p') (combine : List Datum → Except Fault Datum)
    (allowEmpty : Bool) :
    S.ParserRel (p.fold combine allowEmpty) (p'.fold combine allowEmpty) where
  description_eq := hp.description_eq
  parse h := by
    refine runRel_bind (hp.parse h) fun _ _ hx => ?_
    refine hx.proceed fun _ _ hrest => ?_
    rw [hx.values_eq]
    split
    · exact runRel_pure (resultsRel_single (.empty hrest))
    · refine runRel_bind (Q := Eq) (runRel_ofFault _ fun _ => rfl) ?_
      rintro v _ rfl
      exact runRel_pure (resultsRel_single (.value v hrest))

/-- A parser whose values are changed. -/
theorem lift (hp : S.ParserRel p p') (f : Datum → Except Fault Datum) :
    S.ParserRel (p.lift f) (p'.lift f) where
  description_eq := hp.description_eq
  parse h := runRel_bind (hp.parse h) fun _ _ hx => hx.map f

/-- A parser that goes on by its values, which are the same. -/
theorem bind (hp : S.ParserRel p p') {k k' : Datum → Parser}
    (hk : ∀ v, S.ParserRel (k v) (k' v)) : S.ParserRel (p.bind k) (p'.bind k') where
  description_eq := hp.description_eq
  parse h := by
    refine runRel_bind (hp.parse h) fun _ _ hx => hx.bind fun o o' ho => ?_
    cases ho with
    | value v hrest => exact (hk v).parse hrest
    -- outcomes without a value stay in place
    | empty hrest => exact runRel_pure (resultsRel_single (.empty hrest))
    | failure hf => exact runRel_pure (resultsRel_single (.failure hf))

end ParserRel

/-- The search for a rejected value ends alike.  It remembers where a corresponding pair of windows
starts, since failures among the outcomes do not move that place. -/
theorem runRel_findRejected (accepts : Datum → Except Fault Bool) (description : Option String)
    {os ps : List Outcome} (h : List.Forall₂ S.OutcomeRel os ps) {r s : Span}
    (hrs : S.window r s) :
    S.RunRel (Option.Rel S.failure)
      (Run.ofFault (Parser.findRejected accepts description r.start os))
      (Run.ofFault (Parser.findRejected accepts description s.start ps)) := by
  induction h generalizing r s with
  | nil => exact runRel_pure .none
  | cons ho _ ih =>
    cases ho with
    | value v hrest =>
      simp only [Parser.findRejected]
      cases accepts v with
      | error cause => exact runRel_halt (S.halt_reflexive.fault cause)
      | ok accepted =>
        cases accepted with
        | true => exact ih hrest
        | false => exact runRel_pure (.some (S.failure_at hrs _ _))
    | empty hrest => exact ih hrest
    | failure _ => exact ih hrs

/-- A parser whose values are checked: what is rejected is rejected at corresponding places. -/
theorem ParserRel.check (hp : S.ParserRel p p') (accepts : Datum → Except Fault Bool)
    (description : Option String) :
    S.ParserRel (p.check accepts description) (p'.check accepts description) where
  description_eq := rfl
  parse h := by
    refine runRel_bind (hp.parse h) fun _ _ hx => ?_
    rw [hx.isSuccess_eq]
    split
    · refine runRel_bind (runRel_findRejected accepts description hx h) fun _ _ hf => ?_
      cases hf with
      | some hf => exact runRel_pure (resultsRel_fail hf)
      | none => exact runRel_pure hx
    · exact runRel_pure hx

/-! ## Repetition -/

namespace ParserRel

variable (hp : S.ParserRel p p')
include hp

/-- Corresponding parsers have the same label. -/
theorem label_eq : p.label = p'.label := by
  rw [Parser.label, Parser.label, hp.description_eq]

/-- The applications after the first one correspond one by one, so that both loops stop after the
same number of them and for the same reason. -/
theorem again (room : Nat) {r s : Span} (h : S.window r s) :
    S.RunRel (fun a b => List.Forall₂ S.OutcomeRel a.1 b.1 ∧ a.2 = b.2)
      (p.again room r) (p'.again room s) := by
  induction room generalizing r s with
  | zero => exact runRel_pure ⟨.nil, rfl⟩
  | succ room ih =>
    refine runRel_bind (hp.parse h) fun x x' hx => ?_
    rw [hx.isSuccess_eq]
    cases hsuc : x'.isSuccess with
    | false => exact runRel_pure ⟨.nil, rfl⟩
    | true =>
      obtain ⟨after, after', ha, ha', hafter⟩ := hx.exists_remaining (hx.isSuccess_eq ▸ hsuc)
      -- whether the start has moved is the same question on both sides
      simp only [ha, ha', S.start_eq_iff h hafter, hp.description_eq, if_true]
      split
      · refine runRel_bind (runRel_note (S.stalled_at h _)) fun _ _ _ => ?_
        exact runRel_pure ⟨.nil, rfl⟩
      · refine runRel_bind (ih hafter) fun a b hab => ?_
        exact runRel_pure ⟨List.rel_append hx hab.1, hab.2⟩

/-- A bounded repetition of corresponding parsers, begun with corresponding successes. -/
theorem repeatFrom {x x' : Results} (hx : S.ResultsRel x x') (hsuc : x.isSuccess = true)
    (limit : Nat) :
    S.RunRel (fun a b => S.ResultsRel a.1 b.1 ∧ a.1.isSuccess = true ∧ a.2 = b.2)
      (p.repeatFrom x limit) (p'.repeatFrom x' limit) := by
  obtain ⟨rest, rest', hr, hr', hrest⟩ := hx.exists_remaining hsuc
  rw [Parser.repeatFrom, Parser.repeatFrom]
  cases limit - 1 with
  | zero => exact runRel_pure ⟨hx, hsuc, rfl⟩
  | succ room =>
    simp only [hr, hr']
    refine runRel_bind (hp.again (room + 1) hrest) fun a b hab => ?_
    exact runRel_pure ⟨hx.extend hab.1, hsuc, hab.2⟩

/-- The look at one application more than a bound allows. -/
theorem atMost (bound : Bound) {x x' : Results} (hx : S.ResultsRel x x') {r s : Span}
    (h : S.window r s) :
    S.RunRel S.ResultsRel (p.atMost bound x (some r)) (p'.atMost bound x' (some s)) := by
  refine runRel_bind (hp.parse h) fun extra extra' hextra => ?_
  have hmoved : (extra.isSuccess && r.advanced extra.remaining)
      = (extra'.isSuccess && s.advanced extra'.remaining) := by
    rw [hextra.isSuccess_eq]
    cases hsuc : extra'.isSuccess with
    | false => rfl
    | true =>
      obtain ⟨after, after', ha, ha', hafter⟩ :=
        hextra.exists_remaining (hextra.isSuccess_eq ▸ hsuc)
      rw [ha, ha', Bool.true_and, Bool.true_and, Bool.eq_iff_iff]
      simp [Span.advanced, S.start_eq_iff h hafter]
  rw [hmoved]
  split
  · exact runRel_pure (resultsRel_fail (S.failure_at h _ _))
  · split
    · exact runRel_pure (resultsRel_single (.empty h))
    · exact runRel_pure hx

end ParserRel

/-- Repetitions without a bound of their own correspond when they go on from corresponding
successes.  The two caps need not be the same. -/
def FreeRel (S : Correspondence) (cap cap' : Int) (p p' : Parser) : Prop :=
  ∀ x x', S.ResultsRel x x' → x.isSuccess = true →
    S.RunRel S.ResultsRel (p.repeatFreely cap x) (p'.repeatFreely cap' x')

namespace ParserRel

variable (hp : S.ParserRel p p') {cap cap' : Int}
include hp

/-- Under one cap, repetitions correspond as soon as the notices about the cap do. -/
theorem freeRel (hcap : ∀ description count,
    S.notice (.capped description count) (.capped description count)) :
    S.FreeRel cap cap p p' := by
  intro x x' hx hsuc
  refine runRel_bind (hp.repeatFrom hx hsuc cap.toNat) ?_
  rintro ⟨y, ended⟩ ⟨y', ended'⟩ ⟨hy, -, hended⟩
  cases hended
  cases ended with
  | true => exact runRel_pure hy
  | false =>
    rw [hp.description_eq]
    exact runRel_bind (runRel_note (hcap _ _)) fun _ _ _ => runRel_pure hy

/-- The repetition that needs a match. -/
theorem oneOrMore (hfree : S.FreeRel cap cap' p p') (bound : Option Bound) :
    S.ParserRel (p.oneOrMore cap bound) (p'.oneOrMore cap' bound) where
  description_eq := by simp only [Parser.oneOrMore, hp.label_eq]
  parse h := by
    refine runRel_bind (hp.parse h) fun x x' hx => ?_
    rw [hx.isSuccess_eq]
    cases hsuc : x'.isSuccess with
    | false => exact runRel_pure (resultsRel_fail (S.failure_at h _ _))
    | true =>
      have hsuc' : x.isSuccess = true := hx.isSuccess_eq ▸ hsuc
      cases bound with
      | none => exact hfree x x' hx hsuc'
      | some b =>
        exact runRel_bind (hp.repeatFrom hx hsuc' b.limit) fun _ _ hy => runRel_pure hy.1

/-- The repetition that can do without a match. -/
theorem zeroOrMore (hfree : S.FreeRel cap cap' p p') (bound : Option Bound) :
    S.ParserRel (p.zeroOrMore cap bound) (p'.zeroOrMore cap' bound) where
  description_eq := by simp only [Parser.zeroOrMore, hp.label_eq]
  parse {r s} h := by
    refine runRel_bind (hp.parse h) fun x x' hx => ?_
    rw [hx.isSuccess_eq]
    cases hsuc : x'.isSuccess with
    | false => exact runRel_pure (resultsRel_single (.empty h))
    | true =>
      have hsuc' : x.isSuccess = true := hx.isSuccess_eq ▸ hsuc
      cases bound with
      | none => exact hfree x x' hx hsuc'
      | some b =>
        simp only [if_true]
        split
        · exact hp.atMost _ hx h
        · refine runRel_bind (hp.repeatFrom hx hsuc' b.limit) ?_
          rintro ⟨y, ended⟩ ⟨y', ended'⟩ ⟨hy, hysuc, hended⟩
          cases hended
          cases ended with
          | true => exact runRel_pure hy
          | false =>
            -- the bound is used up, and one more application is tried from the same place
            obtain ⟨rest, rest', hr, hr', hrest⟩ := hy.exists_remaining hysuc
            simp only [hr, hr']
            exact hp.atMost b hy hrest

end ParserRel

end Correspondence

end TokenGrammar
