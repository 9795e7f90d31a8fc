/-
# Outcomes in order

Without `bind` the results of a parse have one of two shapes: a lone failure, or successes only,
each of which goes on inside the window that the one before it left.  Each combinator keeps this
shape, because it hands a failure on alone and adds outcomes only where the last success goes on.
-/
import TokenGrammar.Proofs.Totality

namespace TokenGrammar

/-- A window is advanced to a window inside it. -/
theorem Span.within_of_tail {r s : Span} {n : Int} (h : r.tail n = .ok s) : s.Within r := by
  obtain ⟨k, -, hk, rfl⟩ := exists_drop_of_tail h
  exact (Within.refl r).drop k hk

namespace Results

/-! ## Successes one after the other -/

/-- Successes that go on from a window, one after the other, each of them inside the window that the
one before it left.  The last one leaves the window that they lead to. -/
inductive Leads : Span → List Outcome → Span → Prop where
  | nil (r : Span) : Leads r [] r
  | cons {r s t : Span} {o : Outcome} {os : List Outcome} (ho : o.rest? = some s)
      (hs : s.Within r) (hos : Leads s os t) : Leads r (o :: os) t

variable {r s t : Span} {o : Outcome} {os ps : List Outcome} {x : Results}

namespace Leads

/-- One outcome leads to its rest. -/
theorem single (ho : o.rest? = some s) (hs : s.Within r) : Leads r [o] s :=
  .cons ho hs (.nil s)

/-- Outcomes lead to a window inside the one they start from. -/
theorem within (h : Leads r os s) : s.Within r := by
  induction h with
  | nil r => exact .refl r
  | cons _ hs _ ih => exact ih.trans hs

/-- Outcomes that lead on from where others end. -/
theorem append (hos : Leads r os s) (hps : Leads s ps t) : Leads r (os ++ ps) t := by
  induction hos with
  | nil r => exact hps
  | cons ho hs _ ih => exact .cons ho hs (ih hps)

/-- What leads on from a window leads on from every window around it. -/
theorem widen (h : Leads s (o :: os) t) (hs : s.Within r) : Leads r (o :: os) t := by
  cases h with
  | cons ho hs' hos => exact .cons ho (hs'.trans hs) hos

/-- Outcomes lead to the last rest, or to where they start if there is none. -/
theorem lastRest?_orElse_eq (h : Leads r os s) : (lastRest? os <|> some r) = some s := by
  induction h with
  | nil r => rfl
  | @cons r s t o os ho _ _ ih =>
    have hfirst : (lastRest? [o] <|> some r) = some s := by
      rw [lastRest?, ho]
      rfl
    exact lastRest?_append_orElse hfirst ih

/-- Parsing goes on from the window that the successes lead to. -/
theorem remaining_eq (h : Leads r x.toList s) : x.remaining = some s := by
  cases h with
  | cons ho _ hos =>
    rw [remaining, toList, lastRest?, ho]
    exact hos.lastRest?_orElse_eq

/-- The last success leaves the window that all of them lead to. -/
theorem rest?_getLastD (h : Leads r (o :: os) s) : (os.getLastD o).rest? = some s := by
  induction os generalizing r o with
  | nil =>
    cases h with
    | cons ho _ hos =>
      cases hos
      exact ho
  | cons p ps ih =>
    cases h with
    | cons _ _ hos =>
      rw [List.getLastD_cons]
      exact ih hos

/-- The windows that the successes leave, whose starts never decrease. -/
theorem exists_rests (h : Leads r os s) :
    ∃ rests : List Span, os.map Outcome.rest? = rests.map some ∧
      (r.start :: rests.map Span.start).Pairwise (· ≤ ·) := by
  induction h with
  | nil r => exact ⟨[], rfl, List.pairwise_singleton _ _⟩
  | @cons r s t o os ho hs _ ih =>
    obtain ⟨rests, hrests, hsorted⟩ := ih
    refine ⟨s :: rests, ?_, ?_⟩
    · rw [List.map_cons, List.map_cons, ho, hrests]
    · refine List.Pairwise.cons ?_ hsorted
      intro i hi
      -- what begins after `s` begins after `r`
      rcases List.mem_cons.1 hi with rfl | hi
      · exact hs.start_le
      · exact Nat.le_trans hs.start_le (List.rel_of_pairwise_cons hsorted hi)

/-- Moving the last success forward moves the window that all of them lead to. -/
theorem exists_moveLast (h : Leads r (o :: os) s) (ht : t.Within s) :
    ∃ moved, moveLast t (o :: os) = some moved ∧ Leads r moved t := by
  generalize hl : o :: os = l at h
  induction h generalizing o os with
  | nil => cases hl
  | @cons r s u o' os' ho hs hos ih =>
    cases os' with
    | nil =>
      cases hos
      have hfailure : o'.isFailure = false := Outcome.isFailure_of_rest? ho
      refine ⟨[o'.moveTo t], ?_, .single (Outcome.rest?_moveTo t hfailure) (ht.trans hs)⟩
      simp [moveLast, hfailure]
    | cons p ps =>
      obtain ⟨moved, hmoved, hleads⟩ := ih ht rfl
      refine ⟨o' :: moved, ?_, .cons ho hs hleads⟩
      rw [moveLast, hmoved]

/-- No failure is among them. -/
theorem isFailure_eq_false (h : Leads r os s) : ∀ p ∈ os, p.isFailure = false := by
  induction h with
  | nil => exact nofun
  | cons ho _ _ ih => exact List.forall_mem_cons.2 ⟨Outcome.isFailure_of_rest? ho, ih⟩

/-- Another value leaves the same window. -/
theorem mapM_outcome (ho : o.rest? = some s) (f : Datum → Except Fault Datum) :
    (o.mapM fun v => Run.ofFault (f v)).Meets (fun _ => True) fun p => p.rest? = some s := by
  cases o with
  | value v rest => exact (Run.meets_ofFault fun _ _ => trivial).bind fun _ _ _ => ho
  | empty rest => exact Run.meets_pure ho
  | failure f => cases ho

/-- Changed values lead to the same window. -/
theorem mapM_list (h : Leads r os s) (f : Datum → Except Fault Datum) :
    (os.mapM (Outcome.mapM fun v => Run.ofFault (f v))).Meets (fun _ => True)
      fun ps => Leads r ps s := by
  induction h with
  | nil r => exact Run.meets_pure (.nil r)
  | cons ho hs _ ih =>
    rw [List.mapM_cons]
    refine (mapM_outcome ho f).bind fun p _ hp => ?_
    exact ih.bind fun ps _ hps => Run.meets_pure (.cons hp hs hps)

/-- Successes with other values lead to the same window. -/
theorem map (h : Leads r x.toList s) (f : Datum → Except Fault Datum) :
    (x.map f).Meets (fun _ => True) fun y => Leads r y.toList s := by
  cases h with
  | cons ho hs hos =>
    refine (mapM_outcome ho _).bind fun head _ hhead => ?_
    exact (mapM_list hos _).bind fun tail _ htail => Run.meets_pure (.cons hhead hs htail)

end Leads

/-! ## Results in order -/

/-- A lone failure, or successes only, which lead on from `r`. -/
def InOrder (r : Span) (x : Results) : Prop :=
  (∃ f, x = .fail f) ∨ ∃ s, Leads r x.toList s

/-- A single failure is in order. -/
theorem inOrder_fail (f : Failure) : (fail f).InOrder r :=
  Or.inl ⟨f, rfl⟩

/-- A value that leaves a window inside is in order. -/
theorem inOrder_value (v : Datum) (hs : s.Within r) : (Results.single (.value v s)).InOrder r :=
  Or.inr ⟨s, .single rfl hs⟩

/-- A success without a value that leaves a window inside is in order. -/
theorem inOrder_empty (hs : s.Within r) : (Results.single (.empty s)).InOrder r :=
  Or.inr ⟨s, .single rfl hs⟩

namespace InOrder

/-- Results in order stay so for a wider window. -/
theorem widen (hx : x.InOrder s) (hs : s.Within r) : x.InOrder r := by
  rcases hx with hfail | ⟨t, ht⟩
  · exact Or.inl hfail
  · exact Or.inr ⟨t, ht.widen hs⟩

/-- A success leads to the window that it leaves. -/
theorem exists_leads (hx : x.InOrder r) (hsuc : x.isSuccess = true) :
    ∃ s, x.remaining = some s ∧ Leads r x.toList s := by
  rcases hx with ⟨f, rfl⟩ | ⟨s, hs⟩
  · cases hsuc
  · exact ⟨s, hs.remaining_eq, hs⟩

/-- A failure is final, and a success is gone on from where it leads to. -/
theorem proceed (hx : x.InOrder s) (hs : s.Within r) {k : Span → Run Results}
    (hk : ∀ t, Leads s x.toList t → (k t).Meets (fun _ => True) (InOrder r)) :
    (x.proceed k).Meets (fun _ => True) (InOrder r) := by
  cases hsuc : x.isSuccess with
  | false =>
    rw [proceed_of_failure hsuc]
    exact Run.meets_pure (hx.widen hs)
  | true =>
    obtain ⟨t, ht, hleads⟩ := hx.exists_leads hsuc
    rw [proceed_of_success hsuc ht]
    exact hk t hleads

end InOrder

/-- Where the last success is moved, all other outcomes stay. -/
theorem toList_resume {moved : List Outcome} (h : moveLast t x.toList = some moved) :
    (x.resume t).toList = moved := by
  rw [toList, moveLast] at h
  rw [resume]
  cases htail : moveLast t x.tail with
  | some more =>
    rw [htail] at h
    exact Option.some.inj h
  | none =>
    simp only [htail] at h
    split at h
    · cases h
    · exact Option.some.inj h

end Results

/-! ## Combinators -/

/-- Wherever it is applied, the parser gives results in order. -/
def Parser.InOrder (p : Parser) : Prop :=
  ∀ r, (p.parse r).Meets (fun _ => True) (Results.InOrder r)

namespace Parser

open Results (inOrder_fail inOrder_value inOrder_empty)

variable {p q : Parser}

/-- Advancing leads to a window inside, if it leads anywhere. -/
theorem meets_tail (r : Span) (n : Int) :
    (Run.ofSpan (r.tail n)).Meets (fun _ => True) fun s => s.Within r := by
  cases h : r.tail n with
  | ok s => exact Run.meets_pure (Span.within_of_tail h)
  | error cause => trivial

/-- Nothing needs to be known about a head. -/
theorem meets_head (r : Span) : (Run.ofSpan r.head).Meets (fun _ => True) fun _ => True := by
  cases r.head with
  | ok t => exact Run.meets_pure trivial
  | error cause => trivial

/-- One accepted token is in order. -/
theorem inOrder_satisfy (accepts : Datum → Except Fault Bool) (description : String) :
    (satisfy accepts description).InOrder := by
  intro r
  simp only [satisfy]
  split
  · exact Run.meets_pure (inOrder_fail _)
  · refine (meets_head r).bind fun t _ _ => ?_
    refine (Run.meets_ofFault fun _ _ => trivial).bind fun accepted _ _ => ?_
    split
    · exact (meets_tail r 1).bind fun s _ hs => Run.meets_pure (inOrder_value t hs)
    · exact Run.meets_pure (inOrder_fail _)

/-- The match of a pattern is in order. -/
theorem inOrder_regex (pattern : Recogniser) (description : String) :
    (regex pattern description).InOrder := by
  intro r
  simp only [regex]
  split
  · trivial
  · split
    · exact (meets_tail r _).bind fun s _ hs => Run.meets_pure (inOrder_value _ hs)
    · split
      · exact Run.meets_pure (inOrder_fail _)
      · exact (meets_head r).bind fun t _ _ => Run.meets_pure (inOrder_fail _)

/-- A value on the spot is in order. -/
theorem inOrder_succeed (v : Datum) : (succeed v).InOrder :=
  fun r => Run.meets_pure (inOrder_value v (.refl r))

/-- A success on the spot is in order. -/
theorem inOrder_empty : empty.InOrder :=
  fun r => Run.meets_pure (Results.inOrder_empty (.refl r))

/-- The end of the input is in order. -/
theorem inOrder_done : done.InOrder := by
  intro r
  simp only [done]
  split
  · exact Run.meets_pure (Results.inOrder_empty (.refl r))
  · refine (meets_head r).bind fun t _ _ => ?_
    exact (Run.meets_ofFault fun _ _ => trivial).bind fun f _ _ => Run.meets_pure (inOrder_fail f)

/-- A failure of any kind is in order. -/
theorem inOrder_zero (f : Failure) : (zero f).InOrder :=
  fun _ => Run.meets_pure (inOrder_fail f)

/-- A parser that always halts gives no outcomes. -/
theorem inOrder_halt (e : Halt) : (halt e).InOrder :=
  fun _ => trivial

namespace InOrder

theorem describe (hp : p.InOrder) (description : Option String) :
    (p.describe description).InOrder := hp

/-- The outcomes of a sequence: those of the second parser begin where the first one leads. -/
theorem andThen (hp : p.InOrder) (hq : q.InOrder) : (p.andThen q).InOrder := by
  intro r
  refine (hp r).bind fun left _ hleft => hleft.proceed (.refl r) fun s hs => ?_
  refine (hq s).bind fun right _ hright => Run.meets_pure ?_
  split
  · next hsuc =>
    obtain ⟨t, -, ht⟩ := hright.exists_leads hsuc
    exact Or.inr ⟨t, hs.append ht⟩
  · exact hright.widen hs.within

/-- The outcomes of a choice are those of one of its parsers. -/
theorem orElse (hp : p.InOrder) (hq : q.InOrder) : (p.orElse q).InOrder := by
  intro r
  refine (hp r).bind fun x _ hx => ?_
  split
  · exact Run.meets_pure hx
  · exact hq r

/-- The outcomes of a parser or of a default. -/
theorem optional (hp : p.InOrder) (hq : q.InOrder) : (p.optional q).InOrder :=
  (hp.orElse hq).describe _

/-- One success without a value, which leaves what the parser leaves. -/
theorem ignore (hp : p.InOrder) : p.ignore.InOrder := by
  intro r
  refine (hp r).bind fun x _ hx => hx.proceed (.refl r) fun s hs => ?_
  exact Run.meets_pure (Results.inOrder_empty hs.within)

/-- The outcomes on the right, behind those on the left. -/
theorem ignoreLeft (hp : p.InOrder) (hq : q.InOrder) : (p.ignoreLeft q).InOrder := by
  intro r
  refine (hp r).bind fun left _ hleft => hleft.proceed (.refl r) fun s hs => ?_
  exact (hq s).mono fun right hright => hright.widen hs.within

/-- The outcomes on the left, of which the last success is moved to where the right leads. -/
theorem ignoreRight (hp : p.InOrder) (hq : q.InOrder) : (p.ignoreRight q).InOrder := by
  intro r
  refine (hp r).bind fun left _ hleft => hleft.proceed (.refl r) fun s hs => ?_
  refine (hq s).bind fun right _ hright => hright.proceed hs.within fun t ht => ?_
  -- the last success on the left is moved to where the right one leads to
  obtain ⟨moved, hmoved, hleads⟩ := hs.exists_moveLast ht.within
  refine Run.meets_pure (Or.inr ⟨t, ?_⟩)
  rw [Results.toList_resume hmoved]
  exact hleads

/-- One outcome, which leaves what the parser leaves. -/
theorem fold (hp : p.InOrder) (combine : List Datum → Except Fault Datum) (allowEmpty : Bool) :
    (p.fold combine allowEmpty).InOrder := by
  intro r
  refine (hp r).bind fun x _ hx => hx.proceed (.refl r) fun s hs => ?_
  split
  · exact Run.meets_pure (Results.inOrder_empty hs.within)
  · refine (Run.meets_ofFault fun _ _ => trivial).bind fun v _ _ => ?_
    exact Run.meets_pure (inOrder_value v hs.within)

/-- Changed values. -/
theorem lift (hp : p.InOrder) (f : Datum → Except Fault Datum) : (p.lift f).InOrder := by
  intro r
  refine (hp r).bind fun x _ hx => ?_
  rcases hx with ⟨g, rfl⟩ | ⟨s, hs⟩
  · exact Run.meets_pure (inOrder_fail g)
  · exact (hs.map f).mono fun y hy => Or.inr ⟨s, hy⟩

/-- Checked values. -/
theorem check (hp : p.InOrder) (accepts : Datum → Except Fault Bool)
    (description : Option String) : (p.check accepts description).InOrder := by
  intro r
  refine (hp r).bind fun x _ hx => ?_
  split
  · refine (Run.meets_ofFault fun _ _ => trivial).bind fun rejected _ _ => ?_
    cases rejected with
    | some f => exact Run.meets_pure (inOrder_fail f)
    | none => exact Run.meets_pure hx
  · exact Run.meets_pure hx

/-! ### Repetition -/

/-- The applications of a loop go on from each other. -/
theorem again (hp : p.InOrder) (room : Nat) (s : Span) :
    (p.again room s).Meets (fun _ => True) fun y => ∃ t, Results.Leads s y.1 t := by
  induction room generalizing s with
  | zero => exact Run.meets_pure ⟨s, .nil s⟩
  | succ room ih =>
    refine (hp s).bind fun x _ hx => ?_
    cases hsuc : x.isSuccess with
    | false => exact Run.meets_pure ⟨s, .nil s⟩
    | true =>
      obtain ⟨t, ht, hleads⟩ := hx.exists_leads hsuc
      simp only [ht, if_true]
      split
      · exact (Run.meets_pure ⟨s, .nil s⟩).note _
      · refine (ih t).bind fun y _ hy => Run.meets_pure ?_
        obtain ⟨u, hu⟩ := hy
        exact ⟨u, hleads.append hu⟩

variable {r s : Span} {x : Results}

/-- The outcomes of a repetition lead from each application to the next. -/
theorem repeatFrom (hp : p.InOrder) (hx : x.InOrder r) (hsuc : x.isSuccess = true) (limit : Nat) :
    (p.repeatFrom x limit).Meets (fun _ => True) fun y =>
      ∃ t, y.1.remaining = some t ∧ Results.Leads r y.1.toList t := by
  obtain ⟨s, hs, hleads⟩ := hx.exists_leads hsuc
  rw [repeatFrom_eq_again hs]
  refine (hp.again _ s).bind fun y _ hy => Run.meets_pure ?_
  obtain ⟨t, ht⟩ := hy
  have horder : (x.extend y.1).InOrder r := Or.inr ⟨t, hleads.append ht⟩
  exact horder.exists_leads hsuc

/-- The outcomes of a repetition without a bound are in order. -/
theorem repeatFreely (hp : p.InOrder) (hx : x.InOrder r) (hsuc : x.isSuccess = true) (cap : Int) :
    (p.repeatFreely cap x).Meets (fun _ => True) (Results.InOrder r) := by
  refine (hp.repeatFrom hx hsuc cap.toNat).bind fun y _ hy => ?_
  obtain ⟨y, ended⟩ := y
  obtain ⟨t, -, ht⟩ := hy
  have horder : y.InOrder r := Or.inr ⟨t, ht⟩
  cases ended with
  | true => exact Run.meets_pure horder
  | false => exact (Run.meets_pure horder).note _

/-- The look at one application more than a bound allows keeps the order. -/
theorem atMost (hp : p.InOrder) (bound : Bound) (hx : x.InOrder r) (hs : s.Within r) :
    (p.atMost bound x (some s)).Meets (fun _ => True) (Results.InOrder r) := by
  refine (hp s).bind fun extra _ _ => ?_
  split
  · exact Run.meets_pure (inOrder_fail _)
  · split
    · exact Run.meets_pure (Results.inOrder_empty hs)
    · exact Run.meets_pure hx

/-- The repetition that needs a match. -/
theorem oneOrMore (hp : p.InOrder) (cap : Int) (bound : Option Bound) :
    (p.oneOrMore cap bound).InOrder := by
  intro r
  refine (hp r).bind fun x _ hx => ?_
  cases hsuc : x.isSuccess with
  | false => exact Run.meets_pure (inOrder_fail _)
  | true =>
    cases bound with
    | none => exact hp.repeatFreely hx hsuc cap
    | some b =>
      refine (hp.repeatFrom hx hsuc b.limit).bind fun y _ hy => ?_
      obtain ⟨t, -, ht⟩ := hy
      exact Run.meets_pure (Or.inr ⟨t, ht⟩)

/-- The repetition that can do without a match. -/
theorem zeroOrMore (hp : p.InOrder) (cap : Int) (bound : Option Bound) :
    (p.zeroOrMore cap bound).InOrder := by
  intro r
  refine (hp r).bind fun x _ hx => ?_
  cases hsuc : x.isSuccess with
  | false => exact Run.meets_pure (Results.inOrder_empty (.refl r))
  | true =>
    cases bound with
    | none => exact hp.repeatFreely hx hsuc cap
    | some b =>
      simp only [if_true]
      split
      · exact hp.atMost _ hx (.refl r)
      · refine (hp.repeatFrom hx hsuc b.limit).bind fun y _ hy => ?_
        obtain ⟨t, hrest, ht⟩ := hy
        split
        · exact Run.meets_pure (Or.inr ⟨t, ht⟩)
        · rw [hrest]
          exact hp.atMost b (Or.inr ⟨t, ht⟩) ht.within

end InOrder

end Parser

/-! ## Grammars -/

namespace Grammar

variable {names : Names}

/-- Whether the grammar itself is a `bind`. -/
def IsBind : Grammar → Prop
  | .bind _ _ => True
  | _ => False

/-- A grammar in which no `bind` occurs gives results in order as soon as its references do. -/
theorem inOrder_of_references {cap : Int} (apply : String → Span → Run Results) (g : Grammar)
    (hg : g.Everywhere names fun h => ¬ h.IsBind)
    (href : g.References names Parser.InOrder apply cap) : (g.parser apply cap).InOrder := by
  induction g with
  | satisfy accepts description => exact Parser.inOrder_satisfy accepts description
  | regex pattern description => exact Parser.inOrder_regex pattern description
  | succeed v => exact Parser.inOrder_succeed v
  | empty => exact Parser.inOrder_empty
  | done => exact Parser.inOrder_done
  | zero f => exact Parser.inOrder_zero f
  | andThen p q ihp ihq =>
    exact (ihp (hg.part (.inl rfl)) (href.part (.inl rfl))).andThen
      (ihq (hg.part (.inr rfl)) (href.part (.inr rfl)))
  | orElse p q ihp ihq =>
    exact (ihp (hg.part (.inl rfl)) (href.part (.inl rfl))).orElse
      (ihq (hg.part (.inr rfl)) (href.part (.inr rfl)))
  | ignore p ih => exact (ih (hg.part rfl) (href.part rfl)).ignore
  | ignoreLeft p q ihp ihq =>
    exact (ihp (hg.part (.inl rfl)) (href.part (.inl rfl))).ignoreLeft
      (ihq (hg.part (.inr rfl)) (href.part (.inr rfl)))
  | ignoreRight p q ihp ihq =>
    exact (ihp (hg.part (.inl rfl)) (href.part (.inl rfl))).ignoreRight
      (ihq (hg.part (.inr rfl)) (href.part (.inr rfl)))
  | oneOrMore p bound ih => exact (ih (hg.part rfl) (href.part rfl)).oneOrMore cap bound
  | zeroOrMore p bound ih => exact (ih (hg.part rfl) (href.part rfl)).zeroOrMore cap bound
  | optional p default ih =>
    refine (ih (hg.part rfl) (href.part rfl)).optional ?_
    cases default with
    | none => exact Parser.inOrder_empty
    | some v => exact Parser.inOrder_succeed v
  | fold p combine allowEmpty ih =>
    exact (ih (hg.part rfl) (href.part rfl)).fold combine allowEmpty
  | lift p f ih => exact (ih (hg.part rfl) (href.part rfl)).lift f
  | check p accepts description ih =>
    exact (ih (hg.part rfl) (href.part rfl)).check accepts description
  | bind p k => exact (hg.self trivial).elim
  | describe p description ih =>
    exact (ih (hg.part rfl) (href.part rfl)).describe description
  | reference name description => exact href.self name description rfl
  | fault cause => exact Parser.inOrder_halt (.fault cause)
  | notParser => exact Parser.inOrder_halt (.breach .notParser)

/-- The parser of a grammar without continuations gives outcomes in order. -/
theorem inOrder_parserIn {g : Grammar} (hg : g.Everywhere names fun h => ¬ h.IsBind) (cap : Int)
    (depth : Nat) : (g.parserIn names cap depth).InOrder :=
  parserIn_of_references Parser.inOrder_halt (fun _ description hp => hp.describe description)
    inOrder_of_references depth g hg

/-- **Without `bind`, results are one failure or successes in order.**  Whenever a grammar in which
no `bind` occurs gives results, they are a failure alone or contain no failure.  In the second case
every outcome leaves a window; the starts of these windows never decrease and begin at or after the
start of the given one, and the last outcome leaves the window that the parse goes on from. -/
theorem parse_inOrder {g : Grammar} (hg : g.Everywhere names fun h => ¬ h.IsBind) {cap : Int}
    {depth : Nat} {r : Span} {x : Results}
    (hx : ((g.parserIn names cap depth).parse r).result = .ok x) :
    (∃ f, x.toList = [.failure f]) ∨
      (∀ o ∈ x.toList, o.isFailure = false) ∧
      (∃ rests : List Span, x.toList.map Outcome.rest? = rests.map some ∧
        (r.start :: rests.map Span.start).Pairwise (· ≤ ·)) ∧
      ∃ rest, x.remaining = some rest ∧ x.last.rest? = some rest := by
  have horder := inOrder_parserIn hg cap depth r
  rw [Run.Meets, hx] at horder
  rcases horder with ⟨f, rfl⟩ | ⟨s, hs⟩
  · exact Or.inl ⟨f, rfl⟩
  · exact Or.inr ⟨hs.isFailure_eq_false, hs.exists_rests, s, hs.remaining_eq, hs.rest?_getLastD⟩

/-- The case of words of one letter with a comma behind each, in the middle of a text: the last
letter of a word leaves the window behind its comma, and the word without a comma is left over. -/
theorem parse_inOrder_words :
    let word : Grammar := (Grammar.oneOrMore (.token (Datum.char 'a')) none).ignoreRight
      (.reference "comma" none)
    let names : Names := fun _ => some (.token (Datum.char ','))
    let g : Grammar := .zeroOrMore word none
    let window (i : Nat) (h : i ≤ 7) : Span :=
      { source := .ofText "xaa,a,ay".toList, start := i, stop := 7, start_le_stop := h,
        stop_le_size := by decide }
    let r := window 1 (by decide)
    let x : Results :=
      { head := .value (Datum.char 'a') (window 2 (by decide))
        tail := [.value (Datum.char 'a') (window 4 (by decide)),
          .value (Datum.char 'a') (window 6 (by decide))] }
    (g.Everywhere names fun h => ¬ h.IsBind) ∧ ((g.parserIn names 9 1).parse r).result = .ok x ∧
      ((∃ f, x.toList = [.failure f]) ∨
        (∀ o ∈ x.toList, o.isFailure = false) ∧
        (∃ rests : List Span, x.toList.map Outcome.rest? = rests.map some ∧
          (r.start :: rests.map Span.start).Pairwise (· ≤ ·)) ∧
        ∃ rest, x.remaining = some rest ∧ x.last.rest? = some rest) := by
  intro word names g window r x
  have htoken (c : Char) : (token (Datum.char c)).Everywhere names fun h => ¬ h.IsBind :=
    .of_parts nofun fun _ hh => hh.elim
  have hcomma : (Grammar.reference "comma" none).Everywhere names fun h => ¬ h.IsBind :=
    .of_parts nofun fun _ hh => Option.some.inj hh ▸ htoken ','
  have hword : word.Everywhere names fun h => ¬ h.IsBind := by
    refine .of_parts nofun fun h hh => ?_
    rcases hh with rfl | rfl
    · exact .of_parts nofun fun _ hh => hh ▸ htoken 'a'
    · exact hcomma
  have hg : g.Everywhere names fun h => ¬ h.IsBind := .of_parts nofun fun _ hh => hh ▸ hword
  have hx : ((g.parserIn names 9 1).parse r).result = .ok x := rfl
  exact ⟨hg, hx, parse_inOrder hg hx⟩

end Grammar

end TokenGrammar
