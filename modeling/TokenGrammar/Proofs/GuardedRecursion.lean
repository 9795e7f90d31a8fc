/-
# Guarded recursion

References that stand behind a token are applied to shorter and shorter windows, so that definitions
which refer to each other in this way come to an end on every window, nested at most as deep as the
window has tokens.  The correspondence relates every parse to itself on windows up to a given
length, as long as it comes to an end.
-/
import TokenGrammar.Grammar.Leaves
import TokenGrammar.Proofs.Depth

namespace TokenGrammar

namespace Correspondence

/-! ## Weaker correspondences -/

variable {S T : Correspondence} {α β : Type}

/-- Results that correspond do so in every wider sense. -/
theorem ResultsRel.mono (hwindow : ∀ {r s}, S.window r s → T.window r s)
    (hfailure : ∀ {f g}, S.failure f g → T.failure f g) {x y : Results} (h : S.ResultsRel x y) :
    T.ResultsRel x y := by
  refine List.Forall₂.imp (fun o p ho => ?_) h
  cases ho with
  | value v hw => exact .value v (hwindow hw)
  | empty hw => exact .empty (hwindow hw)
  | failure hf => exact .failure (hfailure hf)

/-! ## Parses that come to an end -/

/-- Windows of at most `n` tokens correspond to themselves, and so does every halt but the one that
tells that there is no end. -/
def ending (n : Nat) : Correspondence where
  window r s := r = s ∧ r.length ≤ n
  failure := Eq
  notice := Eq
  halt e e' := e = e' ∧ e ≠ .endless
  excuses _ := False
  view_eq h := congrArg Span.view h.1
  window_drop := by
    rintro r _ ⟨rfl, hr⟩ i hi _
    exact ⟨rfl, Nat.le_trans ((Span.Within.refl r).drop i hi).length_le hr⟩
  start_eq_iff := by
    rintro r _ r' _ ⟨rfl, -⟩ ⟨rfl, -⟩
    exact Iff.rfl
  failure_at := by
    rintro r _ ⟨rfl, -⟩ _ _
    rfl
  stalled_at := by
    rintro r _ ⟨rfl, -⟩ _
    rfl
  halt_reflexive := ⟨fun _ => ⟨rfl, nofun⟩, fun _ => ⟨rfl, nofun⟩⟩
  halt_enclosed := by
    rintro e _ ⟨rfl, he⟩
    cases e with
    | endless => exact absurd rfl he
    | fault _ | span _ | breach _ | unreadable _ => exact ⟨rfl, nofun⟩
  excuses_enclosed := id

variable {m n : Nat}

/-- The halt at a continuation that gives no grammar is an end. -/
theorem ending_notParser : (ending n).halt (.breach .notParser) (.breach .notParser) :=
  ⟨rfl, nofun⟩

/-- What comes to an end on short windows does so on windows that may be longer. -/
theorem runRel_ending_mono (hmn : m ≤ n) {x y : Run Results}
    (h : (ending m).RunRel (ending m).ResultsRel x y) :
    (ending n).RunRel (ending n).ResultsRel x y := by
  rcases h with ⟨_, _, hno⟩ | ⟨hend, hlog⟩
  · exact hno.elim
  · refine Or.inr ⟨?_, hlog⟩
    generalize x.result = u at hend ⊢
    generalize y.result = v at hend ⊢
    cases hend with
    | ok h =>
      have hwindow {r s : Span} (hw : (ending m).window r s) : (ending n).window r s :=
        ⟨hw.1, Nat.le_trans hw.2 hmn⟩
      exact .ok (h.mono hwindow id)
    | error h => exact .error h

/-- A run that corresponds to itself comes to an end. -/
theorem ne_endless_of_runRel_ending {x : Run Results}
    (h : (ending n).RunRel (ending n).ResultsRel x x) : x.result ≠ .error .endless := by
  intro he
  rcases h with ⟨_, _, hno⟩ | ⟨hend, -⟩
  · exact hno.elim
  · rw [he] at hend
    cases hend with
    | error h => exact h.2 rfl

end Correspondence

/-! ## Tokens as guards -/

/-- A parser for a single token fails, or halts on its own test, or leaves a shorter window. -/
theorem Parser.satisfy_cases (accepts : Datum → Except Fault Bool) (description : String)
    (r : Span) :
    (∃ f, (satisfy accepts description).parse r = pure (.fail f)) ∨
      (∃ cause, (satisfy accepts description).parse r = Run.halt (.fault cause)) ∨
      ∃ t s, s.length < r.length ∧
        (satisfy accepts description).parse r = pure (.single (.value t s)) := by
  simp only [satisfy]
  cases he : r.isEmpty with
  | true => exact Or.inl ⟨_, rfl⟩
  | false =>
    obtain ⟨t, ht⟩ := Span.exists_head he
    have hlength : 1 ≤ r.length := Span.one_le_length he
    have htail : r.tail 1 = .ok (r.drop 1 hlength) := Span.tail_ofNat r 1 hlength
    simp only [Bool.false_eq_true, if_false, ht, htail, Run.ofSpan_ok, Run.pure_bind]
    cases accepts t with
    | error cause => exact Or.inr (Or.inl ⟨cause, rfl⟩)
    | ok accepted =>
      cases accepted with
      | false => exact Or.inl ⟨_, rfl⟩
      | true =>
        refine Or.inr (Or.inr ⟨t, r.drop 1 hlength, ?_, rfl⟩)
        have hlt : (r.drop 1 hlength).start ≠ r.start := by
          rw [Span.start_drop]
          omega
        exact ((Span.Within.refl r).drop 1 hlength).length_lt hlt

namespace Correspondence

variable {n : Nat} {accepts : Datum → Except Fault Bool} {description : String}

/-- What follows a token need only come to an end on shorter windows. -/
theorem runRel_satisfy_proceed {r : Span} (hr : r.length ≤ n) {k : Results → Span → Run Results}
    (hk : ∀ x s, (ending n).ResultsRel x x → s.length < n →
      (ending n).RunRel (ending n).ResultsRel (k x s) (k x s)) :
    (ending n).RunRel (ending n).ResultsRel
      ((Parser.satisfy accepts description).parse r >>= fun x => x.proceed (k x))
      ((Parser.satisfy accepts description).parse r >>= fun x => x.proceed (k x)) := by
  rcases Parser.satisfy_cases accepts description r with ⟨f, hf⟩ | ⟨cause, hc⟩ | ⟨t, s, hlt, hx⟩
  · rw [hf]
    exact runRel_pure (resultsRel_fail rfl)
  · rw [hc]
    exact runRel_halt ((ending n).halt_reflexive.fault _)
  · have hs : s.length < n := Nat.lt_of_lt_of_le hlt hr
    rw [hx]
    exact hk _ s (resultsRel_single (.value t ⟨rfl, Nat.le_of_lt hs⟩)) hs

section Behind

variable {q : Parser} (hq : ∀ m < n, (ending m).ParserRel q q)
include hq

/-- What follows a token applies to shorter windows only. -/
theorem parserRel_satisfy_andThen :
    (ending n).ParserRel ((Parser.satisfy accepts description).andThen q)
      ((Parser.satisfy accepts description).andThen q) where
  description_eq := rfl
  parse := by
    rintro r _ ⟨rfl, hr⟩
    refine runRel_satisfy_proceed hr fun left s hleft hs => ?_
    refine runRel_bind (runRel_ending_mono (Nat.le_of_lt hs) ((hq _ hs).parse ⟨rfl, Nat.le_refl _⟩))
      fun right right' hright => ?_
    rw [hright.isSuccess_eq]
    split
    · exact runRel_pure (hleft.append hright)
    · exact runRel_pure hright

/-- The same when the value of the token is dropped. -/
theorem parserRel_satisfy_ignoreLeft :
    (ending n).ParserRel ((Parser.satisfy accepts description).ignoreLeft q)
      ((Parser.satisfy accepts description).ignoreLeft q) where
  description_eq := rfl
  parse := by
    rintro r _ ⟨rfl, hr⟩
    refine runRel_satisfy_proceed hr fun _ s _ hs => ?_
    exact runRel_ending_mono (Nat.le_of_lt hs) ((hq _ hs).parse ⟨rfl, Nat.le_refl _⟩)

end Behind

end Correspondence

/-! ## Guarded grammars -/

namespace Grammar

/-- Every reference in the grammar stands behind a token: it occurs only in what follows a single
token in a sequence, whose values may be kept or ignored. -/
inductive Guarded : Grammar → Prop where
  | token_andThen (accepts : Datum → Except Fault Bool) (description : String) (q : Grammar) :
    Guarded (.andThen (.satisfy accepts description) q)
  | token_ignoreLeft (accepts : Datum → Except Fault Bool) (description : String) (q : Grammar) :
    Guarded (.ignoreLeft (.satisfy accepts description) q)
  | of_parts {g : Grammar} (hg : ∀ name description, g ≠ .reference name description)
    (hparts : ∀ h, g.HasPart (fun _ => none) h → Guarded h) : Guarded g

open Correspondence

variable {names : Names} {cap : Int} {n : Nat}

/-- A guarded grammar comes to an end on windows of `n` tokens as soon as all grammars do so on
shorter ones. -/
theorem Guarded.parserRel_ending {apply : String → Span → Run Results}
    (hshorter : ∀ m < n, ∀ q : Grammar,
      (ending m).ParserRel (q.parser apply cap) (q.parser apply cap))
    {g : Grammar} (hg : g.Guarded) :
    (ending n).ParserRel (g.parser apply cap) (g.parser apply cap) := by
  induction hg with
  | token_andThen accepts description q =>
    exact parserRel_satisfy_andThen fun m hm => hshorter m hm q
  | token_ignoreLeft accepts description q =>
    exact parserRel_satisfy_ignoreLeft fun m hm => hshorter m hm q
  | of_parts hg _ ih =>
    refine parserRel_of_parts (fun _ hp => hp.freeRel fun _ _ => rfl) ⟨?_, ?_, ?_⟩ ih
    · exact fun _ _ => rfl
    · exact fun _ => ending_notParser
    · exact fun name description h => absurd h (hg name description)

/-- With more references inside each other than a window has tokens, every grammar comes to an end
on the window.  The induction is on the depth: a reference uses up one level, and its grammar
applies further ones to shorter windows only. -/
theorem parserRel_ending (hnames : ∀ name body, names name = some body → body.Guarded)
    (depth : Nat) (hn : n < depth) (g : Grammar) :
    (ending n).ParserRel (g.parserIn names cap depth) (g.parserIn names cap depth) := by
  induction depth generalizing n g with
  | zero => omega
  | succ depth ih =>
    have hleaf : (ending n).Admits id id names g := ⟨fun _ _ => rfl, fun _ => ending_notParser⟩
    refine parserRel_of_leaves (fun _ hp => hp.freeRel fun _ _ => rfl) g hleaf ?_
    intro name _ _ r s hrs
    simp only [resolve]
    cases hname : names name with
    | none => exact runRel_halt ((ending n).halt_reflexive.fault _)
    | some body =>
      have hshorter : ∀ m < n, ∀ q : Grammar,
          (ending m).ParserRel (q.parserIn names cap depth) (q.parserIn names cap depth) :=
        fun m hm q => ih (by omega) q
      exact (Guarded.parserRel_ending hshorter (hnames name body hname)).parse hrs

end Grammar

/-! ## Definitions -/

namespace Definitions

variable {defs : Definitions} {name : String} {body : Grammar}

/-- What a name stands for is one of the definitions. -/
theorem mem_of_find?_eq_some (h : defs.find? name = some body) : (name, body) ∈ defs.entries := by
  obtain ⟨entries⟩ := defs
  rw [find?] at h
  induction entries with
  | nil => cases h
  | cons entry entries ih =>
    obtain ⟨key, g⟩ := entry
    rw [List.lookup_cons] at h
    cases hkey : name == key with
    | true =>
      rw [hkey] at h
      cases h
      rw [beq_iff_eq.1 hkey]
      exact List.mem_cons_self
    | false =>
      rw [hkey] at h
      exact List.mem_cons_of_mem _ (ih h)

/-- A window calls for at least one level more than it has tokens, if there are definitions. -/
theorem length_lt_depth (h : defs.entries ≠ []) (r : Span) : r.length < defs.depth r := by
  have hpos : 0 < defs.entries.length := List.length_pos_iff.2 h
  have hle : r.length + 1 ≤ defs.entries.length * (r.length + 1) := Nat.le_mul_of_pos_left _ hpos
  rw [depth]
  omega

end Definitions

namespace Grammar

open Correspondence

/-- **Guarded recursion comes to an end.**  If every reference in finitely many definitions stands
behind a token, then each of them comes to an end on every window and under every cap, with no more
references inside each other than the window has tokens, and one to begin with: any greater depth
gives the same run, and so does the depth that a window calls for. -/
theorem resolve_guarded {defs : Definitions} (hguarded : ∀ entry ∈ defs.entries, entry.2.Guarded)
    (cap : Int) (name : String) (r : Span) :
    let run := resolve defs.find? cap (r.length + 1) name r
    run.result ≠ .error .endless ∧
      (∀ depth, r.length + 1 ≤ depth → resolve defs.find? cap depth name r = run) ∧
      ∀ description, ((Grammar.reference name description).toParser defs cap).parse r = run := by
  intro run
  have hnames (name : String) (body : Grammar) (h : defs.find? name = some body) : body.Guarded :=
    hguarded _ (Definitions.mem_of_find?_eq_some h)
  let g : Grammar := .reference name none
  have hrel : (ending r.length).ParserRel (g.parserIn defs.find? cap (r.length + 1))
      (g.parserIn defs.find? cap (r.length + 1)) :=
    parserRel_ending hnames (r.length + 1) (Nat.lt_succ_self _) g
  have hends : run.result ≠ .error .endless :=
    ne_endless_of_runRel_ending (hrel.parse ⟨rfl, Nat.le_refl _⟩)
  have hdeeper (depth : Nat) (h : r.length + 1 ≤ depth) :
      resolve defs.find? cap depth name r = run :=
    parse_eq_of_le g h hends
  refine ⟨hends, hdeeper, fun description => ?_⟩
  change resolve defs.find? cap (defs.depth r) name r = run
  by_cases hentries : defs.entries = []
  · -- without definitions a name stands for nothing at any depth
    have hname : defs.find? name = none := by rw [Definitions.find?, hentries, List.lookup_nil]
    simp only [run, Definitions.depth, resolve, hname]
  · exact hdeeper _ (Definitions.length_lt_depth hentries r)

/-- The case of lists in brackets, whose items are letters or marked lists.  On a window of openings
the bound is reached: one level less is not enough. -/
theorem resolve_guarded_lists :
    let list : Grammar := (token (Datum.char '(')).andThen
      ((Grammar.zeroOrMore (.reference "item" none) none).andThen (token (Datum.char ')')))
    let item : Grammar := letter.orElse
      ((token (Datum.char '!')).ignoreLeft (.reference "list" none))
    let defs : Definitions := { entries := [("list", list), ("item", item)] }
    let r : Span := .whole (.ofText "(!(!(".toList)
    let run := resolve defs.find? 3 (r.length + 1) "list" r
    (resolve defs.find? 3 r.length "list" r).result = .error .endless ∧
      (∀ entry ∈ defs.entries, entry.2.Guarded) ∧
      run.result ≠ .error .endless ∧
      (∀ depth, r.length + 1 ≤ depth → resolve defs.find? 3 depth "list" r = run) ∧
      ∀ description, ((Grammar.reference "list" description).toParser defs 3).parse r = run := by
  intro list item defs r run
  have hitem : item.Guarded := by
    refine .of_parts nofun ?_
    rintro _ (rfl | rfl)
    · exact .of_parts nofun nofun
    · exact .token_ignoreLeft _ _ _
  have hguarded : ∀ entry ∈ defs.entries, entry.2.Guarded := by
    intro entry hentry
    rcases List.mem_pair.1 hentry with rfl | rfl
    · exact .token_andThen _ _ _
    · exact hitem
  exact ⟨rfl, hguarded, resolve_guarded hguarded 3 "list" r⟩

end Grammar

end TokenGrammar
