/-
# Rejected tokens

Grammars that hand on single tokens lay their outcomes out without a gap: every value is the first
token in view where the outcome before it ended.  A check of the values, which is told no positions
and follows the outcomes instead, therefore places its failure at the first token that is rejected.
-/
import TokenGrammar.Grammar.Leaves
import TokenGrammar.Proofs.Parts
import TokenGrammar.Proofs.Success

namespace TokenGrammar

namespace Span

variable {r s : Span}

/-- The head is the token of the source at the place where the window starts. -/
theorem getElem?_of_head {d : Datum} (h : r.head = .ok d) : r.source.tokens[r.start]? = some d := by
  have hlt : r.start < r.stop := start_lt_stop_of_head h
  have hsize : r.start < r.source.content.size := Nat.lt_of_lt_of_le hlt r.stop_le_size
  rw [head, dif_pos hlt] at h
  rw [Source.tokens, Content.getElem?_tokens _ _ hsize, Except.ok.inj h]

/-- A window is advanced by a token by dropping the token from it. -/
theorem exists_eq_drop_of_tail (h : r.tail 1 = .ok s) : ∃ hle, s = r.drop 1 hle := by
  obtain ⟨k, hk, hle, rfl⟩ := exists_drop_of_tail h
  obtain rfl : 1 = k := Int.ofNat.inj hk
  exact ⟨hle, rfl⟩

end Span

/-! ## Places of tokens -/

section Places

variable (accepts : Datum → Bool) (ts : List Datum) (i k : Nat)

/-- The tokens from place `i` up to place `k` are all accepted. -/
def AllAccepted : Prop :=
  ∀ j, i ≤ j → j < k → ∀ d, ts[j]? = some d → accepts d = true

/-- The first token from place `i` up to place `k` that is rejected is `d` at place `j`. -/
structure FirstRejected (j : Nat) (d : Datum) : Prop where
  le : i ≤ j
  lt : j < k
  getElem?_eq : ts[j]? = some d
  rejected : accepts d = false
  before : AllAccepted accepts ts i j

variable {accepts ts i k}

/-- One accepted token in front of accepted tokens. -/
theorem AllAccepted.cons {d : Datum} (h : AllAccepted accepts ts (i + 1) k)
    (hi : ts[i]? = some d) (hd : accepts d = true) : AllAccepted accepts ts i k := by
  intro j hij hjk e he
  rcases Nat.eq_or_lt_of_le hij with rfl | hlt
  · rw [hi] at he
    rwa [← Option.some.inj he]
  · exact h j hlt hjk e he

/-- The first rejected token is the same after one that is accepted. -/
theorem FirstRejected.cons {d e : Datum} {j : Nat} (h : FirstRejected accepts ts (i + 1) k j e)
    (hi : ts[i]? = some d) (hd : accepts d = true) : FirstRejected accepts ts i k j e :=
  ⟨Nat.le_of_succ_le h.le, h.lt, h.getElem?_eq, h.rejected, h.before.cons hi hd⟩

end Places

/-! ## Outcomes without a gap -/

namespace Results

/-- Outcomes that hand on the tokens from `r` up to `s` one by one: a value is the first token in
view and leaves the window behind it, a success without a value leaves the window as it is. -/
inductive Contiguous : Span → List Outcome → Span → Prop where
  | nil (r : Span) : Contiguous r [] r
  | value {r s t : Span} {d : Datum} {os : List Outcome} (hd : r.head = .ok d)
      (hs : r.tail 1 = .ok s) (hos : Contiguous s os t) : Contiguous r (.value d s :: os) t
  | empty {r t : Span} {os : List Outcome} (hos : Contiguous r os t) :
      Contiguous r (.empty r :: os) t

namespace Contiguous

variable {r s t : Span} {os ps : List Outcome}

/-- Contiguous outcomes one after the other. -/
theorem append (hos : Contiguous r os s) (hps : Contiguous s ps t) : Contiguous r (os ++ ps) t := by
  induction hos with
  | nil r => exact hps
  | value hd hs _ ih => exact .value hd hs (ih hps)
  | empty _ ih => exact .empty (ih hps)

/-- Contiguous outcomes lead to a window inside. -/
theorem within (h : Contiguous r os s) : s.Within r := by
  induction h with
  | nil r => exact .refl r
  | value _ hs _ ih =>
    obtain ⟨hle, rfl⟩ := Span.exists_eq_drop_of_tail hs
    exact ih.trans ((Span.Within.refl _).drop 1 hle)
  | empty _ ih => exact ih

/-- The tokens in view are the values and then what is left. -/
theorem tokens_eq (h : Contiguous r os s) :
    r.tokens = os.filterMap Outcome.value? ++ s.tokens := by
  induction h with
  | nil r => rfl
  | @value r s t d os hd hs _ ih =>
    obtain ⟨hle, rfl⟩ := Span.exists_eq_drop_of_tail hs
    have hvalues : (Outcome.value d (r.drop 1 hle) :: os).filterMap Outcome.value?
        = d :: os.filterMap Outcome.value? := rfl
    obtain ⟨ds, hds⟩ := List.head?_eq_some_iff.1 ((Span.head_eq_ok_iff r d).1 hd)
    rw [hvalues, List.cons_append, ← ih, Span.tokens_drop, hds]
    rfl
  | empty _ ih => exact ih

/-- The search for a rejected value finds the first token that is rejected.  The induction is on the
outcomes, and the place that the search remembers is where the window before the next one starts. -/
theorem findRejected_eq (h : Contiguous r os s) (accepts : Datum → Bool)
    (description : Option String) :
    let found := Parser.findRejected (fun d => .ok (accepts d)) description r.start os
    (AllAccepted accepts r.source.tokens r.start s.start ∧ found = .ok none) ∨
      ∃ j d, FirstRejected accepts r.source.tokens r.start s.start j d ∧
        found = .ok (some (.mismatch description d j)) := by
  induction h with
  | nil r => exact Or.inl ⟨fun j hle hlt => by omega, rfl⟩
  | empty _ ih => exact ih
  | @value r s t d os hd hs hos ih =>
    have htoken : r.source.tokens[r.start]? = some d := Span.getElem?_of_head hd
    obtain ⟨hle, rfl⟩ := Span.exists_eq_drop_of_tail hs
    have hlt : r.start < t.start := Nat.lt_of_succ_le hos.within.start_le
    cases haccepts : accepts d with
    | false =>
      refine Or.inr ⟨r.start, d, ⟨Nat.le_refl _, hlt, htoken, haccepts, ?_⟩, ?_⟩
      · exact fun j hle hlt => by omega
      · rw [Parser.findRejected, haccepts]
        rfl
    | true =>
      -- the search goes on behind the token, from the place where its value ended
      have hfound : Parser.findRejected (fun d => .ok (accepts d)) description r.start
          (.value d (r.drop 1 hle) :: os) = Parser.findRejected (fun d => .ok (accepts d))
            description (r.drop 1 hle).start os := by
        rw [Parser.findRejected, haccepts]
        rfl
      rw [hfound]
      rcases ih with ⟨hall, hnone⟩ | ⟨j, e, hfirst, hsome⟩
      · exact Or.inl ⟨hall.cons htoken haccepts, hnone⟩
      · exact Or.inr ⟨j, e, hfirst.cons htoken haccepts, hsome⟩

end Contiguous

end Results

/-! ## Parsers of single tokens -/

/-- The outcomes of every success hand on the tokens that it consumes, one by one. -/
structure Parser.TokenByToken (p : Parser) : Prop where
  contiguous : ∀ {r x s}, p.Succeeds r x s → Results.Contiguous r x.toList s

namespace Parser

open Results (Contiguous)

variable {p q : Parser}

/-- A success on the spot covers nothing. -/
theorem contiguous_single_empty (r : Span) :
    Contiguous r (Results.single (.empty r)).toList r :=
  .empty (.nil r)

/-- One accepted token. -/
theorem tokenByToken_satisfy (accepts : Datum → Except Fault Bool) (description : String) :
    (satisfy accepts description).TokenByToken := by
  refine ⟨fun {r x s} h => ?_⟩
  obtain ⟨d, hd, -, hs, rfl⟩ := h.of_satisfy
  exact .value hd hs (.nil s)

/-- A success without a value on the spot. -/
theorem tokenByToken_empty : empty.TokenByToken := by
  refine ⟨fun {r x s} h => ?_⟩
  obtain ⟨rfl, rfl⟩ := h.of_empty
  exact contiguous_single_empty s

/-- The end of the input. -/
theorem tokenByToken_done : done.TokenByToken := by
  refine ⟨fun {r x s} h => ?_⟩
  obtain ⟨rfl, rfl⟩ := h.of_done
  exact contiguous_single_empty s

/-- A parser that always fails has no success to describe. -/
theorem tokenByToken_zero (f : Failure) : (zero f).TokenByToken :=
  ⟨fun h => absurd h not_succeeds_zero⟩

/-- A parser that always halts has no success to describe. -/
theorem tokenByToken_halt (e : Halt) : (halt e).TokenByToken :=
  ⟨fun h => absurd h not_succeeds_halt⟩

namespace TokenByToken

theorem describe (hp : p.TokenByToken) (description : Option String) :
    (p.describe description).TokenByToken :=
  ⟨fun h => hp.contiguous h.of_describe⟩

/-- The tokens of two parsers, one after the other. -/
theorem andThen (hp : p.TokenByToken) (hq : q.TokenByToken) : (p.andThen q).TokenByToken := by
  refine ⟨fun {r x s} h => ?_⟩
  obtain ⟨left, t, right, hleft, hright, rfl⟩ := h.of_andThen
  exact (hp.contiguous hleft).append (hq.contiguous hright)

/-- The tokens of one of two parsers. -/
theorem orElse (hp : p.TokenByToken) (hq : q.TokenByToken) : (p.orElse q).TokenByToken := by
  refine ⟨fun {r x s} h => ?_⟩
  rcases h.of_orElse with h | h
  · exact hp.contiguous h
  · exact hq.contiguous h

/-- The tokens of a parser, or none. -/
theorem optional (hp : p.TokenByToken) (hq : q.TokenByToken) : (p.optional q).TokenByToken :=
  (hp.orElse hq).describe _

/-- A check changes no values. -/
theorem check (hp : p.TokenByToken) (accepts : Datum → Except Fault Bool)
    (description : Option String) : (p.check accepts description).TokenByToken :=
  ⟨fun h => hp.contiguous h.of_check⟩

/-- The tokens of further applications, one after the other. -/
theorem repeats (hp : p.TokenByToken) {s t : Span} {os : List Outcome} (h : p.Repeats s os t) :
    Contiguous s os t := by
  induction h with
  | stop s => exact .nil s
  | step hx _ _ ih => exact (hp.contiguous hx).append ih

/-- The tokens of a repetition, one application after the other. -/
theorem repeated (hp : p.TokenByToken) {r s : Span} {x : Results} (h : p.Repeated r x s) :
    Contiguous r x.toList s := by
  obtain ⟨first, t, os, hfirst, hos, rfl⟩ := h
  exact (hp.contiguous hfirst).append (hp.repeats hos)

/-- The repetition that needs a match. -/
theorem oneOrMore (hp : p.TokenByToken) (cap : Int) (bound : Option Bound) :
    (p.oneOrMore cap bound).TokenByToken :=
  ⟨fun h => hp.repeated h.of_oneOrMore⟩

/-- The repetition that can do without a match. -/
theorem zeroOrMore (hp : p.TokenByToken) (cap : Int) (bound : Option Bound) :
    (p.zeroOrMore cap bound).TokenByToken := by
  refine ⟨fun {r x s} h => ?_⟩
  rcases h.of_zeroOrMore with ⟨rfl, rfl⟩ | h
  · exact contiguous_single_empty s
  · exact hp.repeated h

end TokenByToken

/-! ## The check of a parser -/

section Check

variable {r s : Span} {x : Results} (accepts : Datum → Bool) (description : Option String)

/-- Without a success there is nothing to check. -/
theorem parse_check_of_no_success (hp : ∀ x, (p.parse r).result = .ok x → x.isSuccess = false) :
    (p.check (fun d => .ok (accepts d)) description).parse r = p.parse r := by
  simp only [Parser.check]
  cases hx : (p.parse r).result with
  | error e =>
    rw [Run.bind_of_error hx]
    exact Run.ext_result_log hx.symm rfl
  | ok x =>
    rw [Run.bind_of_ok hx, hp x hx]
    exact Run.ext_result_log hx.symm (List.append_nil _)

/-- A success is replaced by the failure that the search finds, if there is one. -/
theorem Succeeds.check_eq (h : p.Succeeds r x s) {found : Option Failure}
    (hfound : findRejected (fun d => .ok (accepts d)) description r.start x.toList = .ok found) :
    (p.check (fun d => .ok (accepts d)) description).parse r
      = { result := .ok (found.elim x Results.fail), log := (p.parse r).log } := by
  simp only [Parser.check]
  rw [Run.bind_of_ok h.result_eq, h.isSuccess, if_pos rfl, hfound, Run.ofFault_ok, Run.pure_bind]
  cases found with
  | none => exact Run.ext_result_log rfl (List.append_nil _)
  | some f => exact Run.ext_result_log rfl (List.append_nil _)

end Check

end Parser

/-! ## Grammars of single tokens -/

namespace Grammar

variable {names : Names}

/-- Grammars put together from single tokens, of which none is joined to another, computed with or
dropped. -/
def TokenByToken : Grammar → Prop
  | .satisfy _ _ | .empty | .done | .zero _ | .andThen _ _ | .orElse _ _ | .oneOrMore _ _
  | .zeroOrMore _ _ | .check _ _ _ | .describe _ _ | .reference _ _ => True
  | .optional _ default => default = none
  | _ => False

/-- A grammar of single tokens hands them on one by one as soon as its references do. -/
theorem tokenByToken_of_references {cap : Int} (apply : String → Span → Run Results) (g : Grammar)
    (hg : g.Everywhere names TokenByToken)
    (href : g.References names Parser.TokenByToken apply cap) :
    (g.parser apply cap).TokenByToken := by
  induction g with
  | satisfy accepts description => exact Parser.tokenByToken_satisfy accepts description
  | empty => exact Parser.tokenByToken_empty
  | done => exact Parser.tokenByToken_done
  | zero f => exact Parser.tokenByToken_zero f
  | andThen p q ihp ihq =>
    exact (ihp (hg.part (.inl rfl)) (href.part (.inl rfl))).andThen
      (ihq (hg.part (.inr rfl)) (href.part (.inr rfl)))
  | orElse p q ihp ihq =>
    exact (ihp (hg.part (.inl rfl)) (href.part (.inl rfl))).orElse
      (ihq (hg.part (.inr rfl)) (href.part (.inr rfl)))
  | oneOrMore p bound ih => exact (ih (hg.part rfl) (href.part rfl)).oneOrMore cap bound
  | zeroOrMore p bound ih => exact (ih (hg.part rfl) (href.part rfl)).zeroOrMore cap bound
  | optional p default ih =>
    obtain rfl : default = none := hg.self
    exact (ih (hg.part rfl) (href.part rfl)).optional Parser.tokenByToken_empty
  | check p accepts description ih =>
    exact (ih (hg.part rfl) (href.part rfl)).check accepts description
  | describe p description ih => exact (ih (hg.part rfl) (href.part rfl)).describe description
  | reference name description => exact href.self name description rfl
  | regex | succeed | ignore | ignoreLeft | ignoreRight | fold | lift | bind | fault | notParser =>
    exact (Everywhere.self hg).elim

/-- The parser of a grammar whose parts all go token by token does so as well. -/
theorem tokenByToken_parserIn {g : Grammar} (hg : g.Everywhere names TokenByToken) (cap : Int)
    (depth : Nat) : (g.parserIn names cap depth).TokenByToken :=
  parserIn_of_references Parser.tokenByToken_halt
    (fun _ description hp => hp.describe description) tokenByToken_of_references depth g hg

/-- **A check fails at the first rejected token.**  A grammar of single tokens is checked with a
test that does not halt.  If it does not succeed, the check changes nothing.  If it succeeds, the
check changes nothing as long as all tokens from the start of the window up to the place where the
parse goes on are accepted; otherwise it gives a single failure, which is placed at the first of
these tokens that is rejected, and tells that token and what was expected. -/
theorem parse_check {g : Grammar} (hg : g.Everywhere names TokenByToken) (accepts : Datum → Bool)
    (description : String) (cap : Int) (depth : Nat) (r : Span) :
    let y := (g.parserIn names cap depth).parse r
    let checked :=
      ((g.check (fun d => .ok (accepts d)) (some description)).parserIn names cap depth).parse r
    ((∀ x, y.result = .ok x → x.isSuccess = false) → checked = y) ∧
    ∀ x, y.result = .ok x → x.isSuccess = true →
      ∃ rest, x.remaining = some rest ∧ rest.Within r ∧
        ((AllAccepted accepts r.source.tokens r.start rest.start ∧ checked = y) ∨
          ∃ j d, FirstRejected accepts r.source.tokens r.start rest.start j d ∧
            checked.log = y.log ∧
            checked.result = .ok (.fail
              { reason := .mismatch (.ofString description) d
                message := "expected " ++ description
                position := some j })) := by
  intro y checked
  refine ⟨Parser.parse_check_of_no_success accepts (some description), fun x hx hsuc => ?_⟩
  obtain ⟨rest, hrest⟩ := Parser.exists_succeeds hx hsuc
  have hcontiguous := (tokenByToken_parserIn hg cap depth).contiguous hrest
  refine ⟨rest, hrest.remaining_eq, hcontiguous.within, ?_⟩
  rcases hcontiguous.findRejected_eq accepts (some description) with
    ⟨hall, hnone⟩ | ⟨j, d, hfirst, hsome⟩
  · have hchecked : checked = _ := hrest.check_eq accepts (some description) hnone
    exact Or.inl ⟨hall, hchecked.trans (Run.ext_result_log hx.symm rfl)⟩
  · have hchecked : checked = _ := hrest.check_eq accepts (some description) hsome
    refine Or.inr ⟨j, d, hfirst, ?_, ?_⟩
    · rw [hchecked]
    · rw [hchecked]
      rfl

/-- The case of letters in groups with commas between them, where commas are rejected. -/
theorem parse_check_groups :
    let groups : Grammar := (Grammar.oneOrMore letter none).andThen (.reference "more" none)
    let names : Names := fun _ => some (.optional ((token (Datum.char ',')).andThen groups) none)
    let accepts : Datum → Bool := fun d => !d.same (Datum.char ',')
    let window (i : Nat) (h : i ≤ 6) : Span :=
      { source := .ofText "-ab,c!".toList, start := i, stop := 6, start_le_stop := h,
        stop_le_size := by decide }
    let r := window 1 (by decide)
    let x : Results :=
      { head := .value (Datum.char 'a') (window 2 (by decide))
        tail := [.value (Datum.char 'b') (window 3 (by decide)),
          .value (Datum.char ',') (window 4 (by decide)),
          .value (Datum.char 'c') (window 5 (by decide)), .empty (window 5 (by decide))] }
    let y := (groups.parserIn names 9 2).parse r
    let checked := ((groups.check (fun d => .ok (accepts d)) (some "letter")).parserIn names 9
      2).parse r
    groups.Everywhere names TokenByToken ∧ y.result = .ok x ∧ x.isSuccess = true ∧
      ∃ rest, x.remaining = some rest ∧ rest.Within r ∧
        ((AllAccepted accepts r.source.tokens r.start rest.start ∧ checked = y) ∨
          ∃ j d, FirstRejected accepts r.source.tokens r.start rest.start j d ∧
            checked.log = y.log ∧
            checked.result = .ok (.fail
              { reason := .mismatch (.ofString "letter") d
                message := "expected " ++ "letter"
                position := some j })) := by
  intro groups names accepts window r x y checked
  have htoken (test : Datum → Except Fault Bool) (description : String) :
      (Grammar.satisfy test description).Everywhere (fun _ => none) TokenByToken :=
    .of_parts trivial fun _ hh => hh.elim
  have hgroups : groups.Everywhere (fun _ => none) TokenByToken := by
    refine .of_parts trivial fun h hh => ?_
    rcases hh with rfl | rfl
    · exact .of_parts trivial fun _ hh => hh ▸ htoken _ _
    · exact .of_parts trivial fun _ hh => nomatch hh
  have hg : groups.Everywhere names TokenByToken := by
    refine .of_names hgroups fun name body hbody => ?_
    cases hbody
    refine .of_parts rfl fun h hh => hh ▸ .of_parts trivial fun h hh => ?_
    rcases hh with rfl | rfl
    · exact htoken _ _
    · exact hgroups
  have hx : y.result = .ok x := rfl
  exact ⟨hg, hx, rfl, (parse_check hg accepts "letter" 9 2 r).2 x hx rfl⟩

end Grammar

end TokenGrammar
