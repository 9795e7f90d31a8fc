/-
# Halting

A parse may halt because an operation on values does not apply, because a grammar could not be put
together, because a regular expression met tokens that it cannot read, or because references have no
end.  It never halts because the engine broke one of its own rules: every window that it makes is a
proper one, every list of outcomes has an outcome, and every success leaves an input to go on with.
-/
import TokenGrammar.Grammar.Leaves
import TokenGrammar.Proofs.Depth

namespace TokenGrammar

/-! ## The rules of the engine -/

/-- A halt that is not the engine's own doing. -/
def Halt.Foreseen : Halt → Prop
  | .fault _ | .unreadable _ | .endless => True
  | .span _ | .breach _ => False

/-- What is foreseen inside an iteration is foreseen outside of it. -/
theorem Halt.Foreseen.enclosed {e : Halt} (he : e.Foreseen) : e.enclosed.Foreseen := by
  cases e with
  | fault cause => trivial
  | unreadable _ | endless => exact he
  | span _ | breach _ => exact he.elim

/-- The results of a list of outcomes, which must not be empty. -/
def Results.checked (os : List Outcome) : Run Results :=
  match ofList os with
  | .ok x => pure x
  | .error breach => .halt (.breach breach)

/-- Replacing outcomes leaves at least one, since the head is replaced by results. -/
theorem Results.bindM_eq_checked (x : Results) (f : Outcome → Run Results) :
    x.bindM f = replaceAll f x.toList >>= checked := by
  rw [bindM, toList, replaceAll, Run.bind_assoc]
  congr 1
  funext y
  rw [Run.bind_assoc]
  rfl

/-- A window that is reached by advancing has bounds that fit its source. -/
theorem Span.ofBounds_of_tail {r s : Span} {n : Int} (h : r.tail n = .ok s) :
    ofBounds r.source (r.start + n) (some r.stop) = .ok s := by
  obtain ⟨k, rfl, hk, rfl⟩ := exists_drop_of_tail h
  have hstart : r.start ≤ r.stop := r.start_le_stop
  have hstop : r.stop ≤ r.source.size := r.stop_le_size
  have hlength : k ≤ r.stop - r.start := hk
  have hbounds : 0 ≤ (r.start : Int) + k ∧ (r.start : Int) + k ≤ (r.stop : Int) ∧
      (r.stop : Int) ≤ r.source.size := by omega
  have hsum : ((r.start : Int) + k).toNat = r.start + k := by omega
  simp only [ofBounds, Option.getD_some, dif_pos hbounds, hsum, Int.toNat_natCast, drop]

/-- Going on from a success never finds that there is nothing to go on from. -/
theorem Results.exists_proceed_eq {x : Results} (hx : x.isSuccess = true) :
    ∃ rest, x.remaining = some rest ∧ ∀ k, x.proceed k = k rest := by
  obtain ⟨rest, hrest⟩ := exists_remaining_of_success hx
  exact ⟨rest, hrest, fun k => proceed_of_success hx hrest k⟩

/-! ## Parses -/

namespace Correspondence

/-- Everything corresponds to itself, except the halts that nobody foresees. -/
def foreseen : Correspondence :=
  { deeper with
    halt e e' := e = e' ∧ e.Foreseen
    excuses _ := False
    halt_reflexive := ⟨fun _ => ⟨rfl, trivial⟩, fun _ => ⟨rfl, trivial⟩⟩
    halt_enclosed := fun ⟨heq, he⟩ => ⟨congrArg Halt.enclosed heq, he.enclosed⟩
    excuses_enclosed := id }

end Correspondence

namespace Grammar

variable {g : Grammar} {names : Names} (cap : Int) (depth : Nat)

open Correspondence

/-- A parse whose continuations give grammars halts only in foreseen ways. -/
theorem foreseen_of_parse_eq_error (hparsers : g.Everywhere names (· ≠ .notParser)) {r : Span}
    {e : Halt} (he : ((g.parserIn names cap depth).parse r).result = .error e) : e.Foreseen := by
  have hleaf : foreseen.Admits id id names g :=
    ⟨fun _ _ => rfl, fun hn => absurd rfl (hparsers _ hn)⟩
  have hend : foreseen.halt .endless .endless := ⟨rfl, trivial⟩
  have hrel : foreseen.ParserRel (g.parserIn names cap depth) (g.parserIn names cap depth) :=
    parserRel_parserIn hend depth (fun _ _ _ hp => hp.freeRel fun _ _ => rfl) g hleaf
  rcases hrel.parse rfl with ⟨_, _, hno⟩ | ⟨hresult, -⟩
  · exact hno.elim
  · rw [he] at hresult
    cases hresult with
    | error h => exact h.2

/-- **The engine never trips over itself.**  A parse whose continuations give grammars never halts
because of a window or because of a broken expectation.  That goes back to the rules of the engine:
every success leaves an input, from which the combinators go on; the outcomes that replace others
are never none at all; and advancing gives windows whose bounds fit their source. -/
theorem parse_foreseen (hparsers : g.Everywhere names (· ≠ .notParser)) (r : Span) :
    let run := (g.parserIn names cap depth).parse r
    (∀ cause, run.result ≠ .error (.span cause)) ∧
    (∀ breach, run.result ≠ .error (.breach breach)) ∧
    (∀ x : Results, x.isSuccess = true →
      ∃ rest, x.remaining = some rest ∧ ∀ k, x.proceed k = k rest) ∧
    (∀ (x : Results) (f : Outcome → Run Results),
      x.bindM f = Results.replaceAll f x.toList >>= Results.checked) ∧
    (∀ (s t : Span) (n : Int), s.tail n = .ok t →
      Span.ofBounds s.source (s.start + n) (some s.stop) = .ok t) := by
  intro run
  refine ⟨?_, ?_, ?_, ?_, ?_⟩
  · intro cause h
    exact foreseen_of_parse_eq_error cap depth hparsers h
  · intro breach h
    exact foreseen_of_parse_eq_error cap depth hparsers h
  · intro x hx
    exact Results.exists_proceed_eq hx
  · intro x f
    exact x.bindM_eq_checked f
  · intro s t n h
    exact Span.ofBounds_of_tail h

/-- The case of a continuation that reads one more item after each item but `a`, with repetitions
and a reference. -/
theorem parse_foreseen_items :
    let names : Names := fun _ => some (.zeroOrMore .item none)
    let g : Grammar := (Grammar.oneOrMore .item (some (.ofNat 2))).bind fun v =>
      if v.same (Datum.char 'a') then .zero .zero else .reference "rest" none
    let r : Span := .whole (.ofText "bab".toList)
    let run := (g.parserIn names 0 1).parse r
    g.Everywhere names (· ≠ .notParser) ∧
      (∀ cause, run.result ≠ .error (.span cause)) ∧
      (∀ breach, run.result ≠ .error (.breach breach)) ∧
      (∀ x : Results, x.isSuccess = true →
        ∃ rest, x.remaining = some rest ∧ ∀ k, x.proceed k = k rest) ∧
      (∀ (x : Results) (f : Outcome → Run Results),
        x.bindM f = Results.replaceAll f x.toList >>= Results.checked) ∧
      (∀ (s t : Span) (n : Int), s.tail n = .ok t →
        Span.ofBounds s.source (s.start + n) (some s.stop) = .ok t) := by
  intro names g r run
  have hitem : Grammar.item.Everywhere names (· ≠ .notParser) :=
    .of_parts nofun fun _ hh => hh.elim
  have hrest : (Grammar.reference "rest" none).Everywhere names (· ≠ .notParser) := by
    refine .of_parts nofun fun _ hh => ?_
    obtain rfl := Option.some.inj hh
    exact .of_parts nofun fun _ hp => hp ▸ hitem
  have hzero : (Grammar.zero .zero).Everywhere names (· ≠ .notParser) :=
    .of_parts nofun fun _ hh => hh.elim
  have hparsers : g.Everywhere names (· ≠ .notParser) := by
    refine .of_parts nofun fun h hh => ?_
    rcases hh with rfl | ⟨v, rfl⟩
    · exact .of_parts nofun fun _ hp => hp ▸ hitem
    · dsimp only
      split
      · exact hzero
      · exact hrest
  exact ⟨hparsers, parse_foreseen 0 1 hparsers r⟩

end Grammar

end TokenGrammar
