/-
# The cap

A contained parser that is applied again and again gets a shorter window each time, so that a
repetition ends by itself after at most one application more than its window has tokens.  A cap
above that has no influence on a parse, however deep its repetitions are nested.
-/
import TokenGrammar.Proofs.Containment
import TokenGrammar.Proofs.Iteration

namespace TokenGrammar

/-! ## Loops of contained parsers -/

namespace Parser.Contained

variable {p : Parser} (hp : p.Contained)
include hp

/-- An application that moves leaves a shorter window. -/
theorem length_lt {s after : Span} {x : Results} (hx : (p.parse s).result = .ok x)
    (hafter : x.remaining = some after) (hmoved : after.start ≠ s.start) :
    after.length < s.length :=
  (hp.remaining_within hx hafter).length_lt hmoved

/-- Any two rooms above the length of the window give the same loop. -/
theorem again_eq_of_length_lt {s : Span} {room room' : Nat} (h : s.length < room)
    (h' : s.length < room') : p.again room s = p.again room' s := by
  induction room generalizing s room' with
  | zero => omega
  | succ room ih =>
    obtain ⟨m, rfl⟩ : ∃ m, room' = m + 1 := ⟨room' - 1, by omega⟩
    cases hadv : p.advances s with
    | false => rw [again_of_not_advances hadv, again_of_not_advances hadv]
    | true =>
      obtain ⟨x, after, hx, hsuc, hafter, hmoved⟩ := exists_of_advances hadv
      have hlt : after.length < s.length := hp.length_lt hx hafter hmoved
      -- both rooms shrink by one, and the window by at least one token
      have hrest : p.again room after = p.again m after := ih (by omega) (by omega)
      rw [again_of_advances hx hsuc hafter hmoved, again_of_advances hx hsuc hafter hmoved, hrest]

/-- A loop with that much room ends by itself. -/
theorem ended_of_length_lt {s : Span} {room : Nat} (h : s.length < room) {os : List Outcome}
    {ended : Bool} (hy : (p.again room s).result = .ok (os, ended)) : ended = true := by
  induction room generalizing s os with
  | zero => omega
  | succ room ih =>
    cases hadv : p.advances s with
    | false =>
      rw [again_of_not_advances hadv] at hy
      obtain ⟨_, _, hend⟩ := Run.exists_of_bind_eq_ok hy
      cases hend
      rfl
    | true =>
      obtain ⟨x, after, hx, hsuc, hafter, hmoved⟩ := exists_of_advances hadv
      have hlt : after.length < s.length := hp.length_lt hx hafter hmoved
      rw [again_of_advances hx hsuc hafter hmoved] at hy
      obtain ⟨_, _, hmore⟩ := Run.exists_of_bind_eq_ok hy
      obtain ⟨y, hrest, hend⟩ := Run.exists_of_bind_eq_ok hmore
      cases hend
      exact ih (by omega) hrest

/-- Under a cap with that much room, a repetition is its loop with just enough room. -/
theorem repeatFreely_eq_of_length_lt {x : Results} {rest : Span} (hrest : x.remaining = some rest)
    {cap : Int} (h : rest.length + 1 < cap) :
    p.repeatFreely cap x = p.repeatFrom x (rest.length + 2) >>= fun y => pure y.1 := by
  have hroom : rest.length < cap.toNat - 1 := by omega
  have hloop : p.again (cap.toNat - 1) rest = p.again (rest.length + 2 - 1) rest :=
    hp.again_eq_of_length_lt hroom (by omega)
  rw [repeatFreely, repeatFrom_eq_again hrest, repeatFrom_eq_again hrest, ← hloop,
    Run.bind_assoc, Run.bind_assoc]
  cases hy : (p.again (cap.toNat - 1) rest).result with
  | error e => rw [Run.bind_of_error hy, Run.bind_of_error hy]
  | ok y =>
    have hended : y.2 = true := hp.ended_of_length_lt hroom hy
    rw [Run.bind_of_ok hy, Run.bind_of_ok hy]
    simp only [Run.pure_bind, hended, if_true]

/-! ## The number of applications -/

/-- Every counted application but the first one shortens the window. -/
theorem exists_shorter {s : Span} {limit i : Nat} (h1 : 1 ≤ i) (hi : i < p.count s limit) :
    ∃ t after, p.place s i = some t ∧ p.place s (i + 1) = some after ∧
      after.length < t.length := by
  obtain ⟨t, x, after, ht, hx, -, hafter, hmoved, hplace⟩ :=
    exists_of_moves (moves_of_lt_count h1 hi)
  exact ⟨t, after, ht, hplace, hp.length_lt hx hafter hmoved⟩

/-- The window after `i` counted applications has lost as many tokens, save perhaps one. -/
theorem length_add_le {s t : Span} {limit i : Nat} (h1 : 1 ≤ i) (hi : i ≤ p.count s limit)
    (ht : p.place s i = some t) : t.length + i ≤ s.length + 1 := by
  induction i, h1 using Nat.le_induction generalizing t with
  | base =>
    obtain ⟨x, hx, hxt⟩ := exists_of_rest? ht
    have hle : t.length ≤ s.length := (hp.remaining_within hx hxt).length_le
    omega
  | succ i h1 ih =>
    obtain ⟨u, after, hu, hafter, hlt⟩ := hp.exists_shorter h1 hi
    obtain rfl : after = t := Option.some.inj (hafter.symm.trans ht)
    have hle : u.length + i ≤ s.length + 1 := ih (Nat.le_of_succ_le hi) hu
    omega

/-- No more applications count than the window has tokens, save one. -/
theorem count_le_length (s : Span) (limit : Nat) : p.count s limit ≤ s.length + 1 := by
  by_cases h : p.count s limit ≤ 1
  -- the first application counts even if it does not move
  · omega
  · obtain ⟨i, hi⟩ : ∃ i, p.count s limit = i + 1 := ⟨p.count s limit - 1, by omega⟩
    obtain ⟨_, after, _, hafter, _⟩ :=
      hp.exists_shorter (show 1 ≤ i by omega) (show i < p.count s limit by omega)
    have hle : after.length + (i + 1) ≤ s.length + 1 :=
      hp.length_add_le (by omega) (show i + 1 ≤ p.count s limit by omega) hafter
    omega

end Parser.Contained

/-! ## The cap and a parse -/

/-- A note about anything but the cap. -/
def Notice.Uncapped (n : Notice) : Prop :=
  ∀ description count, n ≠ .capped description count

/-- A note about a repetition that stalls is none about a cap. -/
theorem Notice.uncapped_stalled (description : Option String) (position : Nat) :
    (Notice.stalled description position).Uncapped :=
  fun _ _ h => nomatch h

namespace Correspondence

variable {top : Span} {given : Failure → Prop} {allowed : Notice → Prop}
  {hstalled : ∀ description position, allowed (.stalled description position)}

/-- Corresponding runs are equal, and take notes that are allowed. -/
theorem eq_of_runRel_inside {x y : Run Results}
    (h : (inside top given allowed hstalled).RunRel
      (inside top given allowed hstalled).ResultsRel x y) :
    x = y ∧ ∀ n ∈ x.log, allowed n := by
  rcases diagonal_inside.eq_of_runRel h with ⟨_, _, hno⟩ | rfl
  · exact hno.elim
  · rcases h with ⟨_, _, hno⟩ | ⟨-, hlog⟩
    · exact hno.elim
    · exact ⟨rfl, fun n hn => (List.forall₂_same.1 hlog n hn).2⟩

/-- Repetitions of contained parsers correspond under any two caps that leave enough room. -/
theorem freeRel_inside {p p' : Parser}
    (hpp' : (inside top given allowed hstalled).ParserRel p p') (hp : p.Contained)
    (hp' : p'.Contained) {cap cap' : Int} (hcap : top.length + 1 < cap)
    (hcap' : top.length + 1 < cap') :
    (inside top given allowed hstalled).FreeRel cap cap' p p' := by
  intro x x' hx hsuc
  obtain ⟨rest, _, hrest, hrest', rfl, hwithin⟩ := hx.exists_remaining hsuc
  have hle : rest.length ≤ top.length := hwithin.length_le
  rw [hp.repeatFreely_eq_of_length_lt hrest (by omega),
    hp'.repeatFreely_eq_of_length_lt hrest' (by omega)]
  exact runRel_bind (hpp'.repeatFrom hx hsuc _) fun _ _ hy => runRel_pure hy.1

end Correspondence

namespace Grammar

variable (g : Grammar) (names : Names) (depth : Nat)

open Correspondence

/-- A grammar has corresponding parsers under two caps above the length of a window, inside it. -/
theorem parserRel_cap (top : Span) {cap cap' : Int} (hcap : top.length + 1 < cap)
    (hcap' : top.length + 1 < cap') :
    (inside top (g.Gives names) Notice.Uncapped Notice.uncapped_stalled).ParserRel
      (g.parserIn names cap depth) (g.parserIn names cap' depth) := by
  refine parserRel_parserIn rfl depth ?_ g ⟨fun _ hf => ⟨rfl, Or.inr hf⟩, fun _ => rfl⟩
  intro d _ p hp
  exact freeRel_inside hp (p.contained_parserIn names cap d) (p.contained_parserIn names cap' d)
    hcap hcap'

/-- **The cap does not matter when it is large.**  Under any two caps above the length of the window
plus one, a grammar gives the same run, and nothing in it notes that a cap was reached.  On every
window inside the given one, a repetition of any body counts at most one application more than that
window has tokens, each of them but the first one shortens the window, and the repetition ends
because the next application fails or does not move. -/
theorem parse_cap {r : Span} {cap cap' : Int} (hcap : r.length + 1 < cap)
    (hcap' : r.length + 1 < cap') :
    (g.parserIn names cap depth).parse r = (g.parserIn names cap' depth).parse r ∧
    (∀ description count,
      .capped description count ∉ ((g.parserIn names cap depth).parse r).log) ∧
    ∀ (body : Grammar) (d : Nat) (s : Span), s.Within r →
      let p := body.parserIn names cap d
      let k := p.count s cap.toNat
      k ≤ s.length + 1 ∧ p.moves s k = false ∧
      (∀ i, 1 ≤ i → i < k → ∃ t after, p.place s i = some t ∧ p.place s (i + 1) = some after ∧
        after.length < t.length) ∧
      ∀ x y, (p.parse s).result = .ok x → x.isSuccess = true →
        (p.repeatFrom x cap.toNat).result = .ok y →
        y.1.toList = (List.range k).flatMap (p.outcomesOf s) ∧ y.2 = true := by
  obtain ⟨heq, hnotes⟩ := eq_of_runRel_inside
    ((g.parserRel_cap names depth r hcap hcap').parse ⟨rfl, .refl r⟩)
  refine ⟨heq, fun description count hmem => hnotes _ hmem description count rfl, ?_⟩
  intro body d s hs p k
  have hp : p.Contained := body.contained_parserIn names cap d
  have hk : k ≤ s.length + 1 := hp.count_le_length s cap.toNat
  have hlt : k < max 1 cap.toNat := by
    have := hs.length_le
    omega
  refine ⟨hk, Parser.not_moves_count hlt, fun i h1 hi => hp.exists_shorter h1 hi, ?_⟩
  intro x y hx hsuc hy
  obtain ⟨houtcomes, hended⟩ := Parser.repeatFrom_ok hx hsuc hy
  exact ⟨houtcomes, hended.trans (decide_eq_true hlt)⟩

/-- The case of repeated words of one letter, each with a comma after it. -/
theorem parse_cap_words :
    let word : Grammar := (Grammar.oneOrMore (.token (Datum.char 'a')) none).ignoreRight
      (.reference "comma" none)
    let names : Names := fun _ => some (.token (Datum.char ','))
    let g : Grammar := .zeroOrMore word none
    let r : Span := .whole (.ofText "aa,a,".toList)
    let cap : Int := 7
    let cap' : Int := 1000000
    (r.length + 1 < cap ∧ r.length + 1 < cap') ∧
    (g.parserIn names cap 1).parse r = (g.parserIn names cap' 1).parse r ∧
    (∀ description count,
      .capped description count ∉ ((g.parserIn names cap 1).parse r).log) ∧
    ∀ (body : Grammar) (d : Nat) (s : Span), s.Within r →
      let p := body.parserIn names cap d
      let k := p.count s cap.toNat
      k ≤ s.length + 1 ∧ p.moves s k = false ∧
      (∀ i, 1 ≤ i → i < k → ∃ t after, p.place s i = some t ∧ p.place s (i + 1) = some after ∧
        after.length < t.length) ∧
      ∀ x y, (p.parse s).result = .ok x → x.isSuccess = true →
        (p.repeatFrom x cap.toNat).result = .ok y →
        y.1.toList = (List.range k).flatMap (p.outcomesOf s) ∧ y.2 = true := by
  intro word names g r cap cap'
  have hcap : r.length + 1 < cap := by decide
  have hcap' : r.length + 1 < cap' := by decide
  exact ⟨⟨hcap, hcap'⟩, parse_cap g names 1 hcap hcap'⟩

end Grammar

end TokenGrammar
