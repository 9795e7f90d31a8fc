/-
# Repetition as iteration

The reference for a repetition is the sequence of windows that a parser is applied to one after the
other.  An application counts as long as all applications before it succeeded and moved.  The loop
is shown to give what the counted applications give, in order, and nothing of the one that ends it.
-/
import Mathlib.Data.Nat.Find
import TokenGrammar.Parser.Repeat

namespace TokenGrammar

namespace Parser

variable (p : Parser)

/-! ## A single application -/

/-- The input left by an application. -/
def rest? (s : Span) : Option Span :=
  match (p.parse s).result with
  | .ok x => x.remaining
  | .error _ => none

/-- Whether an application succeeds and moves the start of the window. -/
def advances (s : Span) : Bool :=
  match (p.parse s).result with
  | .ok x => x.isSuccess && s.advanced x.remaining
  | .error _ => false

/-- The outcomes of an application. -/
def outcomes (s : Span) : List Outcome :=
  match (p.parse s).result with
  | .ok x => x.toList
  | .error _ => []

/-- An application whose outcomes are dropped, with a note if it succeeds. -/
def dropped (s : Span) : Run Unit := do
  let x ← p.parse s
  if x.isSuccess then Run.note (.stalled p.description s.start)

variable {p}

/-- What a parser leaves is what its results leave. -/
theorem rest?_of_ok {s : Span} {x : Results} (hx : (p.parse s).result = .ok x) :
    p.rest? s = x.remaining := by
  rw [rest?, hx]

/-- A parser advances if its results do. -/
theorem advances_of_ok {s : Span} {x : Results} (hx : (p.parse s).result = .ok x) :
    p.advances s = (x.isSuccess && s.advanced x.remaining) := by
  rw [advances, hx]

/-- If a parser leaves something, it gave results. -/
theorem exists_of_rest? {s after : Span} (h : p.rest? s = some after) :
    ∃ x, (p.parse s).result = .ok x ∧ x.remaining = some after := by
  rw [rest?] at h
  cases hx : (p.parse s).result with
  | error e =>
    rw [hx] at h
    cases h
  | ok x =>
    rw [hx] at h
    exact ⟨x, rfl, h⟩

/-- The outcomes of a parser are those of its results. -/
theorem outcomes_of_ok {s : Span} {x : Results} (hx : (p.parse s).result = .ok x) :
    p.outcomes s = x.toList := by
  rw [outcomes, hx]

/-- An application that moves gives results that leave a window with another start. -/
theorem exists_of_advances {s : Span} (h : p.advances s = true) :
    ∃ x after, (p.parse s).result = .ok x ∧ x.isSuccess = true ∧ x.remaining = some after ∧
      after.start ≠ s.start := by
  rw [advances] at h
  cases hx : (p.parse s).result with
  | error e =>
    rw [hx] at h
    cases h
  | ok x =>
    rw [hx, Bool.and_eq_true] at h
    obtain ⟨after, hafter⟩ := Results.exists_remaining_of_success h.1
    refine ⟨x, after, rfl, h.1, hafter, ?_⟩
    have hmoved := h.2
    rw [hafter, Span.advanced, Option.any_some, bne_iff_ne] at hmoved
    exact hmoved

/-- A loop goes on after an application that moves. -/
theorem again_of_advances {s after : Span} {x : Results} (hx : (p.parse s).result = .ok x)
    (hsuc : x.isSuccess = true) (hafter : x.remaining = some after)
    (hmoved : after.start ≠ s.start) (room : Nat) :
    p.again (room + 1) s = p.parse s >>= fun _ => p.again room after >>= fun y =>
      pure (x.toList ++ y.1, y.2) := by
  rw [again, Run.bind_of_ok hx, Run.bind_of_ok hx]
  simp only [hsuc, hafter, hmoved, if_true, if_false]

/-- A loop ends with an application that does not move. -/
theorem again_of_not_advances {s : Span} (h : p.advances s = false) (room : Nat) :
    p.again (room + 1) s = p.dropped s >>= fun _ => pure ([], true) := by
  rw [again, dropped, Run.bind_assoc]
  rw [advances] at h
  cases hx : (p.parse s).result with
  | error e => rw [Run.bind_of_error hx, Run.bind_of_error hx]
  | ok x =>
    rw [hx] at h
    rw [Run.bind_of_ok hx, Run.bind_of_ok hx]
    cases hsuc : x.isSuccess with
    | false => rfl
    | true =>
      obtain ⟨after, hafter⟩ := Results.exists_remaining_of_success hsuc
      have hstays : after.start = s.start := by
        simpa [hsuc, hafter, Span.advanced] using h
      simp only [hafter, hstays, if_true]

variable (p)

/-! ## The sequence of applications -/

/-- Where the sequence of applications stands after `i` of them. -/
def place (r : Span) : Nat → Option Span
  | 0 => some r
  | i + 1 => (place r i).bind p.rest?

/-- Whether application `i + 1` is reached, succeeds and moves. -/
def moves (r : Span) (i : Nat) : Bool :=
  (p.place r i).any p.advances

/-- The outcomes of application `i + 1`. -/
def outcomesOf (r : Span) (i : Nat) : List Outcome :=
  (p.place r i).elim [] p.outcomes

/-- The notes taken by application `i + 1`. -/
def notesOf (r : Span) (i : Nat) : List Notice :=
  (p.place r i).elim [] fun s => (p.parse s).log

/-- Application `k + 1` as the one that ends a repetition. -/
def ending (r : Span) (k : Nat) : Run Unit :=
  (p.place r k).elim (pure ()) p.dropped

/-- The largest number of applications, up to `limit` but at least one, such that all of them but
the first succeed and move. -/
def count (r : Span) (limit : Nat) : Nat :=
  Nat.findGreatest (fun k => ∀ i < k, 1 ≤ i → p.moves r i = true) (max 1 limit)

variable {p}

/-- The first application always counts. -/
theorem one_le_count (r : Span) (limit : Nat) : 1 ≤ p.count r limit :=
  Nat.le_findGreatest (Nat.le_max_left 1 limit) fun i hi h1 => absurd hi (by omega)

/-- No more applications count than the limit allows. -/
theorem count_le (r : Span) (limit : Nat) : p.count r limit ≤ max 1 limit :=
  Nat.findGreatest_le _

/-- Every application that counts, but for the last one, moves. -/
theorem moves_of_lt_count {r : Span} {limit i : Nat} (h1 : 1 ≤ i) (hi : i < p.count r limit) :
    p.moves r i = true := by
  have hne : p.count r limit ≠ 0 := by omega
  exact Nat.findGreatest_of_ne_zero rfl hne i hi h1

/-- An application that moves leaves the window with which the sequence goes on. -/
theorem exists_of_moves {r : Span} {i : Nat} (h : p.moves r i = true) :
    ∃ s x after, p.place r i = some s ∧ (p.parse s).result = .ok x ∧ x.isSuccess = true ∧
      x.remaining = some after ∧ after.start ≠ s.start ∧ p.place r (i + 1) = some after := by
  rw [moves] at h
  cases hs : p.place r i with
  | none =>
    rw [hs] at h
    cases h
  | some s =>
    rw [hs] at h
    obtain ⟨x, after, hx, hsuc, hafter, hmoved⟩ := exists_of_advances h
    refine ⟨s, x, after, rfl, hx, hsuc, hafter, hmoved, ?_⟩
    rw [place, hs, Option.bind_some, rest?_of_ok hx, hafter]

/-- The application after the counted ones does not move, unless there are as many as allowed. -/
theorem not_moves_count {r : Span} {limit : Nat} (h : p.count r limit < max 1 limit) :
    p.moves r (p.count r limit) = false := by
  by_contra hmoves
  rw [Bool.not_eq_false] at hmoves
  -- otherwise one application more would count
  refine Nat.findGreatest_is_greatest (Nat.lt_succ_self (p.count r limit)) h ?_
  intro i hi h1
  rcases Nat.lt_succ_iff_lt_or_eq.1 hi with hlt | rfl
  · exact moves_of_lt_count h1 hlt
  · exact hmoves

/-! ## The loop -/

variable (p) in
/-- What `n` applications from number `i + 1` on give, and the notes they take. -/
def gathered (r : Span) (i n : Nat) : Run (List Outcome) where
  result := .ok ((List.range' i n).flatMap (p.outcomesOf r))
  log := (List.range' i n).flatMap (p.notesOf r)

/-- No applications gather nothing. -/
@[simp] theorem gathered_zero (r : Span) (i : Nat) : p.gathered r i 0 = pure [] := rfl

/-- One application more gathers its outcomes first. -/
theorem gathered_succ {r s : Span} {i : Nat} {x : Results} (hs : p.place r i = some s)
    (hx : (p.parse s).result = .ok x) (n : Nat) :
    p.gathered r i (n + 1) = p.parse s >>= fun _ => p.gathered r (i + 1) n >>= fun os =>
      pure (x.toList ++ os) := by
  rw [Run.bind_of_ok hx]
  simp [gathered, List.range'_succ, outcomesOf, notesOf, hs, outcomes_of_ok hx, Run.bind_def,
    Run.bind]

/-- The loop applied where the sequence stands after `i` applications: if the next `n` applications
move, and the one after them does not unless there is no room for it, then the loop gathers these
`n` and drops the one that ends it. -/
theorem again_eq {r s : Span} {i n room : Nat} (hs : p.place r i = some s) (hn : n ≤ room)
    (hmoves : ∀ j < n, p.moves r (i + j) = true)
    (hstop : n < room → p.moves r (i + n) = false) :
    p.again room s = p.gathered r i n >>= fun os =>
      if n < room then p.ending r (i + n) >>= fun _ => pure (os, true) else pure (os, false) := by
  induction n generalizing i s room with
  | zero =>
    cases room with
    | zero => rfl
    | succ room =>
      -- there is room for one more application, and it does not move
      have hstays : p.advances s = false := by
        simpa [moves, hs] using hstop (Nat.succ_pos room)
      rw [again_of_not_advances hstays, gathered_zero, Run.pure_bind, if_pos (Nat.succ_pos room),
        ending, Nat.add_zero, hs, Option.elim_some]
  | succ n ih =>
    obtain ⟨room, rfl⟩ : ∃ m, room = m + 1 := ⟨room - 1, by omega⟩
    obtain ⟨t, x, after, ht, hx, hsuc, hafter, hmoved, hplace⟩ :=
      exists_of_moves (hmoves 0 (Nat.succ_pos n))
    obtain rfl : t = s := Option.some.inj (ht.symm.trans hs)
    have hnext : i + 1 + n = i + (n + 1) := by omega
    have htail := ih hplace (Nat.le_of_succ_le_succ hn)
      (fun j hj => by
        have := hmoves (j + 1) (Nat.succ_lt_succ hj)
        rwa [show i + 1 + j = i + (j + 1) by omega])
      (fun hlt => hnext ▸ hstop (Nat.succ_lt_succ hlt))
    -- this application comes first among those gathered, and the loop goes on where it ends
    rw [again_of_advances hx hsuc hafter hmoved, htail, gathered_succ hs hx, hnext,
      Run.bind_assoc]
    simp only [Run.bind_assoc, Run.pure_bind, Nat.succ_lt_succ_iff]
    split
    · simp only [Run.bind_assoc, Run.pure_bind]
    · rfl

/-! ## The repetitions -/

/-- The loop of a repetition, for any limit. -/
theorem repeatFrom_eq_again {x : Results} {after : Span} (hafter : x.remaining = some after)
    (limit : Nat) :
    p.repeatFrom x limit
      = p.again (limit - 1) after >>= fun y => pure (x.extend y.1, y.2) := by
  rw [repeatFrom]
  cases limit - 1 with
  | zero => simp [again, Results.extend]
  | succ room => simp only [hafter]

/-- The counted applications together, followed by something that takes notes only or halts. -/
theorem gathered_bind {r : Span} {x : Results} (hx : (p.parse r).result = .ok x) (n : Nat)
    (last : Run Unit) :
    (p.parse r >>= fun _ => p.gathered r 1 n >>= fun os => last >>= fun _ => pure (x.extend os)) =
      { result := last.result.map fun _ => x.extend ((List.range' 1 n).flatMap (p.outcomesOf r))
        log := (List.range (n + 1)).flatMap (p.notesOf r) ++ last.log } := by
  have hrange : List.range (n + 1) = 0 :: List.range' 1 n := by
    rw [List.range_eq_range', List.range'_succ]
  have hfirst : p.notesOf r 0 = (p.parse r).log := rfl
  rw [Run.bind_of_ok hx, gathered, Run.bind_of_ok rfl, hrange, List.flatMap_cons, hfirst]
  cases hlast : last.result with
  | error e =>
    rw [Run.bind_of_error hlast, List.append_assoc]
    rfl
  | ok _ =>
    rw [Run.bind_of_ok hlast, Run.log_pure, List.append_nil, List.append_assoc]
    rfl

/-- The outcomes of the first application and of the next ones. -/
theorem toList_extend_outcomesOf {r : Span} {x : Results} (hx : (p.parse r).result = .ok x)
    {k : Nat} (h1 : 1 ≤ k) :
    (x.extend ((List.range' 1 (k - 1)).flatMap (p.outcomesOf r))).toList
      = (List.range k).flatMap (p.outcomesOf r) := by
  have hfirst : p.outcomesOf r 0 = x.toList := outcomes_of_ok hx
  have hk : k - 1 + 1 = k := Nat.sub_add_cancel h1
  rw [← hk, List.range_eq_range', List.range'_succ, List.flatMap_cons, hfirst, hk]
  rfl

/-- A success among the applications decides where the sequence goes on. -/
theorem lastRest?_outcomesOf {r s : Span} {i : Nat} {x : Results} (hi : p.place r i = some s)
    (hx : (p.parse s).result = .ok x) (hsuc : x.isSuccess = true) :
    Results.lastRest? ((List.range (i + 1)).flatMap (p.outcomesOf r)) = p.place r (i + 1) := by
  obtain ⟨after, hafter⟩ := Results.exists_remaining_of_success hsuc
  have hlast : p.outcomesOf r i = x.toList := by
    rw [outcomesOf, hi, Option.elim_some, outcomes_of_ok hx]
  rw [List.range_succ, List.flatMap_append, List.flatMap_singleton, Results.lastRest?_append,
    hlast, ← Results.remaining, hafter, place, hi, Option.bind_some, rest?_of_ok hx, hafter]
  rfl

section Repetitions

variable {r : Span} {x : Results} (hx : (p.parse r).result = .ok x) (hsuc : x.isSuccess = true)
include hx hsuc

/-- A repetition gathers the counted applications, drops the one after them if it is allowed to
apply the parser once more, and tells whether it was. -/
theorem repeatFrom_eq (limit : Nat) :
    p.repeatFrom x limit
      = p.gathered r 1 (p.count r limit - 1) >>= fun os =>
        if p.count r limit < max 1 limit then
          p.ending r (p.count r limit) >>= fun _ => pure (x.extend os, true)
        else pure (x.extend os, false) := by
  obtain ⟨after, hafter⟩ := Results.exists_remaining_of_success hsuc
  have hplace : p.place r 1 = some after := by
    rw [place, place, Option.bind_some, rest?_of_ok hx, hafter]
  have h1 : 1 ≤ p.count r limit := one_le_count r limit
  have hle : p.count r limit ≤ max 1 limit := count_le r limit
  have hcount : 1 + (p.count r limit - 1) = p.count r limit := by omega
  have hroom : p.count r limit - 1 < limit - 1 ↔ p.count r limit < max 1 limit := by omega
  have hmoves : ∀ j < p.count r limit - 1, p.moves r (1 + j) = true := by
    intro j hj
    have hlt : 1 + j < p.count r limit := by omega
    exact moves_of_lt_count (by omega) hlt
  have hstop : p.count r limit - 1 < limit - 1 →
      p.moves r (1 + (p.count r limit - 1)) = false := by
    intro hlt
    rw [hcount]
    exact not_moves_count (hroom.1 hlt)
  rw [repeatFrom_eq_again hafter, again_eq hplace (by omega) hmoves hstop, Run.bind_assoc, hcount]
  simp only [hroom]
  congr 1
  funext os
  split
  · simp only [Run.bind_assoc, Run.pure_bind]
  · rfl

/-- What a repetition gives if it does not halt, and when it says that it ended by itself. -/
theorem repeatFrom_ok {limit : Nat} {y : Results × Bool}
    (hy : (p.repeatFrom x limit).result = .ok y) :
    y.1.toList = (List.range (p.count r limit)).flatMap (p.outcomesOf r) ∧
      y.2 = decide (p.count r limit < max 1 limit) := by
  have hlist := toList_extend_outcomesOf hx (one_le_count (p := p) r limit)
  rw [repeatFrom_eq hx hsuc, gathered, Run.bind_of_ok rfl] at hy
  split at hy
  · next h =>
    obtain ⟨_, _, hend⟩ := Run.exists_of_bind_eq_ok hy
    cases hend
    exact ⟨hlist, (decide_eq_true h).symm⟩
  · next h =>
    cases hy
    exact ⟨hlist, (decide_eq_false h).symm⟩

/-- A repetition without a bound of its own notes that it reached the cap if it did. -/
theorem repeatFreely_eq (cap : Int) :
    p.repeatFreely cap x
      = p.gathered r 1 (p.count r cap.toNat - 1) >>= fun os =>
        (if p.count r cap.toNat < max 1 cap.toNat then p.ending r (p.count r cap.toNat)
          else Run.note (.capped p.description (p.count r cap.toNat))) >>= fun _ =>
        pure (x.extend os) := by
  rw [repeatFreely, repeatFrom_eq hx hsuc, Run.bind_assoc]
  congr 1
  funext os
  split
  · simp only [Run.bind_assoc, Run.pure_bind, if_true]
  · next h =>
    -- no room is left, so that the count is the number that the note gives
    have hcap : max 1 cap.toNat = p.count r cap.toNat := by
      have := count_le (p := p) r cap.toNat
      omega
    simp only [Run.pure_bind, hcap]
    rfl

/-- A bounded repetition takes no note of its own. -/
theorem repeatFrom_fst_eq (limit : Nat) :
    (p.repeatFrom x limit >>= fun y => pure y.1)
      = p.gathered r 1 (p.count r limit - 1) >>= fun os =>
        (if p.count r limit < max 1 limit then p.ending r (p.count r limit) else pure ()) >>=
          fun _ => pure (x.extend os) := by
  rw [repeatFrom_eq hx hsuc, Run.bind_assoc]
  congr 1
  funext os
  split
  · simp only [Run.bind_assoc, Run.pure_bind]
  · rfl

/-- One or more applications after a success of the first one, bounded or not. -/
theorem oneOrMore_eq (cap : Int) (bound : Option Bound) :
    let limit := bound.elim cap.toNat Bound.limit
    let k := p.count r limit
    (p.oneOrMore cap bound).parse r
      = p.parse r >>= fun _ => p.gathered r 1 (k - 1) >>= fun os =>
        (if k < max 1 limit then p.ending r k
          else if bound.isNone then Run.note (.capped p.description k) else pure ()) >>=
          fun _ => pure (x.extend os) := by
  simp only [oneOrMore]
  rw [Run.bind_of_ok hx, Run.bind_of_ok hx, hsuc]
  cases bound with
  | none =>
    simp only [Option.elim_none, Option.isNone_none, if_true, repeatFreely_eq hx hsuc]
  | some b =>
    simp only [Option.elim_some, Option.isNone_some, Bool.false_eq_true, if_true, if_false]
    rw [← repeatFrom_fst_eq hx hsuc]

/-- The last of the counted applications decides where the sequence goes on after them. -/
theorem lastRest?_counted (limit : Nat) :
    Results.lastRest? ((List.range (p.count r limit)).flatMap (p.outcomesOf r))
      = p.place r (p.count r limit) := by
  have h1 : 1 ≤ p.count r limit := one_le_count r limit
  obtain ⟨i, hi⟩ : ∃ i, p.count r limit = i + 1 := ⟨p.count r limit - 1, by omega⟩
  rw [hi]
  rcases Nat.eq_zero_or_pos i with rfl | hpos
  · exact lastRest?_outcomesOf rfl hx hsuc
  -- every counted application but the first one is known to succeed because it moves
  · have hlt : i < p.count r limit := by omega
    obtain ⟨s, y, _, hs, hy, hysuc, _⟩ := exists_of_moves (moves_of_lt_count hpos hlt)
    exact lastRest?_outcomesOf hs hy hysuc

end Repetitions

/-- The two repetitions without a bound agree after a success. -/
theorem zeroOrMore_eq_oneOrMore {r : Span} {x : Results} (hx : (p.parse r).result = .ok x)
    (hsuc : x.isSuccess = true) (cap : Int) :
    (p.zeroOrMore cap none).parse r = (p.oneOrMore cap none).parse r := by
  simp only [zeroOrMore, oneOrMore]
  rw [Run.bind_of_ok hx, Run.bind_of_ok hx, hsuc]
  rfl

variable (p)

end Parser

end TokenGrammar
