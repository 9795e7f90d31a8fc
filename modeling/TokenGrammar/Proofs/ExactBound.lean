/-
# Bounds of repetitions

A repetition with a bound of its own looks once behind the last application that it may keep.  It
gives what a repetition without a bound gives, unless that keeps more applications than the bound
allows; then it fails at the place where the first application too many begins.
-/
import TokenGrammar.Proofs.Cap

namespace TokenGrammar

namespace Parser

variable {p : Parser} {r s : Span} {x : Results}

/-! ## The number of applications -/

/-- A number of applications with the properties of the count is the count. -/
theorem count_eq {limit k : Nat} (h1 : 1 ≤ k) (hk : k ≤ max 1 limit)
    (hmoves : ∀ i, 1 ≤ i → i < k → p.moves r i = true)
    (hstop : k < max 1 limit → p.moves r k = false) : p.count r limit = k := by
  rw [count, Nat.findGreatest_eq_iff]
  refine ⟨hk, fun _ i hi h1 => hmoves i h1 hi, ?_⟩
  intro n hlt hn hall
  -- a greater number would make the application move that does not
  have hmoved : p.moves r k = true := hall k hlt h1
  rw [hstop (Nat.lt_of_lt_of_le hlt hn)] at hmoved
  cases hmoved

variable (p) in
/-- The number of applications that a repetition without any limit keeps: none if the first one does
not succeed, and otherwise that one and all that succeed and move after it.  A contained parser
cannot keep more than this looks for. -/
def kept (r : Span) : Nat :=
  match (p.parse r).result with
  | .ok x => if x.isSuccess then p.count r (r.length + 2) else 0
  | .error _ => 0

/-- After a success, as much is kept as applications count. -/
theorem kept_eq_count (hx : (p.parse r).result = .ok x) (hsuc : x.isSuccess = true) :
    p.kept r = p.count r (r.length + 2) := by
  simp [kept, hx, hsuc]

namespace Contained

variable (hp : p.Contained)
include hp

/-- Behind the applications that are kept there is one that does not move. -/
theorem not_moves_kept (hx : (p.parse r).result = .ok x) (hsuc : x.isSuccess = true) :
    p.moves r (p.kept r) = false := by
  have hle : p.count r (r.length + 2) ≤ r.length + 1 := hp.count_le_length r _
  have hlt : p.count r (r.length + 2) < max 1 (r.length + 2) := by omega
  rw [kept_eq_count hx hsuc]
  exact not_moves_count hlt

/-- Any limit cuts off the applications that would be kept without it. -/
theorem count_eq_min (hx : (p.parse r).result = .ok x) (hsuc : x.isSuccess = true) (limit : Nat) :
    p.count r limit = min (p.kept r) (max 1 limit) := by
  have h1 : 1 ≤ p.kept r := kept_eq_count hx hsuc ▸ one_le_count r _
  refine count_eq (Nat.le_min.2 ⟨h1, Nat.le_max_left ..⟩) (Nat.min_le_right ..) ?_ ?_
  · intro i hi hlt
    have hkept : i < p.count r (r.length + 2) :=
      kept_eq_count hx hsuc ▸ Nat.lt_of_lt_of_le hlt (Nat.min_le_left ..)
    exact moves_of_lt_count hi hkept
  · intro hlt
    have hmin : min (p.kept r) (max 1 limit) = p.kept r := by omega
    rw [hmin]
    exact hp.not_moves_kept hx hsuc

end Contained

/-! ## Results of repetitions -/

variable (p) in
/-- The results `x` of the first application and the outcomes of the next ones, `k` applications in
all. -/
def keptResults (r : Span) (x : Results) (k : Nat) : Results :=
  x.extend ((List.range' 1 (k - 1)).flatMap (p.outcomesOf r))

/-- Keeping some applications does not change whether the first one succeeded. -/
theorem isSuccess_keptResults (r : Span) (x : Results) (k : Nat) :
    (p.keptResults r x k).isSuccess = x.isSuccess := rfl

section Repetitions

variable (hx : (p.parse r).result = .ok x) (hsuc : x.isSuccess = true)
include hx hsuc

/-- The result of going on from a first success, for every limit. -/
theorem result_repeatFrom (limit : Nat) :
    (p.repeatFrom x limit).result =
      if p.count r limit < max 1 limit then
        (p.ending r (p.count r limit)).result.map fun _ =>
          (p.keptResults r x (p.count r limit), true)
      else .ok (p.keptResults r x (p.count r limit), false) := by
  rw [repeatFrom_eq hx hsuc, gathered, Run.bind_of_ok rfl]
  split
  · cases hend : (p.ending r (p.count r limit)).result with
    | error e => rw [Run.bind_of_error hend]; rfl
    | ok _ => rw [Run.bind_of_ok hend]; rfl
  · rfl

/-- The kept results leave the window behind the last application. -/
theorem remaining_keptResults (limit : Nat) :
    (p.keptResults r x (p.count r limit)).remaining = p.place r (p.count r limit) := by
  rw [Results.remaining, keptResults,
    toList_extend_outcomesOf hx (one_le_count (p := p) r limit)]
  exact lastRest?_counted hx hsuc limit

/-- The kept results of a contained parser leave a window on which it does not move. -/
theorem Contained.exists_not_advances (hp : p.Contained) :
    ∃ s, (p.keptResults r x (p.kept r)).remaining = some s ∧ p.place r (p.kept r) = some s ∧
      p.advances s = false := by
  have hrest := remaining_keptResults hx hsuc (r.length + 2)
  rw [← kept_eq_count hx hsuc] at hrest
  obtain ⟨s, hs⟩ := Results.exists_remaining_of_success (x := p.keptResults r x (p.kept r)) hsuc
  have hplace : p.place r (p.kept r) = some s := hrest.symm.trans hs
  have hmoves := hp.not_moves_kept hx hsuc
  rw [moves, hplace, Option.any_some] at hmoves
  exact ⟨s, hs, hplace, hmoves⟩

end Repetitions

/-- A note about the cap leaves the results as they are. -/
theorem result_repeatFreely (cap : Int) (x : Results) :
    (p.repeatFreely cap x).result = (p.repeatFrom x cap.toNat).result.map Prod.fst := by
  rw [repeatFreely]
  cases hy : (p.repeatFrom x cap.toNat).result with
  | error e =>
    rw [Run.bind_of_error hy]
    rfl
  | ok y =>
    rw [Run.bind_of_ok hy]
    obtain ⟨y, ended⟩ := y
    cases ended <;> rfl

/-- A dropped application only tells whether it halts. -/
theorem result_dropped (s : Span) :
    (p.dropped s).result = (p.parse s).result.map fun _ => () := by
  rw [dropped]
  cases hx : (p.parse s).result with
  | error e =>
    rw [Run.bind_of_error hx]
    rfl
  | ok x =>
    rw [Run.bind_of_ok hx]
    dsimp only
    split <;> rfl

variable (p) in
/-- `p` gives results on `s`, and they do not move: it fails, or it succeeds and goes on from a
window that begins where `s` begins. -/
def Stays (s : Span) : Prop :=
  p.advances s = false ∧ ∃ y, (p.parse s).result = .ok y

/-- A parser that fails does not move. -/
theorem stays_of_failure (hx : (p.parse s).result = .ok x) (hfail : x.isSuccess = false) :
    p.Stays s := by
  refine ⟨?_, x, hx⟩
  rw [advances_of_ok hx, hfail, Bool.false_and]

/-- A loop ends at once where its parser does not move. -/
theorem result_again_of_stays (hs : p.Stays s) (room : Nat) :
    (p.again (room + 1) s).result = .ok ([], true) := by
  obtain ⟨hstays, y, hy⟩ := hs
  have hdropped : (p.dropped s).result = .ok () := by
    rw [result_dropped, hy]
    rfl
  rw [again_of_not_advances hstays, Run.bind_of_ok hdropped]
  rfl

/-- If the first application does not succeed, it does not matter how many are allowed. -/
theorem result_zeroOrMore_of_failure (hx : (p.parse r).result = .ok x) (hfail : x.isSuccess = false)
    (cap : Int) (bound : Option Bound) :
    ((p.zeroOrMore cap bound).parse r).result = .ok (.single (.empty r)) := by
  simp only [zeroOrMore]
  rw [Run.bind_of_ok hx, hfail]
  rfl

/-- A repetition halts if the first application does. -/
theorem result_zeroOrMore_of_error {e : Halt} (hx : (p.parse r).result = .error e) (cap : Int)
    (bound : Option Bound) : ((p.zeroOrMore cap bound).parse r).result = .error e := by
  simp only [zeroOrMore]
  rw [Run.bind_of_error hx]

/-- A repetition that needs a match has too few if the first application fails. -/
theorem result_oneOrMore_of_failure (hx : (p.parse r).result = .ok x) (hfail : x.isSuccess = false)
    (cap : Int) (bound : Option Bound) :
    ((p.oneOrMore cap bound).parse r).result = .ok (.fail (.tooFew r.start)) := by
  simp only [oneOrMore]
  rw [Run.bind_of_ok hx, hfail]
  rfl

/-- A repetition that needs a match halts if the first application does. -/
theorem result_oneOrMore_of_error {e : Halt} (hx : (p.parse r).result = .error e) (cap : Int)
    (bound : Option Bound) : ((p.oneOrMore cap bound).parse r).result = .error e := by
  simp only [oneOrMore]
  rw [Run.bind_of_error hx]

section Success

variable (hx : (p.parse r).result = .ok x) (hsuc : x.isSuccess = true)
include hx hsuc

/-- One or more applications, bounded or not, give the results of those that count. -/
theorem result_oneOrMore (cap : Int) (bound : Option Bound) :
    let limit := bound.elim cap.toNat Bound.limit
    let k := p.count r limit
    ((p.oneOrMore cap bound).parse r).result =
      if k < max 1 limit then (p.ending r k).result.map fun _ => p.keptResults r x k
      else .ok (p.keptResults r x k) := by
  intro limit k
  rw [oneOrMore_eq hx hsuc cap bound, gathered_bind hx]
  split_ifs <;> rfl

/-- Behind the first results a repetition without a bound gives what its loop gives, or halts as its
loop does. -/
theorem result_oneOrMore_eq_again (hrest : x.remaining = some s) (cap : Int) :
    ((p.oneOrMore cap none).parse r).result
      = (p.again (cap.toNat - 1) s >>= fun y => pure (x.extend y.1)).result := by
  have hfree := result_repeatFreely (p := p) cap x
  rw [repeatFrom_eq_again hrest] at hfree
  simp only [oneOrMore]
  rw [Run.bind_of_ok hx, hsuc]
  refine hfree.trans ?_
  cases hy : (p.again (cap.toNat - 1) s).result with
  | error e =>
    rw [Run.bind_of_error hy, Run.bind_of_error hy]
    rfl
  | ok y =>
    rw [Run.bind_of_ok hy, Run.bind_of_ok hy]
    rfl

/-- A repetition that needs a match gives its first application and the further ones. -/
theorem result_oneOrMore_of_again (hrest : x.remaining = some s) {cap : Int} {os : List Outcome}
    {ended : Bool} (hagain : (p.again (cap.toNat - 1) s).result = .ok (os, ended)) :
    ((p.oneOrMore cap none).parse r).result = .ok (x.extend os) := by
  rw [result_oneOrMore_eq_again hx hsuc hrest, Run.bind_of_ok hagain]
  rfl

/-- A repetition without a bound ends with the application that does not move. -/
theorem Contained.result_zeroOrMore_none (hp : p.Contained) {cap : Int}
    (hcap : r.length + 1 < cap) :
    ((p.zeroOrMore cap none).parse r).result =
      (p.ending r (p.kept r)).result.map fun _ => p.keptResults r x (p.kept r) := by
  have hkept : p.kept r ≤ r.length + 1 := kept_eq_count hx hsuc ▸ hp.count_le_length r _
  have hcount : p.count r cap.toNat = p.kept r := by
    rw [hp.count_eq_min hx hsuc]
    omega
  have hlt : p.kept r < max 1 cap.toNat := by omega
  have hfree : ((p.zeroOrMore cap none).parse r).result = (p.repeatFreely cap x).result := by
    simp only [zeroOrMore]
    rw [Run.bind_of_ok hx, hsuc]
    rfl
  rw [hfree, result_repeatFreely, result_repeatFrom hx hsuc, hcount, if_pos hlt]
  cases (p.ending r (p.kept r)).result <;> rfl

end Success

end Parser

end TokenGrammar
