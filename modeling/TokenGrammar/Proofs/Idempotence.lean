/-
# Repetitions of repetitions

A repetition ends where its parser fails or does not move.  There a repetition of the same parser
finds nothing new either: it fails, it gives an empty success, or it gives one more success that
does not move.  So a repetition that is repeated once more gives what it gives alone.
-/
import TokenGrammar.Proofs.ExactBound

namespace TokenGrammar

namespace Parser

variable {p : Parser} {r s : Span} {x y : Results} {cap : Int}

/-! ## Parsers that do not move -/

/-- A parser that leaves its window does not move. -/
theorem stays_of_remaining (hy : (p.parse s).result = .ok y) (hrest : y.remaining = some s) :
    p.Stays s := by
  refine ⟨?_, y, hy⟩
  rw [advances_of_ok hy, hrest, Span.advanced, Option.any_some, bne_self_eq_false, Bool.and_false]

/-- A contained parser that succeeds and does not move leaves the window as it is. -/
theorem Contained.remaining_eq_of_stays (hp : p.Contained) (hs : p.Stays s)
    (hy : (p.parse s).result = .ok y) (hsuc : y.isSuccess = true) : y.remaining = some s := by
  obtain ⟨t, ht⟩ := Results.exists_remaining_of_success hsuc
  have hstart : t.start = s.start := by
    simpa [advances_of_ok hy, hsuc, ht, Span.advanced] using hs.1
  rw [ht, (hp.remaining_within hy ht).eq_of_start_eq hstart]

/-! ## Repetitions that end at once -/

/-- If a parser does not move where its first success leaves off, one or more applications of it
give the results of the first one. -/
theorem result_oneOrMore_of_stays (hx : (p.parse r).result = .ok x) (hsuc : x.isSuccess = true)
    (hrest : x.remaining = some s) (hs : p.Stays s) (hcap : 1 < cap) :
    ((p.oneOrMore cap none).parse r).result = .ok x := by
  obtain ⟨room, hroom⟩ : ∃ room, cap.toNat - 1 = room + 1 := ⟨cap.toNat - 2, by omega⟩
  have hagain : (p.again (cap.toNat - 1) s).result = .ok ([], true) := by
    rw [hroom]
    exact result_again_of_stays hs room
  have hnothing : x.extend [] = x := Results.toList_injective (List.append_nil x.toList)
  rw [result_oneOrMore_of_again hx hsuc hrest hagain, hnothing]

/-- So do any number of applications. -/
theorem result_zeroOrMore_of_stays (hx : (p.parse r).result = .ok x) (hsuc : x.isSuccess = true)
    (hrest : x.remaining = some s) (hs : p.Stays s) (hcap : 1 < cap) :
    ((p.zeroOrMore cap none).parse r).result = .ok x := by
  rw [zeroOrMore_eq_oneOrMore hx hsuc]
  exact result_oneOrMore_of_stays hx hsuc hrest hs hcap

namespace Contained

variable (hp : p.Contained)
include hp

/-- Where a parser does not move, its repetitions do not move either. -/
theorem stays_zeroOrMore (hs : p.Stays s) (hcap : 1 < cap) : (p.zeroOrMore cap none).Stays s := by
  obtain ⟨y, hy⟩ := hs.2
  cases hsuc : y.isSuccess with
  | false => exact stays_of_remaining (result_zeroOrMore_of_failure hy hsuc cap none) rfl
  | true =>
    have hrest : y.remaining = some s := hp.remaining_eq_of_stays hs hy hsuc
    exact stays_of_remaining (result_zeroOrMore_of_stays hy hsuc hrest hs hcap) hrest

/-- A repetition of a parser that does not move does not move. -/
theorem stays_oneOrMore (hs : p.Stays s) (hcap : 1 < cap) : (p.oneOrMore cap none).Stays s := by
  obtain ⟨y, hy⟩ := hs.2
  cases hsuc : y.isSuccess with
  | false => exact stays_of_failure (result_oneOrMore_of_failure hy hsuc cap none) rfl
  | true =>
    have hrest : y.remaining = some s := hp.remaining_eq_of_stays hs hy hsuc
    exact stays_of_remaining (result_oneOrMore_of_stays hy hsuc hrest hs hcap) hrest

/-! ## Where a repetition ends -/

/-- A repetition that gives results succeeds, and it leaves a window on which its parser does not
move. -/
theorem exists_stays_of_zeroOrMore (hcap : r.length + 1 < cap)
    (hy : ((p.zeroOrMore cap none).parse r).result = .ok y) :
    y.isSuccess = true ∧ ∃ s, y.remaining = some s ∧ p.Stays s := by
  cases hx : (p.parse r).result with
  | error e =>
    rw [result_zeroOrMore_of_error hx] at hy
    cases hy
  | ok x =>
    cases hsuc : x.isSuccess with
    | false =>
      rw [result_zeroOrMore_of_failure hx hsuc] at hy
      cases hy
      exact ⟨rfl, r, rfl, stays_of_failure hx hsuc⟩
    | true =>
      rw [hp.result_zeroOrMore_none hx hsuc hcap] at hy
      obtain ⟨s, hs, hplace, hstays⟩ := hp.exists_not_advances hx hsuc
      -- the application that ends the repetition gives results, or there would be none at all
      rw [ending, hplace, Option.elim_some, result_dropped] at hy
      cases hz : (p.parse s).result with
      | error e =>
        rw [hz] at hy
        cases hy
      | ok z =>
        rw [hz] at hy
        cases hy
        exact ⟨hsuc, s, hs, hstays, z, hz⟩

end Contained

/-! ## Idempotence -/

/-- **Repetition is idempotent.**  If the cap leaves enough room, then any number of repetitions
without a bound inside each other give what one of them gives: one or more times one or more times a
parser is one or more times the parser, and any other combination is any number of times the parser.
If one side halts, then so does the other, for the same reason. -/
theorem repetition_idempotent (hp : p.Contained) (r : Span) {cap : Int}
    (hcap : r.length + 1 < cap) :
    let many := p.zeroOrMore cap none
    let some := p.oneOrMore cap none
    ((many.zeroOrMore cap none).parse r).result = (many.parse r).result ∧
    ((some.oneOrMore cap none).parse r).result = (some.parse r).result ∧
    ((some.zeroOrMore cap none).parse r).result = (many.parse r).result ∧
    ((many.oneOrMore cap none).parse r).result = (many.parse r).result := by
  intro many some
  have hone : 1 < cap := by omega
  have hmany : ((many.zeroOrMore cap none).parse r).result = (many.parse r).result ∧
      ((many.oneOrMore cap none).parse r).result = (many.parse r).result := by
    cases hy : (many.parse r).result with
    | error e =>
      exact ⟨result_zeroOrMore_of_error hy cap none, result_oneOrMore_of_error hy cap none⟩
    | ok y =>
      obtain ⟨hsuc, s, hrest, hs⟩ := hp.exists_stays_of_zeroOrMore hcap hy
      have hstays : many.Stays s := hp.stays_zeroOrMore hs hone
      exact ⟨result_zeroOrMore_of_stays hy hsuc hrest hstays hone,
        result_oneOrMore_of_stays hy hsuc hrest hstays hone⟩
  have hsome : ((some.oneOrMore cap none).parse r).result = (some.parse r).result ∧
      ((some.zeroOrMore cap none).parse r).result = (many.parse r).result := by
    cases hx : (p.parse r).result with
    | error e =>
      have hy : (some.parse r).result = .error e := result_oneOrMore_of_error hx cap none
      have hy' : (many.parse r).result = .error e := result_zeroOrMore_of_error hx cap none
      rw [hy, hy']
      exact ⟨result_oneOrMore_of_error hy cap none, result_zeroOrMore_of_error hy cap none⟩
    | ok x =>
      cases hsuc : x.isSuccess with
      | false =>
        have hy : (some.parse r).result = .ok (.fail (.tooFew r.start)) :=
          result_oneOrMore_of_failure hx hsuc cap none
        have hy' : (many.parse r).result = .ok (.single (.empty r)) :=
          result_zeroOrMore_of_failure hx hsuc cap none
        rw [hy, hy']
        exact ⟨result_oneOrMore_of_failure hy rfl cap none,
          result_zeroOrMore_of_failure hy rfl cap none⟩
      | true =>
        -- after a success of the first application the two repetitions are the same
        have heq : many.parse r = some.parse r := zeroOrMore_eq_oneOrMore hx hsuc cap
        rw [heq]
        cases hy : (some.parse r).result with
        | error e =>
          exact ⟨result_oneOrMore_of_error hy cap none, result_zeroOrMore_of_error hy cap none⟩
        | ok y =>
          obtain ⟨hysuc, s, hrest, hs⟩ := hp.exists_stays_of_zeroOrMore hcap (heq ▸ hy)
          have hstays : some.Stays s := hp.stays_oneOrMore hs hone
          exact ⟨result_oneOrMore_of_stays hy hysuc hrest hstays hone,
            result_zeroOrMore_of_stays hy hysuc hrest hstays hone⟩
  exact ⟨hmany.1, hsome.1, hsome.2, hmany.2⟩

/-- The case of a letter that may be absent: the repetition ends with a success that does not move,
while the letter by itself is not found where the window begins. -/
theorem repetition_idempotent_letters :
    let p := (Grammar.optional (.token (Datum.char 'a')) none).parserIn (fun _ => none) 6 0
    let r : Span := .whole (.ofText "aab".toList)
    let many := p.zeroOrMore 6 none
    let some := p.oneOrMore 6 none
    p.Contained ∧ r.length + 1 < (6 : Int) ∧
    ((many.zeroOrMore 6 none).parse r).result = (many.parse r).result ∧
    ((some.oneOrMore 6 none).parse r).result = (some.parse r).result ∧
    ((some.zeroOrMore 6 none).parse r).result = (many.parse r).result ∧
    ((many.oneOrMore 6 none).parse r).result = (many.parse r).result := by
  intro p r many some
  have hp : p.Contained := Grammar.contained_parserIn _ _ _ _
  have hcap : r.length + 1 < (6 : Int) := by decide
  exact ⟨hp, hcap, repetition_idempotent hp r hcap⟩

end Parser

end TokenGrammar
