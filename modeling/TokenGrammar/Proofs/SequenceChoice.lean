/-
# Sequences and choices of several parsers

Several parsers in sequence run from left to right, each on the input that the one before it left,
and the first results that fail are final.  Several parsers in a choice are tried one after the
other on the same input, up to the first one that does not fail.  Neither depends on how the parsers
are put in parentheses, and a choice may be drawn out of what follows a common beginning.
-/
import Mathlib.Algebra.Free
import TokenGrammar.Grammar.Basic

namespace TokenGrammar

namespace Results

/-- It does not matter how results are put together. -/
theorem append_assoc (x y z : Results) : x ++ y ++ z = x ++ (y ++ z) := by
  apply toList_injective
  rw [toList_append, toList_append, toList_append, toList_append, List.append_assoc]

/-- Outcomes behind a success are gone on from where the last success among them leads. -/
theorem remaining_append_of_success {x y : Results} {rest : Span}
    (hrest : y.remaining = some rest) : (x ++ y).remaining = some rest := by
  rw [remaining_append, hrest]
  rfl

/-- What two results in sequence give together: the outcomes of both, or the second results alone if
they fail. -/
def joined (x y : Results) : Results :=
  if y.isSuccess then x ++ y else y

/-- A success is joined to what comes before. -/
theorem joined_of_success {y : Results} (hy : y.isSuccess = true) (x : Results) :
    x.joined y = x ++ y :=
  if_pos hy

/-- A failure takes the place of what comes before. -/
theorem joined_of_failure {y : Results} (hy : y.isSuccess = false) (x : Results) :
    x.joined y = y := by
  rw [joined, hy]
  rfl

/-- After a success, joined results succeed as what was joined does. -/
theorem isSuccess_joined {x : Results} (hx : x.isSuccess = true) (y : Results) :
    (x.joined y).isSuccess = y.isSuccess := by
  cases hy : y.isSuccess with
  | false => rw [joined_of_failure hy, hy]
  | true => rw [joined_of_success hy, isSuccess_append, hx]

/-- Behind a success in the middle it does not matter which two are joined first. -/
theorem joined_assoc {y : Results} (hy : y.isSuccess = true) (x z : Results) :
    (x.joined y).joined z = x.joined (y.joined z) := by
  cases hz : z.isSuccess with
  | false => rw [joined_of_failure hz, joined_of_failure hz, joined_of_failure hz]
  | true =>
    have hyz : (y ++ z).isSuccess = true := hy
    rw [joined_of_success hy, joined_of_success hz, joined_of_success hz, joined_of_success hyz,
      append_assoc]

end Results

namespace Parser

variable {p q s : Parser} {r : Span}

/-! ## Parentheses -/

/-- Parsers joined by an operation.  An element of the free magma says how they are put in
parentheses. -/
def grouped (op : Parser → Parser → Parser) : FreeMagma Parser → Parser
  | .of p => p
  | .mul t u => op (grouped op t) (grouped op u)

/-- The parsers that are joined, from left to right. -/
def members (t : FreeMagma Parser) : List Parser :=
  t.toFreeSemigroup.head :: t.toFreeSemigroup.tail

/-! ## Sequence -/

/-- A sequence runs the second parser on what the first one leaves. -/
theorem parse_andThen (p q : Parser) (r : Span) :
    (p.andThen q).parse r = p.parse r >>= fun x => x.proceed fun rest =>
      q.parse rest >>= fun y => pure (x.joined y) := rfl

/-- Going on from joined results is joining what the second results are gone on to. -/
theorem proceed_joined {x : Results} (hx : x.isSuccess = true) (y : Results) (s : Parser) :
    (x.joined y).proceed (fun rest => s.parse rest >>= fun z => pure ((x.joined y).joined z)) =
      (y.proceed fun rest => s.parse rest >>= fun z => pure (y.joined z)) >>= fun w =>
        pure (x.joined w) := by
  have hsuc : (x.joined y).isSuccess = y.isSuccess := Results.isSuccess_joined hx y
  cases hy : y.isSuccess with
  | false =>
    rw [Results.proceed_of_failure (hsuc.trans hy), Results.proceed_of_failure hy, Run.pure_bind]
  | true =>
    obtain ⟨rest, hrest⟩ := Results.exists_remaining_of_success hy
    have hjoined : (x.joined y).remaining = some rest := by
      rw [Results.joined_of_success hy]
      exact Results.remaining_append_of_success hrest
    rw [Results.proceed_of_success (hsuc.trans hy) hjoined, Results.proceed_of_success hy hrest,
      Run.bind_assoc]
    congr 1
    funext z
    rw [Run.pure_bind, Results.joined_assoc hy]

/-- A sequence of three runs alike however it is grouped. -/
theorem parse_andThen_assoc (p q s : Parser) (r : Span) :
    ((p.andThen q).andThen s).parse r = (p.andThen (q.andThen s)).parse r := by
  rw [parse_andThen, parse_andThen, parse_andThen, Run.bind_assoc]
  congr 1
  funext x
  cases hx : x.isSuccess with
  | false =>
    rw [Results.proceed_of_failure hx, Results.proceed_of_failure hx, Run.pure_bind,
      Results.proceed_of_failure hx]
  | true =>
    obtain ⟨rest, hrest⟩ := Results.exists_remaining_of_success hx
    rw [Results.proceed_of_success hx hrest, Results.proceed_of_success hx hrest, parse_andThen,
      Run.bind_assoc, Run.bind_assoc]
    congr 1
    funext y
    rw [Run.pure_bind]
    exact proceed_joined hx y s

/-- What follows a sequence may be taken into it. -/
theorem parse_sequence_append (p : Parser) (ps : List Parser) (q : Parser) (qs : List Parser)
    (r : Span) :
    (p.sequence (ps ++ q :: qs)).parse r = ((p.sequence ps).andThen (q.sequence qs)).parse r := by
  induction ps generalizing p r with
  | nil => rfl
  | cons p' ps ih =>
    have hrest : (p'.sequence (ps ++ q :: qs)).parse
        = ((p'.sequence ps).andThen (q.sequence qs)).parse := funext (ih p')
    rw [List.cons_append, sequence, sequence, parse_andThen_assoc, parse_andThen, parse_andThen,
      hrest]

/-- Parsers that are joined in sequence are run as the list of them, whatever the parentheses. -/
theorem parse_grouped_andThen (t : FreeMagma Parser) (r : Span) :
    (grouped andThen t).parse r
      = (t.toFreeSemigroup.head.sequence t.toFreeSemigroup.tail).parse r := by
  induction t generalizing r with
  | ih1 p => rfl
  | ih2 t u iht ihu =>
    have ht : (grouped andThen t).parse = _ := funext iht
    have hu : (grouped andThen u).parse = _ := funext ihu
    calc ((grouped andThen t).andThen (grouped andThen u)).parse r
        = ((t.toFreeSemigroup.head.sequence t.toFreeSemigroup.tail).andThen
            (u.toFreeSemigroup.head.sequence u.toFreeSemigroup.tail)).parse r := by
          rw [parse_andThen, parse_andThen, ht, hu]
      _ = (t.toFreeSemigroup.head.sequence
            (t.toFreeSemigroup.tail ++ u.toFreeSemigroup.head :: u.toFreeSemigroup.tail)).parse r :=
          (parse_sequence_append ..).symm

/-- Parsers run from left to right, each on the input that the one before it left.  Their outcomes
are gathered behind `os`.  Results that fail are final, without what was gathered. -/
def inTurn (os : List Outcome) (r : Span) : List Parser → Run (List Outcome)
  | [] => pure os
  | p :: ps => do
    let x ← p.parse r
    match x.isSuccess, x.remaining with
    | true, some rest => inTurn (os ++ x.toList) rest ps
    | _, _ => pure x.toList

/-- Gathering outcomes behind others and parsing in sequence are the same.  The induction is on the
parsers, and what is gathered grows. -/
theorem inTurn_eq (os : List Outcome) (p : Parser) (ps : List Parser) (r : Span) :
    inTurn os r (p :: ps) = (p.sequence ps).parse r >>= fun x =>
      pure (if x.isSuccess then os ++ x.toList else x.toList) := by
  induction ps generalizing os p r with
  | nil =>
    rw [inTurn, sequence]
    congr 1
    funext x
    cases hx : x.isSuccess with
    | false => rfl
    | true =>
      obtain ⟨rest, hrest⟩ := Results.exists_remaining_of_success hx
      rw [hrest]
      rfl
  | cons q qs ih =>
    rw [inTurn, sequence, parse_andThen, Run.bind_assoc]
    congr 1
    funext x
    cases hx : x.isSuccess with
    | false =>
      rw [Results.proceed_of_failure hx, Run.pure_bind, hx]
      rfl
    | true =>
      obtain ⟨rest, hrest⟩ := Results.exists_remaining_of_success hx
      rw [Results.proceed_of_success hx hrest, hrest, Run.bind_assoc]
      refine (ih (os ++ x.toList) q rest).trans ?_
      congr 1
      funext y
      rw [Run.pure_bind, Results.isSuccess_joined hx]
      cases hy : y.isSuccess with
      | false =>
        rw [Results.joined_of_failure hy]
        rfl
      | true =>
        rw [Results.joined_of_success hy, if_pos rfl, if_pos rfl, Results.toList_append,
          List.append_assoc]

/-- A sequence runs its parsers in turn, each on what those before it leave. -/
theorem sequence_eq_inTurn (p : Parser) (ps : List Parser) (r : Span) :
    Results.toList <$> (p.sequence ps).parse r = inTurn [] r (p :: ps) := by
  rw [inTurn_eq, map_eq_pure_bind]
  congr 1
  funext x
  rw [List.nil_append, ite_self]

/-! ## Choice -/

/-- `p` gives results on `r`, and they fail. -/
def Rejects (p : Parser) (r : Span) : Prop :=
  ∃ x, (p.parse r).result = .ok x ∧ x.isSuccess = false

/-- What a choice among `ps` gives on `r`: all alternatives before a certain one fail, and this one
gives the results or halts.  It does not fail, unless it is the last one.  The alternatives behind
it are not run. -/
def Settles (ps : List Parser) (r : Span) (y : Run Results) : Prop :=
  ∃ tried p untried, ps = tried ++ p :: untried ∧ (∀ q ∈ tried, q.Rejects r) ∧
    (p.Rejects r → untried = []) ∧ y.result = (p.parse r).result ∧
    y.log = (tried ++ [p]).flatMap fun q => (q.parse r).log

/-- A choice of one parser is settled by it. -/
theorem settles_single (p : Parser) (r : Span) : Settles [p] r (p.parse r) :=
  ⟨[], p, [], rfl, List.forall_mem_nil _, fun _ => rfl, rfl, (List.append_nil _).symm⟩

/-- After a rejection, a choice is the other parser with the notes of both. -/
theorem Rejects.parse_orElse (hp : p.Rejects r) (q : Parser) :
    (p.orElse q).parse r
      = { result := (q.parse r).result, log := (p.parse r).log ++ (q.parse r).log } := by
  obtain ⟨x, hx, hfail⟩ := hp
  simp only [orElse]
  rw [Run.bind_of_ok hx, hfail]
  rfl

/-- Without a rejection, the other parser is not run. -/
theorem parse_orElse_of_not_rejects (hp : ¬ p.Rejects r) (q : Parser) :
    (p.orElse q).parse r = p.parse r := by
  simp only [orElse]
  cases hx : (p.parse r).result with
  | error e =>
    rw [Run.bind_of_error hx]
    exact Run.ext_result_log hx.symm rfl
  | ok x =>
    have hsuc : x.isSuccess = true := by
      by_contra h
      exact hp ⟨x, hx, Bool.eq_false_iff.2 h⟩
    rw [Run.bind_of_ok hx, hsuc]
    exact Run.ext_result_log hx.symm (List.append_nil _)

/-- A choice among more alternatives goes on to them only if those before it fail. -/
theorem Settles.orElse {ps qs : List Parser} (hp : Settles ps r (p.parse r))
    (hq : Settles qs r (q.parse r)) : Settles (ps ++ qs) r ((p.orElse q).parse r) := by
  obtain ⟨tried, c, untried, rfl, htried, hlast, hresult, hlog⟩ := hp
  have hrejects : p.Rejects r ↔ c.Rejects r := by rw [Rejects, Rejects, hresult]
  by_cases hc : c.Rejects r
  · obtain rfl := hlast hc
    obtain ⟨tried', c', untried', rfl, htried', hlast', hresult', hlog'⟩ := hq
    have hall : ∀ q ∈ tried ++ [c] ++ tried', q.Rejects r := by
      simp only [List.mem_append, List.mem_singleton]
      rintro q ((hq | rfl) | hq)
      · exact htried q hq
      · exact hc
      · exact htried' q hq
    rw [(hrejects.2 hc).parse_orElse]
    refine ⟨tried ++ [c] ++ tried', c', untried', ?_, hall, hlast', hresult', ?_⟩
    · simp only [List.append_assoc]
    · rw [List.append_assoc, List.flatMap_append, hlog, hlog']
  · rw [parse_orElse_of_not_rejects (mt hrejects.1 hc)]
    refine ⟨tried, c, untried ++ qs, ?_, htried, fun h => absurd h hc, hresult, hlog⟩
    rw [List.append_assoc, List.cons_append]

/-- A choice is settled by the first of its parsers that does not reject. -/
theorem settles_choice (p : Parser) (ps : List Parser) (r : Span) :
    Settles (p :: ps) r ((p.choice ps).parse r) := by
  induction ps generalizing p with
  | nil => exact settles_single p r
  | cons q qs ih => exact (settles_single p r).orElse (ih q)

/-- However a choice is grouped, the first parser that does not reject settles it. -/
theorem settles_grouped (t : FreeMagma Parser) (r : Span) :
    Settles (members t) r ((grouped orElse t).parse r) := by
  induction t with
  | ih1 p => exact settles_single p r
  | ih2 t u iht ihu => exact iht.orElse ihu

/-! ### A common beginning -/

/-- Without a success there is nothing to go on from. -/
theorem parse_andThen_of_no_success (hp : ∀ x, (p.parse r).result = .ok x → x.isSuccess = false)
    (q : Parser) : (p.andThen q).parse r = p.parse r := by
  rw [parse_andThen]
  cases hx : (p.parse r).result with
  | error e =>
    rw [Run.bind_of_error hx]
    exact Run.ext_result_log hx.symm rfl
  | ok x =>
    rw [Run.bind_of_ok hx, Results.proceed_of_failure (hp x hx)]
    exact Run.ext_result_log hx.symm (List.append_nil _)

section Beginning

variable {x : Results} {rest : Span} (hx : (p.parse r).result = .ok x)
  (hsuc : x.isSuccess = true) (hrest : x.remaining = some rest)
include hx hsuc hrest

/-- After a success, a sequence gives what the second parser gives, joined to it. -/
theorem result_andThen_of_success (q : Parser) :
    ((p.andThen q).parse r).result = (q.parse rest).result.map x.joined := by
  rw [parse_andThen, Run.bind_of_ok hx, Results.proceed_of_success hsuc hrest]
  cases hy : (q.parse rest).result with
  | error e =>
    rw [Run.bind_of_error hy]
    rfl
  | ok y =>
    rw [Run.bind_of_ok hy]
    rfl

/-- Behind a success a sequence fails if and only if its second part does. -/
theorem rejects_andThen_iff (q : Parser) : (p.andThen q).Rejects r ↔ q.Rejects rest := by
  rw [Rejects, Rejects, result_andThen_of_success hx hsuc hrest q]
  constructor
  · rintro ⟨z, hz, hfail⟩
    cases hy : (q.parse rest).result with
    | error e =>
      rw [hy] at hz
      cases hz
    | ok y =>
      rw [hy] at hz
      cases hz
      exact ⟨y, rfl, Results.isSuccess_joined hsuc y ▸ hfail⟩
  · rintro ⟨y, hy, hfail⟩
    refine ⟨x.joined y, ?_, (Results.isSuccess_joined hsuc y).trans hfail⟩
    rw [hy]
    rfl

end Beginning

/-- A choice behind a common beginning gives what the choice between both sequences gives. -/
theorem result_andThen_orElse (p q s : Parser) (r : Span) :
    ((p.andThen (q.orElse s)).parse r).result
      = (((p.andThen q).orElse (p.andThen s)).parse r).result := by
  by_cases hp : ∃ x, (p.parse r).result = .ok x ∧ x.isSuccess = true
  · obtain ⟨x, hx, hsuc⟩ := hp
    obtain ⟨rest, hrest⟩ := Results.exists_remaining_of_success hsuc
    have hrejects := rejects_andThen_iff hx hsuc hrest q
    rw [result_andThen_of_success hx hsuc hrest]
    by_cases hq : q.Rejects rest
    · rw [hq.parse_orElse, (hrejects.2 hq).parse_orElse, result_andThen_of_success hx hsuc hrest]
    · rw [parse_orElse_of_not_rejects hq, parse_orElse_of_not_rejects (mt hrejects.1 hq),
        result_andThen_of_success hx hsuc hrest]
  · -- both sequences end with what the beginning gives
    have hfail : ∀ x, (p.parse r).result = .ok x → x.isSuccess = false := fun x hx =>
      Bool.eq_false_iff.2 fun hsuc => hp ⟨x, hx, hsuc⟩
    have hq : (p.andThen q).parse r = p.parse r := parse_andThen_of_no_success hfail q
    have hs : (p.andThen s).parse r = p.parse r := parse_andThen_of_no_success hfail s
    rw [parse_andThen_of_no_success hfail]
    by_cases hrejects : (p.andThen q).Rejects r
    · rw [hrejects.parse_orElse, hs]
    · rw [parse_orElse_of_not_rejects hrejects, hq]

end Parser

/-! ## Grammars -/

namespace Grammar

variable (names : Names) (cap : Int) (depth : Nat)

/-- The parser of a sequence is the sequence of the parsers. -/
theorem parserIn_sequence (g : Grammar) (gs : List Grammar) :
    (g.sequence gs).parserIn names cap depth
      = (g.parserIn names cap depth).sequence (gs.map fun h => h.parserIn names cap depth) := by
  induction gs generalizing g with
  | nil => rfl
  | cons h hs ih => exact congrArg (g.parserIn names cap depth).andThen (ih h)

/-- The parser of a choice is the choice of the parsers. -/
theorem parserIn_choice (g : Grammar) (gs : List Grammar) :
    (g.choice gs).parserIn names cap depth
      = (g.parserIn names cap depth).choice (gs.map fun h => h.parserIn names cap depth) := by
  induction gs generalizing g with
  | nil => rfl
  | cons h hs ih => exact congrArg (g.parserIn names cap depth).orElse (ih h)

end Grammar

namespace Parser

/-- **Sequence threads from left to right.**  It does not matter how parsers in sequence are put in
parentheses: results, reasons to halt and notes are the same.  Any number of them run from left to
right, each on the input that the one before it left, and give all their outcomes in order, unless
the results of one of them fail, which are then the results of the whole. -/
theorem sequence_threads (p q s : Parser) (ps : List Parser) (t : FreeMagma Parser) (r : Span) :
    ((p.andThen q).andThen s).parse r = (p.andThen (q.andThen s)).parse r ∧
    Results.toList <$> (p.sequence ps).parse r = inTurn [] r (p :: ps) ∧
    Results.toList <$> (grouped andThen t).parse r = inTurn [] r (members t) ∧
    ∀ (g : Grammar) (gs : List Grammar) (names : Names) (cap : Int) (depth : Nat),
      Results.toList <$> ((g.sequence gs).parserIn names cap depth).parse r
        = inTurn [] r ((g :: gs).map fun h => h.parserIn names cap depth) := by
  refine ⟨parse_andThen_assoc p q s r, sequence_eq_inTurn p ps r, ?_, ?_⟩
  · rw [parse_grouped_andThen]
    exact sequence_eq_inTurn _ _ r
  · intro g gs names cap depth
    rw [Grammar.parserIn_sequence]
    exact sequence_eq_inTurn _ _ r

/-- **A choice is committed to the first success.**  Alternatives are tried one after the other on
the same input.  The first one that does not fail, or else the last one, gives the results or the
reason to halt, and those behind it are not run, whatever the parentheses.  A choice behind a common
beginning gives what the choice between both sequences gives. -/
theorem choice_commits (p q s : Parser) (ps : List Parser) (t : FreeMagma Parser) (r : Span) :
    Settles (p :: ps) r ((p.choice ps).parse r) ∧
    Settles (members t) r ((grouped orElse t).parse r) ∧
    (∀ (g : Grammar) (gs : List Grammar) (names : Names) (cap : Int) (depth : Nat),
      Settles ((g :: gs).map fun h => h.parserIn names cap depth) r
        (((g.choice gs).parserIn names cap depth).parse r)) ∧
    ((p.andThen (q.orElse s)).parse r).result
      = (((p.andThen q).orElse (p.andThen s)).parse r).result := by
  refine ⟨settles_choice p ps r, settles_grouped t r, ?_, result_andThen_orElse p q s r⟩
  intro g gs names cap depth
  rw [Grammar.parserIn_choice]
  exact settles_choice _ _ r

end Parser

end TokenGrammar
