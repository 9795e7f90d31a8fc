/-
# Ways to use a parser

What a parser hands out is determined by the results of one parse.  A failed parse hands out its
leading failure, whichever way the parser is used.  A parse that has to reach the end of the window
is a parse of another parser, a sequence with the end, and yet says nothing more than where the
results of the first one leave off: at the end it hands out the same values, before the end it
reports the token that is in the way.  The report shows this token, so that the parse halts in front
of a token with an integer of too many digits.
-/
import TokenGrammar.Parser.Entry
import TokenGrammar.Proofs.Containment
import TokenGrammar.Proofs.RejectedTokens
import TokenGrammar.Proofs.SequenceChoice
import TokenGrammar.Proofs.Taking

namespace TokenGrammar

/-! ## Handing out -/

namespace Results

variable {α : Type} {x : Results} {f : Failure}

/-- What is read from results, or their leading failure. -/
def handOut (x : Results) (read : Results → α) : Except Failure α :=
  match x.head with
  | .failure f => .error f
  | .value _ _ | .empty _ => .ok (read x)

/-- A success is handed out as what is read from it. -/
theorem handOut_of_success (hx : x.isSuccess = true) (read : Results → α) :
    x.handOut read = .ok (read x) := by
  obtain ⟨head, tail⟩ := x
  cases head with
  | failure f => cases hx
  | value v rest | empty rest => rfl

/-- The failure that is handed out is the first outcome. -/
theorem handOut_eq_error_iff (read : Results → α) :
    x.handOut read = .error f ↔ x.head = .failure f := by
  obtain ⟨head, tail⟩ := x
  cases head with
  | failure e =>
    change Except.error e = Except.error f ↔ Outcome.failure e = Outcome.failure f
    rw [Except.error.injEq, Outcome.failure.injEq]
  | value v rest | empty rest => exact ⟨nofun, nofun⟩

/-- Results that begin with a failure fail. -/
theorem isSuccess_of_head (h : x.head = .failure f) : x.isSuccess = false := by
  rw [isSuccess, h]
  rfl

end Results

namespace Parser

variable {p : Parser} {r s : Span} {x : Results}

/-- The values of a parse are handed out. -/
theorem values_eq_handOut (p : Parser) (r : Span) :
    p.values r = p.parse r >>= fun x => pure (x.handOut Results.values) := by
  rw [values]
  congr 1
  funext x
  obtain ⟨head, tail⟩ := x
  cases head <;> rfl

/-- The first value of a parse is handed out. -/
theorem first_eq_handOut (p : Parser) (r : Span) :
    p.first r = p.parse r >>= fun x => pure (x.handOut fun y => y.values.head?) := by
  rw [first]
  congr 1
  funext x
  obtain ⟨head, tail⟩ := x
  cases head <;> rfl

/-- A parse with results hands out its values or its failure. -/
theorem result_values (hx : (p.parse r).result = .ok x) :
    (p.values r).result = .ok (x.handOut Results.values) := by
  rw [values_eq_handOut, Run.bind_of_ok hx]
  rfl

/-- A parse with results hands out its first value or its failure. -/
theorem result_first (hx : (p.parse r).result = .ok x) :
    (p.first r).result = .ok (x.handOut fun y => y.values.head?) := by
  rw [first_eq_handOut, Run.bind_of_ok hx]
  rfl

/-! ## To the end -/

/-- A failed parse does not come to look for the end. -/
theorem result_valuesToEnd_of_failure (hx : (p.parse r).result = .ok x)
    (hfail : x.isSuccess = false) :
    (p.valuesToEnd r).result = .ok (x.handOut Results.values) := by
  have hno : ∀ y, (p.parse r).result = .ok y → y.isSuccess = false := by
    intro y hy
    obtain rfl := Except.ok.inj (hx.symm.trans hy)
    exact hfail
  apply result_values
  rw [parse_andThen_of_no_success hno, hx]

/-- A success that leaves nothing hands out its values. -/
theorem Succeeds.valuesToEnd_of_isEmpty (hx : p.Succeeds r x s) (hs : s.isEmpty = true) :
    (p.valuesToEnd r).result = .ok (.ok x.values) := by
  have hnil : s.tokens = [] := Span.isEmpty_iff_tokens_eq_nil.1 hs
  rw [valuesToEnd, (hx.andThen (succeeds_done hnil)).values_eq, Results.values_append]
  exact congrArg (Except.ok ∘ Except.ok) (List.append_nil x.values)

section Head

variable (hx : p.Succeeds r x s) {t : Datum} (ht : s.head = .ok t)
include hx ht

/-- The token in front of the end is reported. -/
theorem Succeeds.valuesToEnd_of_head (hshort : t.writable = true) :
    (p.valuesToEnd r).result = .ok (.error
      { reason := .unexpected t, message := "unexpected " ++ t.render
        position := some s.start }) := by
  obtain ⟨ds, hds⟩ := List.head?_eq_some_iff.1 ((Span.head_eq_ok_iff s t).1 ht)
  exact (hx.andThen_fails (fails_done hds hshort)).values_eq

/-- A token that cannot be shown cannot be reported. -/
theorem Succeeds.valuesToEnd_of_long (hlong : t.writable = false) :
    (p.valuesToEnd r).result = .error (.fault .badValue) := by
  obtain ⟨ds, hds⟩ := List.head?_eq_some_iff.1 ((Span.head_eq_ok_iff s t).1 ht)
  rw [valuesToEnd, values, Run.bind_of_error (hx.andThen_halts (halts_done hds hlong))]

end Head

/-- **All ways to use a parser agree with its parse.**  The leading failure is handed out if and
only if the parse failed.  Otherwise its values are handed out, or the first of them if there is
one.  If the whole window has to be taken, a failed parse hands out the same failure.  A success
then hands out the same values if it leaves nothing up to the end of the window, and otherwise the
failure that reports the first token that it leaves, with the place of this token in the source.  It
takes a token that can be written down to be reported; any other halts the parse. -/
theorem handsOut_parse (hp : p.Contained) (hx : (p.parse r).result = .ok x) :
    (∀ f, ((p.values r).result = .ok (.error f) ↔ x.head = .failure f) ∧
      ((p.first r).result = .ok (.error f) ↔ x.head = .failure f) ∧
      (x.head = .failure f → (p.valuesToEnd r).result = .ok (.error f))) ∧
    (x.isSuccess = true →
      (p.values r).result = .ok (.ok x.values) ∧
      (p.first r).result = .ok (.ok x.values.head?) ∧
      ∃ rest, x.remaining = some rest ∧ rest.stop = r.stop ∧
        (rest.isEmpty = true → (p.valuesToEnd r).result = .ok (.ok x.values)) ∧
        (rest.isEmpty = false → ∃ t, rest.start < r.stop ∧
          r.source.tokens[rest.start]? = some t ∧
          (t.writable = true → (p.valuesToEnd r).result = .ok (.error
            { reason := .unexpected t, message := "unexpected " ++ t.render
              position := some rest.start })) ∧
          (t.writable = false → (p.valuesToEnd r).result = .error (.fault .badValue)))) := by
  constructor
  · intro f
    rw [result_values hx, result_first hx, Except.ok.injEq, Except.ok.injEq,
      Results.handOut_eq_error_iff, Results.handOut_eq_error_iff]
    refine ⟨Iff.rfl, Iff.rfl, fun hhead => ?_⟩
    rw [result_valuesToEnd_of_failure hx (Results.isSuccess_of_head hhead)]
    exact congrArg _ ((Results.handOut_eq_error_iff _).2 hhead)
  · intro hsuc
    obtain ⟨rest, hrest⟩ := Results.exists_remaining_of_success hsuc
    have hsucceeds : p.Succeeds r x rest := ⟨hx, hsuc, hrest⟩
    have hwithin : rest.Within r := hp.remaining_within hx hrest
    refine ⟨?_, ?_, rest, hrest, hwithin.stop_eq, hsucceeds.valuesToEnd_of_isEmpty, ?_⟩
    · rw [result_values hx, Results.handOut_of_success hsuc]
    · rw [result_first hx, Results.handOut_of_success hsuc]
    · intro hne
      obtain ⟨t, ht⟩ := Span.exists_head hne
      refine ⟨t, ?_, ?_, hsucceeds.valuesToEnd_of_head ht, hsucceeds.valuesToEnd_of_long ht⟩
      · exact hwithin.stop_eq ▸ Span.start_lt_stop hne
      · exact hwithin.source_eq ▸ Span.getElem?_of_head ht

/-- The case of a window in front of the last of three characters: a success with a failure behind
it that leaves a token of the window, and one that leaves the character behind the window only. -/
theorem handsOut_parse_characters :
    let window (i : Nat) (h : i ≤ 2) : Span :=
      { source := .ofText "abc".toList, start := i, stop := 2, start_le_stop := h,
        stop_le_size := by decide }
    let r := window 0 (by decide)
    let items := (Grammar.oneOrMore .item none).parserIn (fun _ => none) 9 0
    let g : Grammar := (Grammar.oneOrMore .item none).bind fun d =>
      if d.same (Datum.char 'a') then .succeed d else .zero (.missingItem 2)
    let p := g.parserIn (fun _ => none) 9 0
    let x : Results :=
      { head := .value (Datum.char 'a') (window 1 (by decide))
        tail := [.failure (.missingItem 2)] }
    (p.parse r).result = .ok x ∧
    (p.values r).result = .ok (.ok [Datum.char 'a']) ∧
    (p.first r).result = .ok (.ok (some (Datum.char 'a'))) ∧
    (p.valuesToEnd r).result = .ok (.error
      { reason := .unexpected (Datum.char 'b'), message := "unexpected 'b'", position := some 1 }) ∧
    (items.valuesToEnd r).result = .ok (.ok [Datum.char 'a', Datum.char 'b']) := by
  intro window r items g p x
  let y : Results :=
    { head := .value (Datum.char 'a') (window 1 (by decide))
      tail := [.value (Datum.char 'b') (window 2 (by decide))] }
  have hx : (p.parse r).result = .ok x := rfl
  have hy : (items.parse r).result = .ok y := rfl
  obtain ⟨-, hp⟩ := handsOut_parse (g.contained_parserIn _ _ _) hx
  obtain ⟨hvalues, hfirst, rest, hrest, -, -, hleft⟩ := hp rfl
  obtain ⟨-, hitems⟩ :=
    handsOut_parse ((Grammar.oneOrMore .item none).contained_parserIn _ _ _) hy
  obtain ⟨-, -, rest', hrest', -, hend, -⟩ := hitems rfl
  cases hrest
  cases hrest'
  obtain ⟨t, -, ht, hunexpected, -⟩ := hleft rfl
  cases ht
  exact ⟨hx, hvalues, hfirst, hunexpected rfl, hend rfl⟩

/-- A list of an item and an integer with one digit more than can be shown: the first item is
parsed, and asking for the end halts instead of reporting the second one. -/
theorem valuesToEnd_long_integer :
    let long : Datum := .int (tenPow Datum.longest)
    let r : Span := .whole (.ofList [.int 1, long])
    let p := (Grammar.token (.int 1)).parserIn (fun _ => none) 9 0
    (∃ x rest, (p.parse r).result = .ok x ∧ x.isSuccess = true ∧ x.remaining = some rest ∧
      rest.isEmpty = false ∧ r.source.tokens[rest.start]? = some long) ∧
    (p.valuesToEnd r).result = .error (.fault .badValue) := by
  intro long r p
  have hlong : long.writable = false := by
    rw [← Bool.not_eq_true, Datum.writable_int_iff, Int.natAbs_natCast]
    exact Nat.lt_irrefl _
  -- what the first item leaves begins with the second one, whatever that is
  let left (d : Datum) : Span :=
    { source := .ofList [.int 1, d], start := 1, stop := 2, start_le_stop := by decide
      stop_le_size := Nat.le_refl 2 }
  have hx (d : Datum) : p.Succeeds (.whole (.ofList [.int 1, d]))
      (.single (.value (.int 1) (left d))) (left d) := ⟨rfl, rfl, rfl⟩
  have hhead (d : Datum) : (left d).head = .ok d := rfl
  exact ⟨⟨_, left long, (hx long).result_eq, rfl, rfl, rfl, rfl⟩,
    (hx long).valuesToEnd_of_long (hhead long) hlong⟩

end Parser

end TokenGrammar
