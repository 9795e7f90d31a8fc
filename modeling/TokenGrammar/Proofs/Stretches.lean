/-
# Stretches of accepted tokens

A parser for a single token, repeated, takes the tokens that are accepted one after the other: all
of them up to the first one that is not accepted, unless its limit stops it before.  Its results
are known in closed form: the tokens that it takes, each with the window behind it.
-/
import TokenGrammar.Proofs.Taking

namespace TokenGrammar

/-! ## Tokens with the windows behind them -/

namespace Span

variable {r : Span} {i : Nat}

/-- A token in view is a token of the source. -/
theorem start_add_lt (hi : i < r.length) : r.start + i < r.source.content.size := by
  have hstop : r.stop ≤ r.source.content.size := r.stop_le_size
  rw [length] at hi
  omega

/-- All tokens in view, each as a value that leaves the window behind it. -/
def oneByOne (r : Span) : List Outcome :=
  List.ofFn fun i : Fin r.length =>
    .value (r.source.content.get (r.start + i) (start_add_lt i.isLt)) (r.drop (i + 1) i.isLt)

/-- A token in view is the head of the window that begins with it. -/
theorem getElem?_oneByOne {hle : i ≤ r.length} {d : Datum} (hd : (r.drop i hle).head = .ok d)
    (hlt : i + 1 ≤ r.length) : r.oneByOne[i]? = some (.value d (r.drop (i + 1) hlt)) := by
  have hview : (r.drop i hle).start < (r.drop i hle).stop := start_lt_stop_of_head hd
  rw [head, dif_pos hview] at hd
  rw [oneByOne, List.getElem?_ofFn, dif_pos (Nat.lt_of_succ_le hlt), ← Except.ok.inj hd]
  rfl

end Span

namespace Parser

variable {accepts : Datum → Except Fault Bool} (description : String) {r : Span}
  {ts us : List Datum}

/-! ## One token after the other -/

section Stretch

variable (hr : r.tokens = ts ++ us)
include hr

/-- A stretch of tokens is no longer than the window. -/
theorem length_stretch_le : ts.length ≤ r.length := by
  rw [← Span.length_tokens, hr, List.length_append]
  omega

/-- Behind a stretch the parser fails. -/
theorem exists_fails_satisfy_drop (hus : ∀ t ∈ us.head?, accepts t = .ok false)
    (hle : ts.length ≤ r.length) :
    ∃ f, (satisfy accepts description).Fails (r.drop ts.length hle) f := by
  have htokens : (r.drop ts.length hle).tokens = us := by
    rw [Span.tokens_drop, hr, List.drop_left]
  cases us with
  | nil => exact ⟨_, fails_satisfy_of_nil htokens⟩
  | cons u us => exact ⟨_, fails_satisfy htokens (hus u rfl)⟩

variable (hts : ∀ t ∈ ts, accepts t = .ok true)
include hts

/-- A stretch that is not empty begins with a success. -/
theorem exists_succeeds_satisfy (hne : ts ≠ []) :
    ∃ x s, (satisfy accepts description).Succeeds r x s := by
  obtain ⟨t, ts', rfl⟩ := List.exists_cons_of_ne_nil hne
  obtain ⟨_, hx⟩ := succeeds_satisfy description hr (hts t List.mem_cons_self)
  exact ⟨_, _, hx⟩

/-- Inside a stretch an application consumes one token. -/
theorem succeeds_satisfy_drop {i : Nat} (hi : i < ts.length) (hle : i ≤ r.length) :
    ∃ (o : Outcome) (hle' : i + 1 ≤ r.length), r.oneByOne[i]? = some o ∧
      (satisfy accepts description).Succeeds (r.drop i hle) (.single o) (r.drop (i + 1) hle') := by
  have htokens : (r.drop i hle).tokens = ts[i] :: (ts.drop (i + 1) ++ us) := by
    rw [Span.tokens_drop, hr, List.drop_append_of_le_length (Nat.le_of_lt hi),
      List.drop_eq_getElem_cons hi, List.cons_append]
  obtain ⟨_, hx⟩ := succeeds_satisfy description htokens (hts _ (List.getElem_mem hi))
  have hle' : i + 1 ≤ r.length := Nat.le_trans hi (length_stretch_le hr)
  exact ⟨_, hle', Span.getElem?_oneByOne (Span.head_eq_of_tokens htokens).2 hle', hx⟩

/-- The applications stand one token apart. -/
theorem place_satisfy {i : Nat} (hi : i ≤ ts.length) :
    ∃ hle, (satisfy accepts description).place r i = some (r.drop i hle) := by
  induction i with
  | zero => exact ⟨Nat.zero_le _, rfl⟩
  | succ i ih =>
    obtain ⟨hle, hplace⟩ := ih (Nat.le_of_succ_le hi)
    obtain ⟨_, hle', -, hx⟩ := succeeds_satisfy_drop description hr hts hi hle
    refine ⟨hle', ?_⟩
    rw [place, hplace, Option.bind_some, rest?_of_ok hx.result_eq, hx.remaining_eq]

/-- Every application inside a stretch moves. -/
theorem moves_satisfy {i : Nat} (hi : i < ts.length) :
    (satisfy accepts description).moves r i = true := by
  obtain ⟨hle, hplace⟩ := place_satisfy description hr hts (Nat.le_of_lt hi)
  obtain ⟨_, hle', -, hx⟩ := succeeds_satisfy_drop description hr hts hi hle
  have hmoved : (r.drop i hle).advanced (some (r.drop (i + 1) hle')) = true := by
    rw [Span.advanced, Option.any_some, bne_iff_ne, Span.start_drop, Span.start_drop]
    omega
  rw [moves, hplace, Option.any_some, advances_of_ok hx.result_eq, hx.isSuccess,
    hx.remaining_eq, hmoved, Bool.and_self]

/-- The applications inside a stretch hand on its tokens one by one. -/
theorem flatMap_outcomesOf_satisfy {n : Nat} (hn : n ≤ ts.length) :
    (List.range n).flatMap ((satisfy accepts description).outcomesOf r) = r.oneByOne.take n := by
  induction n with
  | zero => rfl
  | succ n ih =>
    obtain ⟨hle, hplace⟩ := place_satisfy description hr hts (Nat.le_of_succ_le hn)
    obtain ⟨o, _, ho, hx⟩ := succeeds_satisfy_drop description hr hts hn hle
    have hlast : (satisfy accepts description).outcomesOf r n = [o] := by
      rw [outcomesOf, hplace, Option.elim_some, outcomes_of_ok hx.result_eq]
      rfl
    rw [List.range_succ, List.flatMap_append, List.flatMap_singleton, hlast,
      ih (Nat.le_of_succ_le hn), List.take_add_one, ho, Option.toList_some]

/-- The outcomes of the first applications to single tokens. -/
theorem toList_keptResults_satisfy {x : Results}
    (hx : ((satisfy accepts description).parse r).result = .ok x) {n : Nat} (h1 : 1 ≤ n)
    (hn : n ≤ ts.length) :
    ((satisfy accepts description).keptResults r x n).toList = r.oneByOne.take n := by
  rw [keptResults, toList_extend_outcomesOf hx h1,
    flatMap_outcomesOf_satisfy description hr hts hn]

variable (hus : ∀ t ∈ us.head?, accepts t = .ok false)
include hus

/-- As many applications count as there are tokens in the stretch, up to the limit. -/
theorem count_satisfy (hne : ts ≠ []) (limit : Nat) :
    (satisfy accepts description).count r limit = min ts.length (max 1 limit) := by
  have hpos : 0 < ts.length := List.length_pos_iff.2 hne
  refine count_eq (by omega) (Nat.min_le_right ..) ?_ ?_
  · intro i _ hi
    exact moves_satisfy description hr hts (Nat.lt_of_lt_of_le hi (Nat.min_le_left ..))
  · intro hlt
    have hmin : min ts.length (max 1 limit) = ts.length := by omega
    obtain ⟨hle, hplace⟩ := place_satisfy description hr hts (Nat.le_refl ts.length)
    obtain ⟨f, hf⟩ := exists_fails_satisfy_drop description hr hus hle
    rw [hmin, moves, hplace, Option.any_some, hf.stays.1]

/-- The application behind a stretch fails, and its failure is dropped. -/
theorem result_ending_satisfy :
    ((satisfy accepts description).ending r ts.length).result = .ok () := by
  obtain ⟨hle, hplace⟩ := place_satisfy description hr hts (Nat.le_refl ts.length)
  obtain ⟨f, hf⟩ := exists_fails_satisfy_drop description hr hus hle
  rw [ending, hplace, Option.elim_some, result_dropped, hf]
  rfl

/-- One or more single tokens that are accepted are the tokens of the stretch, or as many of them as
the limit allows, and leave what follows the last of them. -/
theorem exists_succeeds_oneOrMore_satisfy (hne : ts ≠ []) {cap : Int} {bound : Option Bound}
    {limit : Nat} (hlimit : bound.elim cap.toNat Bound.limit = limit) :
    ∃ x hle, ((satisfy accepts description).oneOrMore cap bound).Succeeds r x
      (r.drop (min ts.length (max 1 limit)) hle) ∧
      x.toList = r.oneByOne.take (min ts.length (max 1 limit)) := by
  obtain ⟨x, _, hx⟩ := exists_succeeds_satisfy description hr hts hne
  have hcount := count_satisfy description hr hts hus hne limit
  have hresult := result_oneOrMore hx.result_eq hx.isSuccess cap bound
  have hrest := remaining_keptResults hx.result_eq hx.isSuccess limit
  simp only [hlimit, hcount] at hresult hrest
  have hle : min ts.length (max 1 limit) ≤ ts.length := Nat.min_le_left ..
  have hpos : 1 ≤ min ts.length (max 1 limit) :=
    Nat.le_min.2 ⟨List.length_pos_iff.2 hne, Nat.le_max_left ..⟩
  obtain ⟨hle', hplace⟩ := place_satisfy description hr hts hle
  refine ⟨_, hle', ⟨?_, (isSuccess_keptResults ..).trans hx.isSuccess, hrest.trans hplace⟩,
    toList_keptResults_satisfy description hr hts hx.result_eq hpos hle⟩
  rw [hresult]
  split_ifs with hlt
  · have hmin : min ts.length (max 1 limit) = ts.length := by omega
    rw [hmin, result_ending_satisfy description hr hts hus]
    rfl
  · rfl

end Stretch

/-! ## Greed -/

end Parser

end TokenGrammar
