/-
# Natural numbers digit by digit

A natural number is read by joining its digits to one text, which is then converted.  It may as well
be computed while its digits are read: each of them is converted by itself, and what was read before
it is multiplied by the base.  Both ways agree on every text, on what they produce, on where they go
on, on how they fail, and on the characters that pass for digits and have no value.
-/
import TokenGrammar.Proofs.Conversion
import TokenGrammar.Proofs.NaturalNumbers
import TokenGrammar.Proofs.RejectedTokens

namespace TokenGrammar

/-! ## Positional notation -/

/-- A number with one more digit of a base behind it. -/
def Datum.appendDigit (base : Nat) (acc digit : Datum) : Except Fault Datum := do
  let shifted ← Datum.mul (.int base) acc
  shifted.add digit

/-- Digits read one by one, each of them as a number, and appended from left to right. -/
def Grammar.digitByDigit (base : Nat) : Grammar :=
  (Grammar.oneOrMore (digitValue base) none).foldLeft (Datum.appendDigit base) (.int 0)

namespace Number

variable {base : Nat} {c : Char} {w : List Char} {ds : List Nat}

/-- What passes for a digit writes one, unless it is the Kelvin sign. -/
theorem DigitLike.exists_writes (h : DigitLike base c) (hk : c ≠ kelvin) :
    ∃ d, Writes base c d := by
  have hsome : (digit? base c).isSome = true := h.resolve_right fun h => hk h.1
  have hascii : c.toNat < 0x7f := Character.toNat_lt_of_isAlphanum (isAlphanum_of_digit? hsome)
  obtain ⟨d, hd, hget⟩ := List.mem_iff_getElem.1 ((isSome_digit?_iff hascii).1 hsome)
  rw [List.length_take] at hd
  refine ⟨d, by omega, ?_⟩
  rw [← hget, List.getElem_take, List.getElem?_eq_getElem]

/-- What looks like digits writes some, unless the Kelvin sign is among it. -/
theorem exists_forall₂_writes (hw : ∀ c ∈ w, DigitLike base c) (hk : kelvin ∉ w) :
    ∃ ds, List.Forall₂ (Writes base) w ds := by
  induction w with
  | nil => exact ⟨[], .nil⟩
  | cons c w ih =>
    rw [List.forall_mem_cons] at hw
    rw [List.mem_cons, not_or] at hk
    obtain ⟨d, hd⟩ := hw.1.exists_writes (Ne.symm hk.1)
    obtain ⟨ds, hds⟩ := ih hw.2 hk.2
    exact ⟨d :: ds, .cons hd hds⟩

end Number

namespace Datum

open Number (Writes Denotes kelvin naturals isBinaryBase maxDigits)

variable {base : Nat} {c : Char} {d : Nat} {w : List Char} {ds : List Nat}

/-- A digit is converted to its value. -/
theorem toIntIn_char (h : Writes base c d) : toIntIn base (char c) = .ok (.int d) := by
  have hc : Denotes base [c] d :=
    ⟨List.cons_ne_nil c [], [d], .cons h .nil, Nat.ofDigits_singleton⟩
  have hshort : [c].length ≤ maxDigits := by
    show 1 ≤ 4300
    omega
  exact toIntIn_of_denotes (s := []) (Or.inl rfl) hc (Or.inr hshort)

/-- What cannot be converted is no signal. -/
theorem enclose_toIntIn (base : Nat) (d : Datum) :
    Fault.enclose (toIntIn base d) = toIntIn base d := by
  cases d with
  | text cs =>
    rw [toIntIn]
    cases Number.readInt? base cs <;> rfl
  | bytes bs =>
    rw [toIntIn]
    cases Number.readInt? base (latin bs) <;> rfl
  | null | bool _ | int _ | float _ | list _ | tuple _ | record _ _ => rfl

/-- Digits that are written are converted one by one. -/
theorem mapM_toIntIn (h : List.Forall₂ (Writes base) w ds) :
    (w.map char).mapM (toIntIn base) = .ok (ds.map fun d : Nat => .int d) := by
  induction h with
  | nil => rfl
  | cons hc _ ih =>
    rw [List.map_cons, List.mapM_cons, toIntIn_char hc, ih]
    rfl

/-- Appending the digits of a numeral one by one gives the number in positional notation. -/
theorem foldlM_appendDigit (base acc : Nat) (ds : List Nat) :
    (ds.map fun d : Nat => Datum.int d).foldlM (appendDigit base) (.int acc)
      = .ok (.int (ds.foldl (fun acc d => base * acc + d) acc : Nat)) := by
  induction ds generalizing acc with
  | nil => rfl
  | cons d ds ih =>
    have hdigit : appendDigit base (.int acc) (.int d) = .ok (.int (base * acc + d : Nat)) := by
      rw [Int.natCast_add, Int.natCast_mul]
      rfl
    rw [List.map_cons, List.foldlM_cons, hdigit, List.foldl_cons, ← ih]
    rfl

/-- If a character among several is not converted, they are not converted one by one. -/
theorem mapM_toIntIn_eq_error (hc : c ∈ w) (h : ∀ v, toIntIn base (char c) ≠ .ok v) :
    (w.map char).mapM (toIntIn base) = .error .badValue := by
  induction w with
  | nil => cases hc
  | cons a w ih =>
    rw [List.map_cons, List.mapM_cons]
    cases ha : toIntIn base (char a) with
    | error cause =>
      rw [eq_badValue_of_toIntIn ha]
      rfl
    | ok v =>
      rcases List.mem_cons.1 hc with rfl | hmem
      · exact absurd ha (h v)
      · rw [ih hmem]
        rfl

/-- A numeral is converted as a whole to what its digits give one by one. -/
theorem toIntIn_eq_digits (hw : w ∈ naturals base)
    (hshort : isBinaryBase base = true ∨ w.length ≤ maxDigits) :
    toIntIn base (.text w)
      = (w.map char).mapM (toIntIn base) >>= fun digits =>
        digits.foldlM (appendDigit base) (.int 0) := by
  by_cases hk : kelvin ∈ w
  · -- neither the Kelvin sign nor a text with it has a value
    have hkelvin : ∀ v, toIntIn base (char kelvin) ≠ .ok v := nofun
    rw [mapM_toIntIn_eq_error hk hkelvin]
    cases hwhole : toIntIn base (.text w) with
    | error cause =>
      rw [eq_badValue_of_toIntIn hwhole]
      rfl
    | ok v =>
      have hconvertible := (exists_toIntIn_iff (s := []) (Or.inl rfl) hw).1 ⟨v, hwhole⟩
      exact absurd hk hconvertible.kelvin_notMem
  · obtain ⟨ds, hds⟩ := Number.exists_forall₂_writes hw.2 hk
    have hdenotes : Denotes base w (Number.ofDigits base ds) :=
      ⟨hw.1, ds, hds, (Number.ofDigits_eq base ds).symm⟩
    have hwhole : toIntIn base (.text w) = .ok (.int (Number.ofDigits base ds)) :=
      toIntIn_of_denotes (s := []) (Or.inl rfl) hdenotes hshort
    rw [hwhole, mapM_toIntIn hds]
    exact (foldlM_appendDigit base 0 ds).symm

end Datum

/-! ## Both ways of reading -/

namespace Grammar

open Number (DigitLike)

/-- The test of a digit accepts a character. -/
def AcceptsDigit (base : Nat) (c : Char) : Prop :=
  ∃ accepts description, digitIn base = .satisfy accepts description ∧
    accepts (Datum.char c) = .ok true

/-- What looks like a digit is accepted. -/
theorem acceptsDigit_of_digitLike {base : Nat} {c : Char} (hc : DigitLike base c) :
    AcceptsDigit base c := by
  obtain ⟨accepts, description, heq, haccepts⟩ := exists_digitIn_eq base
  exact ⟨accepts, description, heq, by rw [haccepts, decide_eq_true hc]⟩

variable (names : Names) (cap : Int) (depth : Nat) {r : Span} {cs : Array Char} {base : Nat}

/-- Nothing halts the test of a digit on a text. -/
theorem haltsOnly_digitIn (hr : r.source.content = .text cs) (base : Nat) :
    ((digitIn base).parserIn names cap depth).HaltsOnly (fun _ => False) r :=
  (lexes_digitIn hr base).haltsOnly

/-- A digit that is read is left behind. -/
theorem start_ne_of_digitIn {s t : Span} {x : Results}
    (h : ((digitIn base).parserIn names cap depth).Succeeds s x t) : t.start ≠ s.start := by
  obtain ⟨accepts, description, heq, -⟩ := exists_digitIn_eq base
  rw [heq] at h
  obtain ⟨d, -, -, ht, -⟩ := Parser.Succeeds.of_satisfy h
  obtain ⟨hle, rfl⟩ := Span.exists_eq_drop_of_tail ht
  rw [Span.start_drop]
  omega

/-- The values of several digits are the characters of a numeral that is shown first. -/
theorem exists_word_of_digits (hr : r.source.content = .text cs) {x : Results} {s : Span}
    {t : List Char} (ht : r.Shows t)
    (hx : (((digitIn base).parserIn names cap depth).oneOrMore cap none).Succeeds r x s) :
    ∃ w u h, t = w ++ u ∧ w ∈ Number.naturals base ∧ s = r.drop w.length h ∧
      x.values = w.map Datum.char := by
  have hreads : (((digitIn base).parserIn names cap depth).oneOrMore cap none).Reads
      (fun _ => False) r (Number.naturals base) :=
    ((lexes_digitIn hr base).toReads.oneOrMore cap none).mono fun _ =>
      Number.mem_naturals_of_mem_kstar
  obtain ⟨w, u, h, rfl, hw, rfl⟩ := hreads.exists_word hr ht hx
  refine ⟨w, u, h, rfl, hw, rfl, ?_⟩
  have htokens : (((digitIn base).parserIn names cap depth).oneOrMore cap none).TokenByToken := by
    obtain ⟨accepts, description, heq, -⟩ := exists_digitIn_eq base
    rw [heq]
    exact (Parser.tokenByToken_satisfy accepts description).oneOrMore cap none
  have hall : r.tokens = x.values ++ u.map Datum.char := by
    rw [(htokens.contiguous hx).tokens_eq, ht.drop_append]
    rfl
  rw [ht, List.map_append] at hall
  exact (List.append_cancel_right hall).symm

/-- **A natural number may be read digit by digit.**  On a text, joining digits and converting them
together and converting them one by one and adding them up give the same results, failures among
them, or halt for the same reason, whatever the cap is.  In a base that is not a power of two, the
characters that come first and are accepted as digits must not be more than 4300. -/
theorem parse_digitByDigit [Monoids] (hr : r.source.content = .text cs) (h2 : 2 ≤ base)
    (h36 : base ≤ 36)
    (hlong : (¬ ∃ k, base = 2 ^ k) → ∀ w, w <+: (cs.extract r.start r.stop).toList →
      (∀ c ∈ w, AcceptsDigit base c) → w.length ≤ 4300) :
    (((natural base).parserIn names cap depth).parse r).result
      = (((digitByDigit base).parserIn names cap depth).parse r).result := by
  have hp := haltsOnly_digitIn names cap depth hr base
  -- the digits may as well be converted when the repetition has ended
  have hconverted := hp.result_oneOrMore_lift (Datum.toIntIn base)
    (start_ne_of_digitIn names cap depth) (.refl r) cap
  refine Eq.trans ?_ (Run.result_bind_congr hconverted fun _ _ => rfl).symm
  rcases (hp.oneOrMore cap none).fails_or_succeeds (.refl r) with ⟨e, he⟩ | ⟨x, s, hx, -⟩
  · have hnatural : ((natural base).parserIn names cap depth).Fails r e :=
      (he.fold Datum.combine false).lift (Datum.toIntIn base)
    exact hnatural.trans ((he.lift (Datum.toIntIn base)).fold _ true).symm
  · have ht : r.Shows (cs.extract r.start r.stop).toList := Span.shows_extract hr
    obtain ⟨w, u, h, hwu, hw, rfl, hvalues⟩ := exists_word_of_digits names cap depth hr ht hx
    have hspells : (((digitIn base).parserIn names cap depth).oneOrMore cap none).Spells :=
      (spells_parserIn (verbatim_digitIn base) cap depth).oneOrMore cap none
    obtain ⟨y, hy⟩ := hx.exists_reduce hspells hr
    have hyields : ((digits base).parserIn names cap depth).Yields r (.text w)
        (r.drop w.length h) :=
      (lexes_digits (E := fun _ => False) hr base).yields hr (hwu ▸ ht) (hy.describe _)
    have hshort : Number.isBinaryBase base = true ∨ w.length ≤ Number.maxDigits :=
      Number.isBinaryBase_or_le h2 h36 fun hpow =>
        hlong hpow w ⟨u, hwu.symm⟩ fun c hc => acceptsDigit_of_digitLike (hw.2 c hc)
    -- one way converts the word, the other one its characters
    refine (hyields.result_lift (Datum.toIntIn base)).trans ?_
    refine Eq.trans ?_ (hx.result_fold_lift (Datum.toIntIn base) _).symm
    simp only [Datum.enclose_toIntIn]
    rw [hvalues, Datum.toIntIn_eq_digits hw hshort]

/-- The case of a numeral in base 36 with letters of either case. -/
theorem parse_digitByDigit_letters :
    let cs := "+1zZ-".toList.toArray
    let names : Names := fun _ => none
    let r : Span :=
      { source := .ofText "+1zZ-".toList, start := 1, stop := 5, start_le_stop := by decide,
        stop_le_size := by decide }
    r.source.content = .text cs ∧
      (∀ w, w <+: (cs.extract r.start r.stop).toList → (∀ c ∈ w, AcceptsDigit 36 c) →
        w.length ≤ 4300) ∧
      ∃ h, (((digitByDigit 36).parserIn names 3 0).parse r).result
        = .ok (.single (.value (.int 2591) (r.drop 3 h))) := by
  intro cs names r
  let _ : Monoids := .none
  have hr : r.source.content = .text cs := rfl
  have hlong : ∀ w, w <+: (cs.extract r.start r.stop).toList → (∀ c ∈ w, AcceptsDigit 36 c) →
      w.length ≤ 4300 := by
    intro w hw _
    have hview : (cs.extract r.start r.stop).toList.length = 4 := by decide
    have := hw.length_le
    omega
  have hw : Number.Denotes 36 ['1', 'z', 'Z'] 2591 := by
    refine ⟨List.cons_ne_nil _ _, [1, 35, 35], ?_, by decide⟩
    have hone : Number.Writes 36 '1' 1 := ⟨by decide, by decide⟩
    have hsmall : Number.Writes 36 'z' 35 := ⟨by decide, by decide⟩
    have hlarge : Number.Writes 36 'Z' 35 := ⟨by decide, by decide⟩
    exact .cons hone (.cons hsmall (.cons hlarge .nil))
  have hshows : r.Shows (['1', 'z', 'Z'] ++ ['-']) := Span.shows_extract hr
  have hdash : ¬ DigitLike 36 '-' := by decide
  have hstop : ∀ c ∈ ['-'].head?, ¬ DigitLike 36 c := fun c hc => Option.some.inj hc ▸ hdash
  have hcap : (['1', 'z', 'Z'].length : Int) ≤ max 1 3 := by decide
  obtain ⟨h, hyields⟩ := yields_natural names 0 hr hshows hstop hcap hw (Or.inr (by decide))
  exact ⟨hr, hlong, h,
    (parse_digitByDigit names 3 0 hr (by decide) (by decide) fun _ => hlong).symm.trans hyields⟩

end Grammar

end TokenGrammar
