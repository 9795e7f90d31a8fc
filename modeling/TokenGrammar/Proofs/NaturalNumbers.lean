/-
# Natural numbers

What a numeral denotes, and the grammar that reads it.  A numeral of a base may have any number of
leading zeros, and its letters may be of either case.  It is read up to its end, whatever way the
base tests its digits, and produces the number that it denotes.
-/
import Mathlib.Data.Nat.Digits.Defs
import Mathlib.Tactic.IntervalCases
import TokenGrammar.Proofs.LongestWords
import TokenGrammar.Proofs.TextLeaves

namespace TokenGrammar

namespace Character

/-- Only ASCII characters become ASCII characters in lower case. -/
theorem toNat_lt_of_toLower {c : Char} (h : c.toLower.toNat < 0x7f) : c.toNat < 0x7f := by
  by_cases hupper : c.isUpper = true
  · have halphanum : c.isAlphanum = true := by
      show (c.isUpper || c.isLower || c.isDigit) = true
      rw [hupper, Bool.true_or, Bool.true_or]
    exact toNat_lt_of_isAlphanum halphanum
  · have hsame : c.toLower = c := dif_neg fun h => hupper (decide_eq_true h)
    rwa [hsame] at h

end Character

namespace Number

open Grammar (digitCharacters)

/-! ## What a numeral denotes -/

/-- `c` writes the digit `d` of a base: the character at that place of `0`-`9` and `a`-`z`, or the
upper-case form of it. -/
structure Writes (base : Nat) (c : Char) (d : Nat) : Prop where
  lt : d < base
  getElem?_eq : digitCharacters[d]? = some c.toLower

/-- `w` is a numeral of `v` in a base: it writes digits, the most significant first, whose value in
positional notation is `v`. -/
structure Denotes (base : Nat) (w : List Char) (v : Nat) : Prop where
  ne_nil : w ≠ []
  exists_digits : ∃ ds, List.Forall₂ (Writes base) w ds ∧ Nat.ofDigits base ds.reverse = v

variable {base d v : Nat} {c : Char} {w : List Char} {ds : List Nat}

/-- What writes a digit has that digit as its value. -/
theorem Writes.digit?_eq (h : Writes base c d) : digit? base c = some d := by
  have hmem : c.toLower ∈ digitCharacters := List.mem_of_getElem? h.getElem?_eq
  have hascii : c.toNat < 0x7f := by
    have hall : (digitCharacters.all fun c => decide (c.toNat < 0x7f)) = true := by decide +kernel
    exact Character.toNat_lt_of_toLower (of_decide_eq_true (List.all_eq_true.1 hall _ hmem))
  have hplace : digitCharacters.idxOf c.toLower = d := by
    have hnodup : digitCharacters.Nodup := by decide +kernel
    obtain ⟨hlt, hget⟩ := List.getElem?_eq_some_iff.1 h.getElem?_eq
    rw [← hget, hnodup.idxOf_getElem d hlt]
  rw [digit?, digit36?_eq hascii, if_pos hmem, hplace, Option.filter_some,
    if_pos (decide_eq_true h.lt)]

/-- What writes a digit looks like one. -/
theorem Writes.digitLike (h : Writes base c d) : DigitLike base c := by
  refine Or.inl ?_
  rw [h.digit?_eq]
  rfl

/-- What writes digits looks like digits. -/
theorem digitLike_of_forall₂ (h : List.Forall₂ (Writes base) w ds) : ∀ c ∈ w, DigitLike base c := by
  induction h with
  | nil => exact List.forall_mem_nil _
  | cons hc _ ih => exact List.forall_mem_cons.2 ⟨hc.digitLike, ih⟩

/-- What denotes a number is a numeral. -/
theorem Denotes.mem_naturals (h : Denotes base w v) : w ∈ naturals base := by
  obtain ⟨ds, hds, -⟩ := h.exists_digits
  exact ⟨h.ne_nil, digitLike_of_forall₂ hds⟩

/-! ## Reading numerals -/

/-- The digits that are written are read. -/
theorem readDigits_eq (h : List.Forall₂ (Writes base) w ds) (ready : Bool)
    (hne : w ≠ [] ∨ ready = true) : readDigits base ready w = some ds := by
  induction h generalizing ready with
  | nil =>
    have hready : ready = true := hne.resolve_left fun h => h rfl
    rw [readDigits, if_pos hready]
  | cons hc _ ih =>
    rw [readDigits, if_neg hc.digitLike.plain.ne_underscore, hc.digit?_eq]
    simp only [ih true (Or.inr rfl), Option.map_some]

/-- Digits are combined from the first one on, as in positional notation. -/
theorem ofDigits_eq (base : Nat) (ds : List Nat) :
    ofDigits base ds = Nat.ofDigits base ds.reverse := by
  rw [Nat.ofDigits_eq_foldr, List.foldr_reverse, ofDigits]
  congr
  funext acc d
  exact Nat.add_comm _ _

/-- Among the bases from 2 to 36, the powers of two are those with no limit to a numeral. -/
theorem isBinaryBase_pow {k : Nat} (h2 : 2 ≤ 2 ^ k) (h36 : 2 ^ k ≤ 36) :
    isBinaryBase (2 ^ k) = true := by
  have hk : k < 6 := (Nat.pow_lt_pow_iff_right (by decide : 1 < 2)).1 (by omega : 2 ^ k < 2 ^ 6)
  interval_cases k
  · omega
  all_goals rfl

/-- A limit for the other bases leaves none for the powers of two. -/
theorem isBinaryBase_or_le (h2 : 2 ≤ base) (h36 : base ≤ 36) {n : Nat}
    (h : (¬ ∃ k, base = 2 ^ k) → n ≤ 4300) : isBinaryBase base = true ∨ n ≤ maxDigits := by
  by_cases hpow : ∃ k, base = 2 ^ k
  · obtain ⟨k, rfl⟩ := hpow
    exact Or.inl (isBinaryBase_pow h2 h36)
  · exact Or.inr (h hpow)

/-- A numeral, behind a sign or without one, is read as the number that it denotes. -/
theorem readInt?_of_denotes {s : List Char} (hs : s ∈ 1 + signs) (hw : Denotes base w v)
    (hshort : isBinaryBase base = true ∨ w.length ≤ maxDigits) :
    readInt? base (s ++ w) = some (if s = ['-'] then -(v : Int) else v) := by
  obtain ⟨ds, hds, hv⟩ := hw.exists_digits
  have hlong : ¬ (decide (maxDigits < ds.length) && !isBinaryBase base) = true := by
    rw [← hds.length_eq]
    simp only [Bool.and_eq_true, decide_eq_true_eq, Bool.not_eq_true']
    rintro ⟨hlt, hbase⟩
    rcases hshort with h | h
    · rw [h] at hbase
      cases hbase
    · omega
  rw [readInt?_eq hs hw.mem_naturals, readDigits_eq hds false (Or.inl hw.ne_nil), Option.bind_some,
    if_neg hlong, ofDigits_eq, hv]

end Number

/-- A numeral that is short enough converts to the number it denotes. -/
theorem Datum.toIntIn_of_denotes {base v : Nat} {s w : List Char} (hs : s ∈ 1 + Number.signs)
    (hw : Number.Denotes base w v)
    (hshort : Number.isBinaryBase base = true ∨ w.length ≤ Number.maxDigits) :
    toIntIn base (.text (s ++ w)) = .ok (.int (if s = ['-'] then -(v : Int) else v)) := by
  rw [toIntIn, Number.readInt?_of_denotes hs hw hshort]
  rfl

/-! ## The grammar -/

namespace Grammar

/-- The test of a digit rejects a character. -/
def RejectsDigit (base : Nat) (c : Char) : Prop :=
  ∃ accepts description, digitIn base = .satisfy accepts description ∧
    accepts (Datum.char c) = .ok false

/-- A digit is rejected if it does not look like one. -/
theorem rejectsDigit_iff (base : Nat) (c : Char) :
    RejectsDigit base c ↔ ¬ Number.DigitLike base c := by
  obtain ⟨accepts, description, heq, haccepts⟩ := exists_digitIn_eq base
  constructor
  · rintro ⟨accepts', description', heq', hc⟩
    obtain ⟨rfl, -⟩ := Grammar.satisfy.inj (heq.symm.trans heq')
    rw [haccepts] at hc
    exact of_decide_eq_false (Except.ok.inj hc)
  · intro hc
    exact ⟨accepts, description, heq, by rw [haccepts, decide_eq_false hc]⟩

section Numerals

variable (names : Names) {cap : Int} (depth : Nat) {r : Span} {cs : Array Char} {base : Nat}
  {u w : List Char} (hr : r.source.content = .text cs) (ht : r.Shows (w ++ u))
  (hu : ∀ c ∈ u.head?, ¬ Number.DigitLike base c) (hcap : (w.length : Int) ≤ max 1 cap)
include hr ht hu hcap

/-- Digits are read up to the first character that does not pass for one. -/
theorem yields_digits [Monoids] (hw : w ∈ Number.naturals base) :
    ∃ h, ((digits base).parserIn names cap depth).Yields r (.text w) (r.drop w.length h) := by
  obtain ⟨accepts, description, heq, haccepts⟩ := exists_digitIn_eq base
  obtain ⟨x, h, hx⟩ := Parser.exists_succeeds_of_stretch description haccepts hu ht hw cap
  have hlength : min w.length (max 1 cap.toNat) = w.length := by omega
  simp only [hlength] at h hx
  have hspells := (Parser.spells_satisfy accepts description).oneOrMore cap none
  obtain ⟨y, hy⟩ := hx.exists_reduce hspells hr
  have hdigits : ((digits base).parserIn names cap depth).Succeeds r y (r.drop w.length h) := by
    rw [digits, heq]
    exact hy.describe _
  exact ⟨h, (lexes_digits (E := fun _ => False) hr base).yields hr ht hdigits⟩

/-- A numeral is read as the number that it denotes. -/
theorem yields_natural [Monoids] {v : Nat} (hw : Number.Denotes base w v)
    (hshort : Number.isBinaryBase base = true ∨ w.length ≤ Number.maxDigits) :
    ∃ h, ((natural base).parserIn names cap depth).Yields r (.int v) (r.drop w.length h) := by
  obtain ⟨h, hyields⟩ := yields_digits names depth hr ht hu hcap hw.mem_naturals
  have hint : Datum.toIntIn base (.text w) = .ok (.int v) :=
    Datum.toIntIn_of_denotes (s := []) (Or.inl rfl) hw hshort
  exact ⟨h, hyields.lift hint⟩

end Numerals

/-- **Every numeral is decoded.**  Let the text in view be a numeral of a base from 2 to 36 and then
either nothing or something whose first character the test of a digit rejects.  If the cap allows as
many digits, and, in a base that is not a power of two, the numeral has at most 4300 of them, the
grammar of a natural number produces the number that the numeral denotes, and goes on behind it. -/
theorem parse_natural [Monoids] (names : Names) {cap : Int} (depth : Nat) {base v : Nat}
    (h2 : 2 ≤ base) (h36 : base ≤ 36) {w u : List Char} (hw : Number.Denotes base w v)
    (hcap : (w.length : Int) ≤ max 1 cap) (hlong : (¬ ∃ k, base = 2 ^ k) → w.length ≤ 4300)
    {r : Span} {cs : Array Char} (hr : r.source.content = .text cs)
    (ht : (cs.extract r.start r.stop).toList = w ++ u) (hu : ∀ c ∈ u.head?, RejectsDigit base c) :
    ∃ h, (((natural base).parserIn names cap depth).parse r).result
      = .ok (.single (.value (.int v) (r.drop w.length h))) := by
  have hshows : r.Shows (w ++ u) := ht ▸ Span.shows_extract hr
  have hstop : ∀ c ∈ u.head?, ¬ Number.DigitLike base c := fun c hc =>
    (rejectsDigit_iff base c).1 (hu c hc)
  exact yields_natural names depth hr hshows hstop hcap hw
    (Number.isBinaryBase_or_le h2 h36 hlong)

/-- The case of a numeral in base 36 with a leading zero and letters of either case. -/
theorem parse_natural_letters :
    let _ : Monoids := .none
    let cs := "+0zZ-".toList.toArray
    let r : Span :=
      { source := .ofText "+0zZ-".toList, start := 1, stop := 5, start_le_stop := by decide,
        stop_le_size := by decide }
    Number.Denotes 36 ['0', 'z', 'Z'] 1295 ∧ r.source.content = .text cs ∧
      (cs.extract r.start r.stop).toList = ['0', 'z', 'Z'] ++ ['-'] ∧ RejectsDigit 36 '-' ∧
      (['0', 'z', 'Z'].length : Int) ≤ max 1 3 ∧
      ∃ h, (((natural 36).parserIn (fun _ => none) 3 0).parse r).result
        = .ok (.single (.value (.int 1295) (r.drop 3 h))) := by
  intro _ cs r
  have hw : Number.Denotes 36 ['0', 'z', 'Z'] 1295 := by
    refine ⟨List.cons_ne_nil _ _, [0, 35, 35], ?_, by decide⟩
    have hzero : Number.Writes 36 '0' 0 := ⟨by decide, by decide⟩
    have hsmall : Number.Writes 36 'z' 35 := ⟨by decide, by decide⟩
    have hlarge : Number.Writes 36 'Z' 35 := ⟨by decide, by decide⟩
    exact .cons hzero (.cons hsmall (.cons hlarge .nil))
  have hr : r.source.content = .text cs := rfl
  have ht : (cs.extract r.start r.stop).toList = ['0', 'z', 'Z'] ++ ['-'] := by decide
  have hu : RejectsDigit 36 '-' := (rejectsDigit_iff 36 '-').2 (by decide)
  have hcap : (['0', 'z', 'Z'].length : Int) ≤ max 1 3 := by decide
  exact ⟨hw, hr, ht, hu, hcap, parse_natural (fun _ => none) 0 (by decide) (by decide) hw hcap
    (fun _ => by decide) hr ht (fun c hc => Option.some.inj hc ▸ hu)⟩

end Grammar

end TokenGrammar
