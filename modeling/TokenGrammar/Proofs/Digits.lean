/-
# Digits of a base

What the grammar of a digit accepts.  The test is made by range, by membership or by the lower-case
form, depending on the base, and in all three ways it accepts what passes for a digit of the base.
-/
import Mathlib.Data.List.Infix
import TokenGrammar.Grammar.Leaves
import TokenGrammar.Proofs.Numerals

namespace TokenGrammar

/-! ## Occurring in a text -/

/-- A text occurs in another one if it is a part of it. -/
theorem Text.occursIn_iff_infix (needle cs : List Char) :
    occursIn needle cs = true ↔ needle <:+: cs := by
  induction cs with
  | nil => rw [occursIn, List.isEmpty_iff, List.infix_nil]
  | cons c cs ih =>
    rw [occursIn, Bool.or_eq_true, List.isPrefixOf_iff_prefix, ih, List.infix_cons_iff]

/-! ## The order of characters -/

namespace Datum

/-- Characters are ordered by their numbers. -/
theorem atMost_char (a b : Char) : atMost (char a) (char b) = .ok (decide (a.toNat ≤ b.toNat)) := by
  have hcompare : compare (char a) (char b) = .ok (some (Ord.compare a.toNat b.toNat)) := by
    simp only [char, compare, compareKeys, List.map]
    cases Ord.compare a.toNat b.toNat <;> rfl
  rw [atMost, hcompare]
  cases hord : Ord.compare a.toNat b.toNat with
  | lt => rw [decide_eq_true (Nat.le_of_lt (Nat.compare_eq_lt.1 hord))]; rfl
  | eq => rw [decide_eq_true (Nat.le_of_eq (Nat.compare_eq_eq.1 hord))]; rfl
  | gt => rw [decide_eq_false (Nat.not_le_of_gt (Nat.compare_eq_gt.1 hord))]; rfl

/-- Characters are compared by their numbers. -/
theorem between_char (a b c : Char) :
    between (char a) (char b) (char c) = .ok (decide (a.toNat ≤ c.toNat ∧ c.toNat ≤ b.toNat)) := by
  rw [between, atMost_char, atMost_char]
  by_cases h : a.toNat ≤ c.toNat
  · simp only [h, true_and]
    rfl
  · simp only [h, false_and]
    rfl

end Datum

/-! ## Lower case -/

/-- Whether what the numbers of a shift are mapped to are characters outside ASCII. -/
def Shift.beyondAscii (s : Shift) : Bool :=
  (0x7f ≤ s.first + s.distance && s.last + s.distance < 0xd800)
    || (0xe000 ≤ s.first + s.distance && s.last + s.distance < 0x110000)

/-- What is shifted out of the ASCII characters is none of them. -/
theorem Shift.not_lt_of_beyondAscii {s : Shift} {n : Nat} (hs : s.beyondAscii = true)
    (hn : s.covers n = true) : ¬ (Char.ofNat (n + s.distance).toNat).toNat < 0x7f := by
  simp only [beyondAscii, covers, Bool.or_eq_true, Bool.and_eq_true, decide_eq_true_eq] at hs hn
  have hvalid : (n + s.distance).toNat.isValidChar := by
    rw [Nat.isValidChar]
    omega
  have hnumber : (Char.ofNat (n + s.distance).toNat).toNat = (n + s.distance).toNat := by
    rw [Char.ofNat, dif_pos hvalid]
    rfl
  omega

/-- Outside ASCII, lower case stays outside ASCII, except for the Kelvin sign. -/
theorem Character.exists_mem_toLower {c : Char} (hc : ¬ c.toNat < 0x7f) (hk : c ≠ Number.kelvin) :
    ∃ d ∈ toLower c, ¬ d.toNat < 0x7f := by
  have htable : (lowerShifts.all fun s =>
      s.first == Number.kelvin.toNat && s.last == Number.kelvin.toNat || s.beyondAscii) = true := by
    decide +kernel
  rw [toLower, if_neg hc]
  split
  · exact ⟨'\u0307', List.mem_cons_of_mem _ (List.mem_singleton_self _), by decide⟩
  · refine ⟨_, List.mem_singleton_self _, ?_⟩
    rcases Shift.apply_eq_or lowerShifts c.toNat with hstay | ⟨s, hs, hcovers, hmoved⟩
    · rwa [hstay, Char.ofNat_toNat]
    · rw [hmoved]
      rcases Bool.or_eq_true_iff.1 (List.all_eq_true.1 htable s hs) with hkelvin | hbeyond
      · rw [Bool.and_eq_true, beq_iff_eq, beq_iff_eq] at hkelvin
        simp only [Shift.covers, Bool.and_eq_true, decide_eq_true_eq] at hcovers
        exact absurd (Char.toNat_inj.1 (by omega)) hk
      · exact Shift.not_lt_of_beyondAscii hbeyond hcovers

namespace Number

open Grammar (digitCharacters)

/-! ## Digits by range and by membership -/

/-- In the bases without a digit k, it is enough to look at the ASCII characters. -/
theorem digitLike_iff_of_ascii {base : Nat} (hbase : base ≤ 20) {P : Char → Prop}
    (hP : ∀ c, P c → c.toNat < 0x7f)
    (h : ∀ n < 0x7f, DigitLike base (Char.ofNat n) ↔ P (Char.ofNat n)) (c : Char) :
    DigitLike base c ↔ P c := by
  have hascii (hc : c.toNat < 0x7f) : DigitLike base c ↔ P c :=
    Character.forall_ascii (P := fun c => DigitLike base c ↔ P c) h hc
  constructor
  · intro hdigit
    rcases hdigit with hsome | ⟨-, hlarge⟩
    · have hc := Character.toNat_lt_of_isAlphanum (isAlphanum_of_digit? hsome)
      exact (hascii hc).1 (Or.inl hsome)
    · omega
  · intro hc
    exact (hascii (hP c hc)).2 hc

/-- The digits in base ten are the decimal digits. -/
theorem digitLike_ten_iff (c : Char) :
    DigitLike 10 c ↔ '0'.toNat ≤ c.toNat ∧ c.toNat ≤ '9'.toNat := by
  refine digitLike_iff_of_ascii (by decide)
    (P := fun c => '0'.toNat ≤ c.toNat ∧ c.toNat ≤ '9'.toNat) ?_ (by decide +kernel) c
  intro c hc
  exact Nat.lt_of_le_of_lt hc.2 (by decide)

/-- The digits in base sixteen are the hexadecimal digits of both cases. -/
theorem digitLike_sixteen_iff (c : Char) :
    DigitLike 16 c ↔ c ∈ "0123456789abcdefABCDEF".toList :=
  have hall : ("0123456789abcdefABCDEF".toList.all fun c => decide (c.toNat < 0x7f)) = true := by
    decide +kernel
  digitLike_iff_of_ascii (by decide) (P := fun c => c ∈ "0123456789abcdefABCDEF".toList)
    (fun c hc => of_decide_eq_true (List.all_eq_true.1 hall c hc)) (by decide +kernel) c

/-! ## Digits by lower case -/

/-- The value of an ASCII character is the place of its lower-case form among the digits. -/
theorem digit36?_eq {c : Char} (hc : c.toNat < 0x7f) :
    digit36? c = if c.toLower ∈ digitCharacters
      then some (digitCharacters.idxOf c.toLower) else none :=
  Character.forall_ascii (P := fun c => digit36? c = if c.toLower ∈ digitCharacters
    then some (digitCharacters.idxOf c.toLower) else none) (by decide +kernel) hc

/-- Among the ASCII characters, those with a value are the ones whose lower-case form stands at the
place of that value. -/
theorem isSome_digit?_iff {base : Nat} {c : Char} (hc : c.toNat < 0x7f) :
    (digit? base c).isSome = true ↔ c.toLower ∈ digitCharacters.take base := by
  rw [digit?, digit36?_eq hc, Option.isSome_filter]
  split_ifs with hmem
  · rw [List.mem_take_iff_idxOf_lt hmem, Option.any_some, decide_eq_true_eq]
  · exact ⟨nofun, fun h => absurd (List.mem_of_mem_take h) hmem⟩

/-- A character passes for a digit if its lower-case form is one. -/
theorem digitLike_iff_occursIn (base : Nat) (c : Char) :
    DigitLike base c ↔
      Text.occursIn (Character.toLower c) (digitCharacters.take base) = true := by
  rw [Text.occursIn_iff_infix]
  by_cases hk : c = kelvin
  · subst hk
    have hplace : digitCharacters.idxOf 'k' = 20 := by decide +kernel
    have hmem : 'k' ∈ digitCharacters := by decide +kernel
    have hlower : Character.toLower kelvin = ['k'] := by decide +kernel
    rw [hlower, List.singleton_infix_iff, List.mem_take_iff_idxOf_lt hmem, hplace, DigitLike,
      digit?_kelvin]
    exact ⟨fun h => (h.resolve_left nofun).2, fun h => Or.inr ⟨rfl, h⟩⟩
  · have hsome : DigitLike base c ↔ (digit? base c).isSome = true :=
      ⟨fun h => h.resolve_right fun h => hk h.1, Or.inl⟩
    rw [hsome]
    by_cases hc : c.toNat < 0x7f
    · have hlower : Character.toLower c = [c.toLower] :=
        Character.forall_ascii (P := fun c => Character.toLower c = [c.toLower])
          (by decide +kernel) hc
      rw [hlower, List.singleton_infix_iff, isSome_digit?_iff hc]
    · obtain ⟨d, hd, hlarge⟩ := Character.exists_mem_toLower hc hk
      constructor
      · intro h
        exact absurd (Character.toNat_lt_of_isAlphanum (isAlphanum_of_digit? h)) hc
      · intro h
        have hall : (digitCharacters.all fun e => decide (e.toNat < 0x7f)) = true := by
          decide +kernel
        have hsmall := List.all_eq_true.1 hall d (List.mem_of_mem_take (h.subset hd))
        exact absurd (of_decide_eq_true hsmall) hlarge

end Number

/-! ## The test of a digit -/

/-- Whichever way the test is made, it accepts what passes for a digit of the base. -/
theorem Grammar.exists_digitIn_eq (base : Nat) :
    ∃ accepts description, digitIn base = .satisfy accepts description ∧
      ∀ c, accepts (Datum.char c) = .ok (decide (Number.DigitLike base c)) := by
  rw [digitIn]
  split_ifs with hten hsixteen
  · refine ⟨_, _, rfl, fun c => ?_⟩
    rw [hten, Datum.between_char]
    exact congrArg Except.ok (decide_eq_decide.2 (Number.digitLike_ten_iff c).symm)
  · refine ⟨_, _, rfl, fun c => congrArg Except.ok ?_⟩
    rw [hsixteen, Bool.eq_iff_iff, Text.occursIn_iff_infix, List.singleton_infix_iff,
      decide_eq_true_eq]
    exact (Number.digitLike_sixteen_iff c).symm
  · refine ⟨_, _, rfl, fun c => congrArg Except.ok ?_⟩
    rw [Text.toLower_singleton, Bool.eq_iff_iff, decide_eq_true_eq]
    exact (Number.digitLike_iff_occursIn base c).symm

end TokenGrammar
