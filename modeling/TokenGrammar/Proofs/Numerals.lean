/-
# Numerals

The texts that stand for numbers, as languages, and which of them can be read.  A natural number is
written with what passes for a digit, and that is more than what is read as one: the Kelvin sign
becomes a k in lower case, but has no value as a digit.  Long numerals are not read either, unless
the base is a power of two.  Decimal numbers are read whatever their length.
-/
import TokenGrammar.Proofs.Words
import TokenGrammar.Text.Number

namespace TokenGrammar

namespace Character

/-- What holds of the ASCII characters one by one holds of all of them. -/
theorem forall_ascii {P : Char → Prop} (h : ∀ n < 0x7f, P (Char.ofNat n)) {c : Char}
    (hc : c.toNat < 0x7f) : P c := by
  have hofNat : P (Char.ofNat c.toNat) := h c.toNat hc
  rwa [Char.ofNat_toNat] at hofNat

/-- The letters and digits that `Char.isAlphanum` knows are ASCII. -/
theorem toNat_lt_of_isAlphanum {c : Char} (h : c.isAlphanum = true) : c.toNat < 0x7f := by
  have hcases : (c.isUpper || c.isLower || c.isDigit) = true := h
  rw [Bool.or_eq_true, Bool.or_eq_true] at hcases
  rcases hcases with (hupper | hlower) | hdigit
  · have hle : c.val ≥ 'A'.val ∧ c.val ≤ 'Z'.val := of_decide_eq_true hupper
    exact Nat.lt_of_le_of_lt (UInt32.le_iff_toNat_le.1 hle.2) (by decide)
  · have hle : c.val ≤ 'z'.val := of_decide_eq_true (Bool.and_elim_right hlower)
    exact Nat.lt_of_le_of_lt (UInt32.le_iff_toNat_le.1 hle) (by decide)
  · exact Nat.lt_of_le_of_lt (Char.isDigit_iff_toNat.1 hdigit).2 (by decide)

end Character

namespace Number

/-! ## What passes for a digit -/

/-- Digits and letters alone have a value. -/
theorem isAlphanum_of_digit? {base : Nat} {c : Char} (h : (digit? base c).isSome = true) :
    c.isAlphanum = true := by
  have hc : (digit36? c).isSome = true := Option.isSome_of_isSome_filter _ _ h
  show (c.isUpper || c.isLower || c.isDigit) = true
  rw [digit36?] at hc
  split_ifs at hc with hd hl hu
  · rw [hd, Bool.or_true]
  · rw [hl, Bool.or_true, Bool.true_or]
  · rw [hu, Bool.true_or, Bool.true_or]
  · cases hc

/-- The Kelvin sign, a character of its own, whose lower-case form is the letter k. -/
def kelvin : Char := '\u212a'

/-- The Kelvin sign is no digit. -/
theorem digit?_kelvin (base : Nat) : digit? base kelvin = none := rfl

/-- What passes for a digit of a base: its digits, and the Kelvin sign if k is one of them. -/
def DigitLike (base : Nat) (c : Char) : Prop :=
  (digit? base c).isSome = true ∨ (c = kelvin ∧ 20 < base)

/-- Whether a character looks like a digit can be decided. -/
instance (base : Nat) (c : Char) : Decidable (DigitLike base c) :=
  inferInstanceAs (Decidable (_ ∨ _))

/-- A character that is neither replaced nor dropped when a number is read. -/
structure Plain (c : Char) : Prop where
  toAscii_eq : toAscii c = c
  isMargin_eq : isMargin c = false
  ne_underscore : c ≠ '_'

/-- ASCII characters are plain unless they are blank or the underscore. -/
theorem plain_of_ascii {c : Char} (hc : c.toNat < 0x7f) (hmargin : isMargin c = false)
    (hne : c ≠ '_') : Plain c :=
  ⟨if_pos hc, hmargin, hne⟩

/-- The Kelvin sign is plain. -/
theorem plain_kelvin : Plain kelvin :=
  ⟨by decide, by decide, by decide⟩

namespace DigitLike

variable {base : Nat} {c : Char}

/-- What looks like a digit is a letter, a digit or the Kelvin sign. -/
theorem isAlphanum_or_eq (h : DigitLike base c) : c.isAlphanum = true ∨ c = kelvin :=
  h.imp isAlphanum_of_digit? And.left

/-- What looks like a digit is plain. -/
theorem plain (h : DigitLike base c) : Plain c := by
  rcases h.isAlphanum_or_eq with hc | rfl
  · have hlt : c.toNat < 0x7f := Character.toNat_lt_of_isAlphanum hc
    have hall : c.isAlphanum = true → isMargin c = false ∧ c ≠ '_' :=
      Character.forall_ascii (P := fun c => c.isAlphanum = true → isMargin c = false ∧ c ≠ '_')
        (by decide) hlt
    exact plain_of_ascii hlt (hall hc).1 (hall hc).2
  · exact plain_kelvin

/-- What passes for a digit is no sign. -/
theorem ne_sign (h : DigitLike base c) : c ≠ '-' ∧ c ≠ '+' := by
  rcases h.isAlphanum_or_eq with hc | rfl
  · constructor
    · rintro rfl
      cases hc
    · rintro rfl
      cases hc
  · exact ⟨by decide, by decide⟩

/-- In base 10 it is one of the usual digits. -/
theorem isDigit (h : DigitLike 10 c) : c.isDigit = true := by
  rcases h with h | ⟨-, h⟩
  · have hall : (digit? 10 c).isSome = true → c.isDigit = true :=
      Character.forall_ascii (P := fun c => (digit? 10 c).isSome = true → c.isDigit = true)
        (by decide) (Character.toNat_lt_of_isAlphanum (isAlphanum_of_digit? h))
    exact hall h
  · exact absurd h (by decide)

end DigitLike

/-! ## Languages of numerals -/

/-- The texts that pass for natural numbers of a base. -/
def naturals (base : Nat) : Language Char :=
  {w | w ≠ [] ∧ ∀ c ∈ w, DigitLike base c}

/-- A plus or a minus. -/
def signs : Language Char :=
  {['+'], ['-']}

/-- Whole numbers, with a sign or without. -/
def integers : Language Char :=
  naturals 10 + signs * naturals 10

/-- A point with digits behind it. -/
def fractions : Language Char :=
  {['.']} * naturals 10

/-- What scales a number by a power of ten. -/
def exponents : Language Char :=
  {['e'], ['E']} * integers

/-- Decimal numbers, with or without a sign, a fraction and an exponent. -/
def decimals : Language Char :=
  integers * (fractions + 1) * (exponents + 1)

/-- A numeral has at least one digit. -/
theorem nil_notMem_naturals (base : Nat) : [] ∉ naturals base :=
  Text.nil_notMem_stretches (DigitLike base)

/-- What begins with something that is not empty is not empty. -/
theorem nil_notMem_mul {L M : Language Char} (hL : [] ∉ L) : [] ∉ L * M := by
  intro h
  obtain ⟨u, hu, v, -, huv⟩ := Language.mem_mul.1 h
  rw [List.append_eq_nil_iff] at huv
  exact hL (huv.1 ▸ hu)

/-- An integer has at least one digit. -/
theorem nil_notMem_integers : [] ∉ integers := by
  rintro (h | h)
  · exact nil_notMem_naturals 10 h
  · exact nil_notMem_mul (L := signs) (by rintro (h | h) <;> cases h) h

/-- Digits one after the other are a natural number again. -/
theorem mem_naturals_of_mem_kstar {base : Nat} {w : List Char}
    (h : w ∈ naturals base * KStar.kstar (naturals base)) : w ∈ naturals base :=
  Text.mem_stretches_of_mem_kstar (fun _ hw => hw) h

/-- An integer is a sign, if any, and a numeral. -/
theorem exists_of_mem_integers {w : List Char} (h : w ∈ integers) :
    ∃ s ∈ (1 + signs), ∃ ds ∈ naturals 10, s ++ ds = w := by
  rcases h with h | h
  · exact ⟨[], Or.inl rfl, w, h, rfl⟩
  · obtain ⟨s, hs, ds, hds, rfl⟩ := Language.mem_mul.1 h
    exact ⟨s, Or.inr hs, ds, hds, rfl⟩

/-- A decimal number is a sign, a numeral, a fraction and an exponent, of which all but the numeral
may be absent. -/
theorem exists_of_mem_decimals {w : List Char} (h : w ∈ decimals) :
    ∃ s ∈ (1 + signs), ∃ ds ∈ naturals 10, ∃ f ∈ (fractions + 1), ∃ e ∈ (exponents + 1),
      s ++ (ds ++ f ++ e) = w := by
  obtain ⟨u, hu, e, he, rfl⟩ := Language.mem_mul.1 h
  obtain ⟨i, hi, f, hf, rfl⟩ := Language.mem_mul.1 hu
  obtain ⟨s, hs, ds, hds, rfl⟩ := exists_of_mem_integers hi
  exact ⟨s, hs, ds, hds, f, hf, e, he, by simp only [List.append_assoc]⟩

/-- The texts of a language consist of plain characters. -/
def AllPlain (L : Language Char) : Prop :=
  ∀ w ∈ L, ∀ c ∈ w, Plain c

namespace AllPlain

variable {L M : Language Char}

/-- The empty text is plain. -/
theorem one : AllPlain 1 :=
  Text.Over.one

/-- Alternatives of plain texts are plain. -/
theorem add (hL : AllPlain L) (hM : AllPlain M) : AllPlain (L + M) :=
  Text.Over.add hL hM

/-- Plain texts one after the other are plain. -/
theorem mul (hL : AllPlain L) (hM : AllPlain M) : AllPlain (L * M) :=
  Text.Over.mul hL hM

/-- Numerals are plain. -/
theorem naturals (base : Nat) : AllPlain (naturals base) :=
  fun _ hw c hc => (hw.2 c hc).plain

/-- Signs, the point and the marks of an exponent. -/
theorem of_marks (h : ∀ w ∈ L, ∃ c ∈ ['+', '-', '.', 'e', 'E'], w = [c]) : AllPlain L := by
  intro w hw
  obtain ⟨c, hc, rfl⟩ := h w hw
  have hall : (['+', '-', '.', 'e', 'E'].all fun c =>
      decide (c.toNat < 0x7f ∧ isMargin c = false ∧ c ≠ '_')) = true := by decide
  obtain ⟨hlt, hmargin, hne⟩ := of_decide_eq_true (List.all_eq_true.1 hall c hc)
  exact List.forall_mem_singleton.2 (plain_of_ascii hlt hmargin hne)

/-- Signs are plain. -/
theorem signs : AllPlain signs :=
  of_marks fun _ hw => hw.elim (fun h => ⟨'+', by decide, h⟩) fun h => ⟨'-', by decide, h⟩

/-- Integers are plain. -/
theorem integers : AllPlain integers :=
  (naturals 10).add (signs.mul (naturals 10))

/-- Decimal numbers are plain. -/
theorem decimals : AllPlain decimals := by
  have hfractions : AllPlain fractions :=
    (of_marks fun _ hw => ⟨'.', by decide, hw⟩).mul (naturals 10)
  have hexponents : AllPlain exponents :=
    (of_marks fun _ hw => hw.elim (fun h => ⟨'e', by decide, h⟩)
      fun h => ⟨'E', by decide, h⟩).mul integers
  exact (integers.mul (hfractions.add one)).mul (hexponents.add one)

end AllPlain

/-! ## Preparing -/

/-- Plain texts have no margin. -/
theorem dropWhile_isMargin {cs : List Char} (h : ∀ c ∈ cs, Plain c) :
    cs.dropWhile isMargin = cs := by
  cases cs with
  | nil => rfl
  | cons c cs =>
    rw [List.dropWhile_cons_of_neg]
    rw [(h c List.mem_cons_self).isMargin_eq]
    exact Bool.false_ne_true

/-- A text of plain characters is read as it stands. -/
theorem prepare_eq {cs : List Char} (h : ∀ c ∈ cs, Plain c) : prepare cs = cs := by
  have hmap : cs.map toAscii = cs :=
    (List.map_congr_left (g := id) fun c hc => (h c hc).toAscii_eq).trans (List.map_id cs)
  have hreverse : ∀ c ∈ cs.reverse, Plain c := fun c hc => h c (List.mem_reverse.1 hc)
  rw [prepare, trim, hmap, dropWhile_isMargin h, dropWhile_isMargin hreverse, List.reverse_reverse]

/-- The sign in front of a numeral is split off, if there is one. -/
theorem splitSign_append {s w : List Char} (hs : s ∈ 1 + signs)
    (hw : ∀ c ∈ w.head?, c ≠ '-' ∧ c ≠ '+') : splitSign (s ++ w) = (decide (s = ['-']), w) := by
  rcases hs with rfl | rfl | rfl
  · cases w with
    | nil => rfl
    | cons c w =>
      have hc := hw c rfl
      rw [List.nil_append, splitSign]
      · rfl
      · simpa using hc.1
      · simpa using hc.2
  · rfl
  · rfl

/-- The sign before a numeral is split off. -/
theorem splitSign_naturals {base : Nat} {s ds : List Char} (hs : s ∈ 1 + signs)
    (hds : ds ∈ naturals base) (w : List Char) :
    splitSign (s ++ (ds ++ w)) = (decide (s = ['-']), ds ++ w) := by
  refine splitSign_append hs fun c hc => ?_
  rw [List.head?_append_of_ne_nil ds hds.1] at hc
  exact (hds.2 c (List.mem_of_mem_head? hc)).ne_sign

/-! ## Reading integers -/

/-- The natural numbers that are read: no Kelvin sign stands among the digits, and there are not too
many digits. -/
structure Convertible (base : Nat) (w : List Char) : Prop where
  kelvin_notMem : kelvin ∉ w
  short : isBinaryBase base = true ∨ w.length ≤ maxDigits

/-- A character that is no digit keeps digits from being read. -/
theorem readDigits_eq_none {base : Nat} {c : Char} {cs : List Char} (hc : c ∈ cs) (hne : c ≠ '_')
    (hdigit : digit? base c = none) (ready : Bool) : readDigits base ready cs = none := by
  induction cs generalizing ready with
  | nil => cases hc
  | cons d ds ih =>
    rw [readDigits]
    rcases List.mem_cons.1 hc with rfl | hmem
    · rw [if_neg hne, hdigit]
    · -- the character is still ahead, whatever the first one is
      split_ifs
      · exact ih hmem false
      · rfl
      · split
        · rw [ih hmem true]
          rfl
        · rfl

/-- Digits alone are read, one for one. -/
theorem exists_readDigits {base : Nat} {cs : List Char}
    (h : ∀ c ∈ cs, c ≠ '_' ∧ (digit? base c).isSome = true) (ready : Bool)
    (hne : cs ≠ [] ∨ ready = true) :
    ∃ ds, readDigits base ready cs = some ds ∧ ds.length = cs.length := by
  induction cs generalizing ready with
  | nil =>
    have hready : ready = true := hne.resolve_left fun h => h rfl
    exact ⟨[], by rw [readDigits, if_pos hready], rfl⟩
  | cons c cs ih =>
    rw [List.forall_mem_cons] at h
    obtain ⟨d, hd⟩ := Option.isSome_iff_exists.1 h.1.2
    obtain ⟨ds, hds, hlength⟩ := ih h.2 true (Or.inr rfl)
    refine ⟨d :: ds, ?_, congrArg Nat.succ hlength⟩
    rw [readDigits, if_neg h.1.1, hd]
    simp only [hds, Option.map_some]

/-- No mark of a base consists of digits of that base. -/
theorem dropBaseMark_eq {base : Nat} {w : List Char} (hw : ∀ c ∈ w, DigitLike base c) :
    dropBaseMark base w = w := by
  rw [dropBaseMark.eq_def]
  split
  · next m cs =>
    have hm : DigitLike base m := hw m (by simp)
    rw [if_neg]
    simp only [Bool.or_eq_true, Bool.and_eq_true, decide_eq_true_eq]
    rintro ((⟨rfl, rfl | rfl⟩ | ⟨rfl, rfl | rfl⟩) | ⟨rfl, rfl | rfl⟩) <;> revert hm <;> decide
  · rfl

/-- Behind a sign, or without one, the digits of a numeral are read as they stand. -/
theorem readInt?_eq {base : Nat} {s w : List Char} (hs : s ∈ 1 + signs) (hw : w ∈ naturals base) :
    readInt? base (s ++ w) = (readDigits base false w).bind fun ds =>
      if maxDigits < ds.length && !isBinaryBase base then none
      else some (if s = ['-'] then -(ofDigits base ds : Int) else ofDigits base ds) := by
  have hprepare : prepare (s ++ w) = s ++ w :=
    prepare_eq (AllPlain.mul (.add .one .signs) (.naturals base) _ (Language.append_mem_mul hs hw))
  have hsplit : splitSign (s ++ w) = (decide (s = ['-']), w) := by
    have hnil := splitSign_naturals hs hw []
    rwa [List.append_nil] at hnil
  rw [readInt?, hprepare, hsplit]
  simp only [dropBaseMark_eq hw.2, decide_eq_true_eq]
  rfl

/-- Behind a sign, or without one, a numeral is read exactly if it is convertible. -/
theorem isSome_readInt?_iff {base : Nat} {s w : List Char} (hs : s ∈ 1 + signs)
    (hw : w ∈ naturals base) : (readInt? base (s ++ w)).isSome = true ↔ Convertible base w := by
  rw [readInt?_eq hs hw]
  obtain ⟨hne, hdigits⟩ := hw
  by_cases hk : kelvin ∈ w
  · have hnone : readDigits base false w = none :=
      readDigits_eq_none hk plain_kelvin.ne_underscore (digit?_kelvin base) false
    rw [hnone]
    exact ⟨nofun, fun h => absurd hk h.kelvin_notMem⟩
  · have hvalues : ∀ c ∈ w, c ≠ '_' ∧ (digit? base c).isSome = true := fun c hc =>
      ⟨(hdigits c hc).plain.ne_underscore,
        (hdigits c hc).resolve_right fun h => hk (h.1 ▸ hc)⟩
    obtain ⟨ds, hds, hlength⟩ := exists_readDigits hvalues false (Or.inl hne)
    have hlong : (decide (maxDigits < w.length) && !isBinaryBase base) = true ↔
        ¬ (isBinaryBase base = true ∨ w.length ≤ maxDigits) := by
      simp [and_comm]
    simp only [hds, Option.bind_some, hlength]
    by_cases h : (decide (maxDigits < w.length) && !isBinaryBase base) = true
    · rw [if_pos h]
      exact ⟨nofun, fun hw => absurd hw.short (hlong.1 h)⟩
    · rw [if_neg h]
      exact ⟨fun _ => ⟨hk, not_not.1 (mt hlong.2 h)⟩, fun _ => rfl⟩

/-! ## Reading decimal numbers -/

/-- A numeral in base ten consists of decimal digits. -/
theorem all_isDigit {ds : List Char} (h : ds ∈ naturals 10) : ∀ c ∈ ds, c.isDigit = true :=
  fun c hc => (h.2 c hc).isDigit

/-- An exponent can be read, also if it is absent. -/
theorem isSome_readExponent? {w : List Char} (hw : w ∈ exponents + 1) :
    (readExponent? w).isSome = true := by
  rcases hw with hw | rfl
  · obtain ⟨e, he, _, hi, rfl⟩ := Language.mem_mul.1 hw
    obtain ⟨s, hs, ds, hds, rfl⟩ := exists_of_mem_integers hi
    have hsplit := splitSign_naturals hs hds []
    rw [List.append_nil] at hsplit
    have hall : (!ds.isEmpty && ds.all Char.isDigit) = true := by
      simpa [hds.1] using all_isDigit hds
    rcases he with rfl | rfl <;>
    · simp only [List.singleton_append, readExponent?, hsplit, hall]
      rfl
  · rfl

/-- What follows digits is split off from them. -/
theorem dropWhile_isDigit_append {ds : List Char} (h : ds ∈ naturals 10) (w : List Char) :
    (ds ++ w).dropWhile Char.isDigit = w.dropWhile Char.isDigit :=
  List.dropWhile_append_of_pos (all_isDigit h)

/-- An exponent does not begin with a digit or a point. -/
theorem dropWhile_exponent {w : List Char} (hw : w ∈ exponents + 1) :
    w.dropWhile Char.isDigit = w ∧ ∀ u, w ≠ '.' :: u := by
  rcases hw with hw | rfl
  · obtain ⟨e, he, i, _, rfl⟩ := Language.mem_mul.1 hw
    rcases he with rfl | rfl <;>
    · exact ⟨rfl, nofun⟩
  · exact ⟨rfl, nofun⟩

/-- A decimal number without its sign can be read. -/
theorem isSome_readUnsigned? {ds f e : List Char} (hds : ds ∈ naturals 10)
    (hf : f ∈ fractions + 1) (he : e ∈ exponents + 1) (negative : Bool) :
    (readUnsigned? negative (ds ++ f ++ e)).isSome = true := by
  obtain ⟨exponent, hexponent⟩ := Option.isSome_iff_exists.1 (isSome_readExponent? he)
  obtain ⟨hdrop, hpoint⟩ := dropWhile_exponent he
  have hwhole : ((ds ++ (f ++ e)).takeWhile Char.isDigit).isEmpty = false := by
    rw [List.takeWhile_append_of_pos (all_isDigit hds), List.isEmpty_eq_false_iff]
    exact List.append_ne_nil_of_left_ne_nil hds.1 _
  rw [List.append_assoc, readUnsigned?]
  simp only [dropWhile_isDigit_append hds, hwhole, Bool.false_and, Bool.false_eq_true, if_false]
  rcases hf with hf | rfl
  · obtain ⟨_, rfl, fs, hfs, rfl⟩ := Language.mem_mul.1 hf
    have hdot : (['.'] ++ fs ++ e).dropWhile Char.isDigit = '.' :: (fs ++ e) := rfl
    simp only [hdot, dropWhile_isDigit_append hfs, hdrop, hexponent, Option.bind_eq_bind,
      Option.bind_some, Option.isSome_some]
  · simp only [List.nil_append, hdrop, hexponent, Option.bind_eq_bind, Option.bind_some,
      Option.isSome_some]

/-- A text without underscores has none to drop. -/
theorem dropUnderscores_eq {cs : List Char} (h : ∀ c ∈ cs, c ≠ '_') (ready : Bool) :
    dropUnderscores ready cs = some cs := by
  induction cs generalizing ready with
  | nil => rfl
  | cons c cs ih =>
    rw [List.forall_mem_cons] at h
    rw [dropUnderscores, ih h.2]
    · rfl
    · exact fun _ _ hc => absurd hc h.1
    · exact fun hc => absurd hc h.1

/-- A decimal number is read, however many digits it has. -/
theorem isSome_readFloat? {w : List Char} (h : w ∈ decimals) : (readFloat? w).isSome = true := by
  have hplain : ∀ c ∈ w, Plain c := AllPlain.decimals w h
  obtain ⟨s, hs, ds, hds, f, hf, e, he, rfl⟩ := exists_of_mem_decimals h
  have hsplit := splitSign_naturals hs hds (f ++ e)
  rw [← List.append_assoc ds] at hsplit
  rw [readFloat?, prepare_eq hplain, dropUnderscores_eq fun c hc => (hplain c hc).ne_underscore]
  simp only [Option.bind_eq_bind, Option.bind_some, hsplit]
  split_ifs
  · rfl
  · rfl
  · exact isSome_readUnsigned? hds hf he _

end Number

end TokenGrammar
