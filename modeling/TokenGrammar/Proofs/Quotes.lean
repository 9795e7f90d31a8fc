/-
# Characters between quotes

How a single character is written down, said without the functions that do it.  A printable
character stands for itself between single quotes, the single quote between double ones; a few
characters are escaped by a letter, and any other by its number in base 16, with as many digits as
the number needs: two, four or eight.
-/
import Mathlib.Data.List.Forall2
import Mathlib.Data.Nat.Digits.Defs
import TokenGrammar.Text.Quoted

namespace TokenGrammar

namespace Quoted

/-! ## Numbers in base 16 -/

/-- `c` is the digit of base 16 with the value `d`. -/
def WritesHex (c : Char) (d : Nat) : Prop :=
  "0123456789abcdef".toList[d]? = some c

/-- `w` writes the number `n` in base 16, the most significant digit first. -/
def Hexadecimal (n : Nat) (w : List Char) : Prop :=
  ∃ ds, List.Forall₂ WritesHex w ds ∧ Nat.ofDigits 16 ds.reverse = n

/-- The digit for a number below sixteen stands for that number. -/
theorem writesHex_hexDigit {d : Nat} (h : d < 16) : WritesHex (hexDigit d) d := by
  have hall : ((List.range 16).all fun d =>
      "0123456789abcdef".toList[d]? == some (hexDigit d)) = true := by decide +kernel
  exact eq_of_beq (List.all_eq_true.1 hall d (List.mem_range.2 h))

/-- A hexadecimal digit stands for a number below sixteen. -/
theorem WritesHex.lt {c : Char} {d : Nat} (h : WritesHex c d) : d < 16 :=
  (List.getElem?_eq_some_iff.1 h).1

/-- A number is written with the given width. -/
@[simp] theorem length_hex (width n : Nat) : (hex width n).length = width := by
  induction width generalizing n with
  | zero => rfl
  | succ width ih => rw [hex, List.length_append, ih, List.length_singleton]

/-- The last digits of a number write a remainder. -/
theorem hexadecimal_hex (width n : Nat) : Hexadecimal (n % 16 ^ width) (hex width n) := by
  induction width generalizing n with
  | zero => exact ⟨[], .nil, (Nat.mod_one n).symm⟩
  | succ width ih =>
    obtain ⟨ds, hds, hvalue⟩ := ih (n / 16)
    have hlast : WritesHex (hexDigit (n % 16)) (n % 16) :=
      writesHex_hexDigit (Nat.mod_lt n (by decide))
    refine ⟨ds ++ [n % 16], List.rel_append hds (.cons hlast .nil), ?_⟩
    rw [List.reverse_append, List.reverse_singleton, List.singleton_append, Nat.ofDigits_cons,
      hvalue, pow_succ', Nat.mod_mul]

/-- A number that fits the width is written in full. -/
theorem hexadecimal_hex_of_lt {width n : Nat} (h : n < 16 ^ width) :
    Hexadecimal n (hex width n) := by
  have hrest := hexadecimal_hex width n
  rwa [Nat.mod_eq_of_lt h] at hrest

/-- Digits that are written are small. -/
theorem forall_lt_of_writesHex {w : List Char} {ds : List Nat} (h : List.Forall₂ WritesHex w ds) :
    ∀ d ∈ ds, d < 16 := by
  induction h with
  | nil => exact nofun
  | cons hd _ ih => exact List.forall_mem_cons.2 ⟨hd.lt, ih⟩

/-- Of the texts of one length only one writes a number. -/
theorem Hexadecimal.unique {n : Nat} {v w : List Char} (hv : Hexadecimal n v)
    (hw : Hexadecimal n w) (hlength : v.length = w.length) : v = w := by
  obtain ⟨ds, hds, hn⟩ := hv
  obtain ⟨es, hes, hm⟩ := hw
  have hdigits : ds.reverse = es.reverse := by
    refine Nat.ofDigits_inj_of_len_eq (b := 16) (by decide) ?_ ?_ ?_ (hn.trans hm.symm)
    · rw [List.length_reverse, List.length_reverse, ← hds.length_eq, ← hes.length_eq, hlength]
    · exact fun d hd => forall_lt_of_writesHex hds d (List.mem_reverse.1 hd)
    · exact fun d hd => forall_lt_of_writesHex hes d (List.mem_reverse.1 hd)
  rw [List.reverse_injective hdigits] at hds
  have hunique : Relator.LeftUnique WritesHex := fun _ _ _ h h' => Option.some.inj (h.symm.trans h')
  exact List.left_unique_forall₂' hunique hds hes

/-! ## The quoted form -/

/-- The letter that announces the number of a character, and how many digits the number takes. -/
def numbering (c : Char) : Char × Nat :=
  if c.toNat < 0x100 then ('x', 2) else if c.toNat < 0x10000 then ('u', 4) else ('U', 8)

/-- `w` is the quoted form of the character `c`. -/
inductive Form : Char → List Char → Prop where
  /-- The single quote is the only character between double quotes. -/
  | quote : Form '\'' ['"', '\'', '"']
  | backslash : Form '\\' ['\'', '\\', '\\', '\'']
  | newline : Form '\n' ['\'', '\\', 'n', '\'']
  | carriageReturn : Form '\r' ['\'', '\\', 'r', '\'']
  | tab : Form '\t' ['\'', '\\', 't', '\'']
  | printable {c : Char} (hc : Character.isPrintable c = true) (hquote : c ≠ '\'')
    (hslash : c ≠ '\\') : Form c ['\'', c, '\'']
  | numbered {c : Char} {w : List Char} (hc : Character.isPrintable c = false)
    (hnamed : c ∉ ['\n', '\r', '\t']) (hlength : w.length = (numbering c).2)
    (hw : Hexadecimal c.toNat w) : Form c ('\'' :: '\\' :: (numbering c).1 :: w ++ ['\''])

/-- The written form of one character other than a quote. -/
theorem text_singleton {c : Char} (hquote : c ≠ '\'') :
    text [c] = '\'' :: escape '\'' c ++ ['\''] := by
  have hsingle : quoteFor [c] = '\'' := by
    rw [quoteFor, if_neg]
    simp [Ne.symm hquote]
  rw [text, hsingle, List.flatMap_singleton]
  rfl

/-- A character that can be shown stands for itself. -/
theorem escape_of_printable {c : Char} (hc : Character.isPrintable c = true) (hquote : c ≠ '\'')
    (hslash : c ≠ '\\') : escape '\'' c = [c] := by
  have hcontrols : ∀ d ∈ ['\n', '\r', '\t'], c ≠ d := by
    rintro d hd rfl
    have hhidden : (['\n', '\r', '\t'].all fun d => !Character.isPrintable d) = true := by decide
    have hnot := List.all_eq_true.1 hhidden c hd
    rw [hc] at hnot
    cases hnot
  have hnamed : named? '\'' c = none := by
    simp only [List.forall_mem_cons] at hcontrols
    simp [named?, hquote, hslash, hcontrols]
  rw [escape, hnamed, if_pos hc]

/-- A character that cannot be shown is written by its number. -/
theorem escape_of_hidden {c : Char} (hc : Character.isPrintable c = false)
    (hcontrols : c ∉ ['\n', '\r', '\t']) :
    escape '\'' c = '\\' :: (numbering c).1 :: hex (numbering c).2 c.toNat := by
  have hshown : ∀ d ∈ ['\'', '\\'], c ≠ d := by
    rintro d hd rfl
    have hprintable : (['\'', '\\'].all Character.isPrintable) = true := by decide
    rw [List.all_eq_true.1 hprintable c hd] at hc
    cases hc
  have hnamed : named? '\'' c = none := by
    simp only [List.forall_mem_cons] at hshown
    simp only [List.mem_cons, List.not_mem_nil, or_false, not_or] at hcontrols
    simp [named?, hshown, hcontrols]
  simp only [escape, hnamed, hc, numbered, numbering, Bool.false_eq_true, if_false]
  split_ifs <;> rfl

/-- A character's number fits the digits that it takes. -/
theorem hexadecimal_hex_numbering (c : Char) :
    Hexadecimal c.toNat (hex (numbering c).2 c.toNat) := by
  refine hexadecimal_hex_of_lt ?_
  have hlt : c.toNat < 16 ^ 8 := Nat.lt_of_lt_of_le c.val.toNat_lt (by decide)
  rw [numbering]
  split_ifs with hsmall hmedium
  · exact hsmall
  · exact hmedium
  · exact hlt

/-- What is written for a character is its quoted form, and a character has no other. -/
theorem form_iff (c : Char) (w : List Char) : Form c w ↔ w = text [c] := by
  constructor
  · intro h
    cases h with
    | quote | backslash | newline | carriageReturn | tab => decide
    | printable hc hquote hslash =>
      rw [text_singleton hquote, escape_of_printable hc hquote hslash]
      rfl
    | @numbered _ v hc hnamed hlength hw =>
      have hquote : c ≠ '\'' := by
        rintro rfl
        exact absurd hc (by decide)
      rw [text_singleton hquote, escape_of_hidden hc hnamed,
        hw.unique (hexadecimal_hex_numbering c) (hlength.trans (length_hex _ _).symm)]
  · rintro rfl
    by_cases hquote : c = '\''
    · exact hquote ▸ .quote
    · rw [text_singleton hquote]
      by_cases hc : Character.isPrintable c = true
      · by_cases hslash : c = '\\'
        · exact hslash ▸ .backslash
        · rw [escape_of_printable hc hquote hslash]
          exact .printable hc hquote hslash
      · rw [Bool.not_eq_true] at hc
        by_cases hnamed : c ∈ ['\n', '\r', '\t']
        · simp only [List.mem_cons, List.not_mem_nil, or_false] at hnamed
          rcases hnamed with rfl | rfl | rfl
          · exact .newline
          · exact .carriageReturn
          · exact .tab
        · rw [escape_of_hidden hc hnamed]
          exact .numbered hc hnamed (length_hex _ _) (hexadecimal_hex_numbering c)

end Quoted

end TokenGrammar
