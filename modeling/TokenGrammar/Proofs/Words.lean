/-
# Words

Languages of texts: single characters and stretches of characters with a property, which characters
occur in the words of a language and which ones they begin with, and the longest word that a text
begins with.
-/
import Mathlib.Computability.Language

namespace TokenGrammar

namespace Text

variable {L M : Language Char} {P Q : Char → Prop} {t u v w : List Char}

/-! ## Single characters and stretches -/

/-- The single characters with a property. -/
def singles (P : Char → Prop) : Language Char :=
  {w | ∃ c, w = [c] ∧ P c}

/-- The texts, one character long or longer, whose characters have a property. -/
def stretches (P : Char → Prop) : Language Char :=
  {w | w ≠ [] ∧ ∀ c ∈ w, P c}

/-- The single text of one given character. -/
theorem singles_eq (c : Char) : singles (· = c) = {[c]} := by
  apply Language.ext
  intro w
  constructor
  · rintro ⟨_, rfl, rfl⟩
    rfl
  · rintro rfl
    exact ⟨c, rfl, rfl⟩

/-- The single texts of two given characters. -/
theorem pair_eq_singles (c d : Char) : ({[c], [d]} : Language Char) = singles (· ∈ [c, d]) := by
  apply Language.ext
  intro w
  constructor
  · rintro (rfl | rfl)
    · exact ⟨c, rfl, List.mem_cons_self⟩
    · exact ⟨d, rfl, List.mem_cons_of_mem c List.mem_cons_self⟩
  · rintro ⟨e, rfl, he⟩
    rcases List.mem_pair.1 he with rfl | rfl
    · exact Or.inl rfl
    · exact Or.inr rfl

/-- The empty text is no single character. -/
theorem nil_notMem_singles (P : Char → Prop) : [] ∉ singles P :=
  fun ⟨_, h, _⟩ => nomatch h

/-- A stretch is not empty. -/
theorem nil_notMem_stretches (P : Char → Prop) : [] ∉ stretches P :=
  fun h => h.1 rfl

/-- Stretches one after the other are a stretch again. -/
theorem mem_stretches_of_mem_kstar (hL : ∀ w ∈ L, w ∈ stretches P)
    (h : w ∈ L * KStar.kstar L) : w ∈ stretches P := by
  obtain ⟨u, hu, v, hv, rfl⟩ := Language.mem_mul.1 h
  obtain ⟨parts, rfl, hparts⟩ := Language.mem_kstar.1 hv
  refine ⟨List.append_ne_nil_of_left_ne_nil (hL u hu).1 _,
    List.forall_mem_append.2 ⟨(hL u hu).2, ?_⟩⟩
  intro c hc
  obtain ⟨part, hpart, hmem⟩ := List.mem_flatten.1 hc
  exact (hL part (hparts part hpart)).2 c hmem

/-- A single character is a stretch. -/
theorem mem_stretches_of_mem_singles (h : w ∈ singles P) : w ∈ stretches P := by
  obtain ⟨c, rfl, hc⟩ := h
  exact ⟨List.cons_ne_nil c [], List.forall_mem_singleton.2 hc⟩

/-- A stretch is one character and then any number of them. -/
theorem stretches_eq (P : Char → Prop) :
    stretches P = singles P * KStar.kstar (singles P) := by
  apply Language.ext
  intro w
  constructor
  · rintro ⟨hne, hw⟩
    obtain ⟨c, w, rfl⟩ := List.exists_cons_of_ne_nil hne
    rw [List.forall_mem_cons] at hw
    refine Language.append_mem_mul (a := [c]) ⟨c, rfl, hw.1⟩
      (Language.mem_kstar.2 ⟨w.map fun d => [d], ?_, ?_⟩)
    · rw [← List.flatMap_def, List.flatMap_singleton']
    · intro part hpart
      obtain ⟨d, hd, rfl⟩ := List.mem_map.1 hpart
      exact ⟨d, rfl, hw.2 d hd⟩
  · exact mem_stretches_of_mem_kstar fun _ => mem_stretches_of_mem_singles

/-- A text is a stretch, which may be empty, and what stops it. -/
theorem exists_stretch (P : Char → Prop) [DecidablePred P] (t : List Char) :
    ∃ v u, t = v ++ u ∧ (∀ c ∈ v, P c) ∧ ∀ c ∈ u.head?, ¬ P c := by
  refine ⟨t.takeWhile (P ·), t.dropWhile (P ·), List.takeWhile_append_dropWhile.symm, ?_, ?_⟩
  · intro c hc
    exact of_decide_eq_true (List.all_eq_true.1 List.all_takeWhile c hc)
  · intro c hc
    have hnot := List.head?_dropWhile_not (P ·) t
    rw [Option.mem_def.1 hc] at hnot
    exact of_decide_eq_false hnot

/-- A stretch does not go on where another one is stopped. -/
theorem prefix_of_stopped (hu : ∀ c ∈ u.head?, ¬ P c) (hw : ∀ c ∈ w, P c) (h : w <+: v ++ u) :
    w <+: v := by
  rcases List.prefix_or_prefix_of_prefix h (List.prefix_append v u) with hprefix | ⟨w', rfl⟩
  · exact hprefix
  · rw [List.prefix_append_right_inj] at h
    cases w' with
    | nil => rw [List.append_nil]
    | cons c w' =>
      obtain ⟨u', rfl⟩ := h
      exact absurd (hw c (List.mem_append_right v List.mem_cons_self)) (hu c rfl)

/-! ## Characters of words -/

/-- The words of a language consist of characters with a property. -/
def Over (P : Char → Prop) (L : Language Char) : Prop :=
  ∀ w ∈ L, ∀ c ∈ w, P c

/-- The words of a language begin with characters with a property, unless they are empty. -/
def Begins (P : Char → Prop) (L : Language Char) : Prop :=
  ∀ c v, c :: v ∈ L → P c

/-- Single characters are over their class. -/
theorem over_singles (P : Char → Prop) : Over P (singles P) := by
  rintro _ ⟨c, rfl, hc⟩
  exact List.forall_mem_singleton.2 hc

namespace Over

/-- The empty text is over every class. -/
theorem one : Over P 1 := by
  rintro _ rfl
  exact nofun

/-- Alternatives over a class. -/
theorem add (hL : Over P L) (hM : Over P M) : Over P (L + M) :=
  fun w hw => hw.elim (hL w) (hM w)

/-- Texts over a class, one after the other. -/
theorem mul (hL : Over P L) (hM : Over P M) : Over P (L * M) := by
  intro w hw
  obtain ⟨u, hu, v, hv, rfl⟩ := Language.mem_mul.1 hw
  exact List.forall_mem_append.2 ⟨hL u hu, hM v hv⟩

/-- What is over a class is over a larger one. -/
theorem mono (hL : Over P L) (h : ∀ c, P c → Q c) : Over Q L :=
  fun w hw c hc => h c (hL w hw c hc)

/-- A text over a class begins with a character of it, if it is not empty. -/
theorem begins (hL : Over P L) : Begins P L :=
  fun c v h => hL (c :: v) h c List.mem_cons_self

end Over

namespace Begins

/-- The empty text has no beginning to be wrong. -/
theorem one : Begins P 1 :=
  Over.one.begins

/-- Alternatives that begin in a class. -/
theorem add (hL : Begins P L) (hM : Begins P M) : Begins P (L + M) :=
  fun c v h => h.elim (hL c v) (hM c v)

/-- A word of a product begins with a word of the first language. -/
theorem mul (hL : Begins P L) (hnil : [] ∉ L) (M : Language Char) : Begins P (L * M) := by
  intro c v h
  obtain ⟨a, ha, b, -, hab⟩ := Language.mem_mul.1 h
  cases a with
  | nil => exact absurd ha hnil
  | cons d a =>
    obtain ⟨rfl, -⟩ := List.cons.inj hab
    exact hL d a ha

end Begins

/-! ## Longest words -/

/-- `w` is the longest word of `L` that `t` begins with. -/
structure LongestWord (L : Language Char) (t w : List Char) : Prop where
  mem : w ∈ L
  begins : w <+: t
  length_le : ∀ v ∈ L, v <+: t → v.length ≤ w.length

/-- A text has one longest prefix in a language. -/
theorem LongestWord.unique (hw : LongestWord L t w) (hv : LongestWord L t v) : w = v := by
  have hle : w.length ≤ v.length := hv.length_le w hw.mem hw.begins
  have hge : v.length ≤ w.length := hw.length_le v hv.mem hv.begins
  have hprefix : w <+: v := List.prefix_of_prefix_length_le hw.begins hv.begins hle
  exact hprefix.eq_of_length (Nat.le_antisymm hle hge)

/-- The texts that `s` begins with. -/
def beginnings (s : List Char) : Language Char :=
  {w | w <+: s}

/-- Texts that differ behind `u`, or of which one ends there, have no longer beginning in common. -/
theorem longestWord_beginnings {c : Char} (hw : ∀ t, w ≠ c :: t) (v : List Char) :
    LongestWord (beginnings (u ++ c :: v)) (u ++ w) u where
  mem := List.prefix_append u (c :: v)
  begins := List.prefix_append u w
  length_le := by
    intro t ht hbegins
    rcases List.prefix_or_prefix_of_prefix hbegins (List.prefix_append u w) with hle | ⟨t, rfl⟩
    · exact hle.length_le
    · -- a character more would have to be `c`
      have hc : t <+: c :: v := (List.prefix_append_right_inj u).1 ht
      have hw' : t <+: w := (List.prefix_append_right_inj u).1 hbegins
      cases t with
      | nil => rw [List.append_nil]
      | cons d t =>
        obtain ⟨rfl, -⟩ := List.cons_prefix_cons.1 hc
        obtain ⟨w', rfl⟩ := hw'
        exact absurd rfl (hw (t ++ w'))

/-- No word of `M` begins with a character that occurs in `L`. -/
def Apart (L M : Language Char) : Prop :=
  ∀ u ∈ L, ∀ c ∈ u, ∀ v, c :: v ∉ M

/-- Texts over a class are apart from texts that begin outside of it. -/
theorem apart_of_over (hL : Over P L) (hM : Begins Q M) (h : ∀ c, P c → ¬ Q c) : Apart L M :=
  fun u hu c hc v hv => h c (hL u hu c hc) (hM c v hv)

/-- Behind the longest word of `L` stands what a word of a product has from `M`. -/
theorem LongestWord.prefix_of_append (hLM : Apart L M) {a b : List Char}
    (hw : LongestWord L (w ++ u) w) (ha : a ∈ L) (hb : b ∈ M) (h : a ++ b <+: w ++ u) :
    b <+: u := by
  have hbegins : a <+: w ++ u := (List.prefix_append a b).trans h
  obtain ⟨w', rfl⟩ : a <+: w :=
    List.prefix_of_prefix_length_le hbegins hw.begins (hw.length_le a ha hbegins)
  rw [List.append_assoc, List.prefix_append_right_inj] at h
  cases w' with
  | nil => exact h
  | cons c w' =>
    cases b with
    | nil => exact List.nil_prefix
    | cons d b =>
      obtain ⟨rfl, -⟩ := List.cons_prefix_cons.1 h
      exact absurd hb (hLM _ hw.mem d (List.mem_append_right a List.mem_cons_self) b)

end Text

end TokenGrammar
