/-
# Balanced words

Words over the two parentheses in which every parenthesis has its partner.  They are the Dyck words,
written with characters.  A word is put together from balanced groups in one way only, so that a
longest balanced prefix is found by taking groups as long as there is one.
-/
import Mathlib.Combinatorics.Enumerative.DyckWord

namespace TokenGrammar

namespace Text

/-- The parenthesis for a step of a Dyck word. -/
def parenthesis : DyckStep → Char
  | .U => '('
  | .D => ')'

/-- An opening and a closing step have different parentheses. -/
theorem parenthesis_injective : Function.Injective parenthesis := by
  intro a b h
  cases a <;> cases b
  all_goals first | rfl | exact absurd h (by decide)

/-- A word is balanced if it is a Dyck word. -/
def Balanced (w : List Char) : Prop :=
  ∃ d : DyckWord, d.toList.map parenthesis = w

variable {u v w : List Char}

/-- The step that a parenthesis stands for. -/
def step (c : Char) : DyckStep :=
  if c = '(' then .U else .D

/-- A word of parentheses can be got back from its steps. -/
theorem map_parenthesis_map_step (hw : ∀ c ∈ w, c = '(' ∨ c = ')') :
    (w.map step).map parenthesis = w := by
  rw [List.map_map]
  refine (List.map_congr_left fun c hc => ?_).trans (List.map_id w)
  rcases hw c hc with rfl | rfl <;> rfl

/-- The parentheses of a word are counted by its steps. -/
theorem count_parenthesis (steps : List DyckStep) (s : DyckStep) :
    (steps.map parenthesis).count (parenthesis s) = steps.count s :=
  List.count_map_of_injective steps parenthesis parenthesis_injective s

/-- A word is balanced if it has parentheses only, as many that open as that close, and no more of
those that close up to any place. -/
theorem balanced_iff : Balanced w ↔
    (∀ c ∈ w, c = '(' ∨ c = ')') ∧ w.count '(' = w.count ')' ∧
      ∀ i < w.length, (w.take i).count ')' ≤ (w.take i).count '(' := by
  constructor
  · rintro ⟨d, rfl⟩
    refine ⟨?_, ?_, fun i _ => ?_⟩
    · intro c hc
      obtain ⟨s, -, rfl⟩ := List.mem_map.1 hc
      cases s
      · exact Or.inl rfl
      · exact Or.inr rfl
    · exact (count_parenthesis d.toList .U).trans
        (d.count_U_eq_count_D.trans (count_parenthesis d.toList .D).symm)
    · rw [← List.map_take]
      exact (count_parenthesis _ .D).trans_le
        ((d.count_D_le_count_U i).trans_eq (count_parenthesis _ .U).symm)
  · rintro ⟨hchars, hcount, hprefix⟩
    have hsteps : (w.map step).map parenthesis = w := map_parenthesis_map_step hchars
    have hU (i : Nat) : ((w.map step).take i).count .U = (w.take i).count '(' := by
      rw [← count_parenthesis, List.map_take, hsteps]
      rfl
    have hD (i : Nat) : ((w.map step).take i).count .D = (w.take i).count ')' := by
      rw [← count_parenthesis, List.map_take, hsteps]
      rfl
    have hall : w.take w.length = w := List.take_length
    refine ⟨⟨w.map step, ?_, fun i => ?_⟩, hsteps⟩
    · have hUall := hU w.length
      have hDall := hD w.length
      rw [hall, List.take_of_length_le (by simp)] at hUall hDall
      rw [hUall, hDall, hcount]
    · rw [hU, hD]
      rcases Nat.lt_or_ge i w.length with hlt | hge
      · exact hprefix i hlt
      · rw [List.take_of_length_le hge, hcount]

/-- Whether a word is balanced can be decided. -/
instance (w : List Char) : Decidable (Balanced w) :=
  -- only the characters of the word are looked at, not all that there are
  haveI : Decidable (∀ c ∈ w, c = '(' ∨ c = ')') := List.decidableBAll _ w
  decidable_of_iff _ balanced_iff.symm

/-- No balanced word but the empty one begins `v`. -/
def Stuck (v : List Char) : Prop :=
  ∀ t, t <+: v → Balanced t → t = []

namespace Balanced

/-- The empty word is balanced. -/
theorem nil : Balanced [] :=
  ⟨0, rfl⟩

/-- Balanced words one after the other. -/
theorem append (hu : Balanced u) (hv : Balanced v) : Balanced (u ++ v) := by
  obtain ⟨d, rfl⟩ := hu
  obtain ⟨e, rfl⟩ := hv
  exact ⟨d + e, List.map_append⟩

/-- Any number of balanced words one after the other. -/
theorem flatten {us : List (List Char)} (h : ∀ u ∈ us, Balanced u) : Balanced us.flatten := by
  induction us with
  | nil => exact nil
  | cons u us ih =>
    rw [List.forall_mem_cons] at h
    exact h.1.append (ih h.2)

/-- A balanced word in parentheses is balanced. -/
theorem group (hu : Balanced u) : Balanced ('(' :: (u ++ [')'])) := by
  obtain ⟨d, rfl⟩ := hu
  refine ⟨d.nest, ?_⟩
  rw [DyckWord.nest, List.map_append, List.map_append]
  rfl

/-- A balanced word that is not empty begins with a group. -/
theorem exists_group (hw : Balanced w) (hne : w ≠ []) :
    ∃ u v, Balanced u ∧ Balanced v ∧ w = '(' :: (u ++ ')' :: v) := by
  obtain ⟨d, rfl⟩ := hw
  have hd : d ≠ 0 := by
    rintro rfl
    exact hne rfl
  refine ⟨_, _, ⟨d.insidePart, rfl⟩, ⟨d.outsidePart, rfl⟩, ?_⟩
  have hsplit : d.toList = [.U] ++ d.insidePart.toList ++ [.D] ++ d.outsidePart.toList :=
    congrArg DyckWord.toList (DyckWord.nest_insidePart_add_outsidePart hd).symm
  rw [hsplit]
  simp [parenthesis]

/-- What follows a balanced word in a balanced word is balanced. -/
theorem of_append (huv : Balanced (u ++ v)) (hu : Balanced u) : Balanced v := by
  obtain ⟨d, hd⟩ := huv
  obtain ⟨e, rfl⟩ := hu
  obtain ⟨steps, rest, hsteps, hmap, rfl⟩ := List.map_eq_append_iff.1 hd
  obtain rfl : steps = e.toList := List.map_injective_iff.2 parenthesis_injective hmap
  -- the steps of the first word are as many up as down
  have htake : d.toList.take e.toList.length = e.toList := by rw [hsteps, List.take_left]
  have hdrop : d.toList.drop e.toList.length = rest := by rw [hsteps, List.drop_left]
  refine ⟨d.drop e.toList.length (by rw [htake, e.count_U_eq_count_D]), ?_⟩
  exact congrArg (List.map parenthesis) hdrop

end Balanced

/-- A balanced word does not begin with the parenthesis that closes a group. -/
theorem not_balanced_close : ¬ Balanced (')' :: w) := by
  intro h
  obtain ⟨u, v, -, -, hw⟩ := h.exists_group nofun
  exact absurd (List.cons.inj hw).1 (by decide)

/-! ## The longest balanced prefix -/

/-- Nothing is in the way of an empty text. -/
theorem stuck_nil : Stuck [] :=
  fun _ ht _ => List.prefix_nil.1 ht

/-- A balanced word begins with an opening parenthesis. -/
theorem stuck_cons {c : Char} (hc : c ≠ '(') : Stuck (c :: w) := by
  intro t ht hbalanced
  by_contra hne
  obtain ⟨u, v, -, -, rfl⟩ := hbalanced.exists_group hne
  exact hc (List.cons_prefix_cons.1 ht).1.symm

/-- A balanced word is longest if what follows it begins with no further one. -/
theorem Stuck.prefix_left (hv : Stuck v) (hu : Balanced u) (hw : Balanced w)
    (h : w <+: u ++ v) : w <+: u := by
  rcases List.prefix_or_prefix_of_prefix h (List.prefix_append u v) with hwu | ⟨t, rfl⟩
  · exact hwu
  · have ht : t <+: v := (List.prefix_append_right_inj u).1 h
    rw [hv t ht (hw.of_append hu), List.append_nil]

/-- A parenthesis that closes a group stands behind the longest balanced word in it. -/
theorem Stuck.eq_cons {z : List Char} (hv : Stuck v) (hu : Balanced u) (hw : Balanced w)
    (h : w ++ ')' :: z <+: u ++ v) : ∃ y, v = ')' :: y := by
  obtain ⟨t, rfl⟩ := hv.prefix_left hu hw ((List.prefix_append w _).trans h)
  rw [List.append_assoc, List.prefix_append_right_inj] at h
  have ht : Balanced t := hu.of_append hw
  cases t with
  | nil =>
    obtain ⟨y, rfl⟩ := h
    exact ⟨z ++ y, rfl⟩
  | cons c t =>
    -- a further group would have to begin with the parenthesis that closes this one
    rw [List.cons_append, List.cons_prefix_cons] at h
    exact absurd (h.1 ▸ ht) not_balanced_close

/-- An opening parenthesis begins no balanced word if the longest balanced word behind it is not
followed by a closing one. -/
theorem Stuck.open (hv : Stuck v) (hu : Balanced u) (h : ∀ y, v ≠ ')' :: y) :
    Stuck ('(' :: (u ++ v)) := by
  intro t ht hbalanced
  by_contra hne
  obtain ⟨u', v', hu', -, rfl⟩ := hbalanced.exists_group hne
  obtain ⟨y, hy⟩ := hv.eq_cons hu hu' (List.cons_prefix_cons.1 ht).2
  exact h y hy

end Text

end TokenGrammar
