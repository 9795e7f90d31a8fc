/-
# What a window shows, and windows inside windows

A parser learns about its window from the tokens in view and from where the window starts.  This
module says which answers depend on the tokens alone, and when a window lies inside another one.
-/
import Mathlib.Tactic.ByContra
import TokenGrammar.Span

namespace TokenGrammar

namespace Content

/-- The value with a content determines the content. -/
theorem toDatum_injective {c d : Content} (h : c.toDatum = d.toDatum) : c = d := by
  -- contents of different kinds have values of different kinds
  cases c <;> cases d <;> simp only [toDatum, Datum.text.injEq, Datum.bytes.injEq,
    Datum.list.injEq, Datum.tuple.injEq, reduceCtorEq] at h
  all_goals rw [Array.toList_inj.1 h]

/-- A part of a part is a part. -/
theorem extract_extract (c : Content) (i j k l : Nat) :
    (c.extract i j).extract k l = c.extract (i + k) (min (i + l) j) := by
  cases c <;> simp only [extract, Array.extract_extract]

end Content

namespace Span

/-! ## What a window shows -/

/-- The tokens in view as a content of their own. -/
def view (r : Span) : Content :=
  r.source.content.extract r.start r.stop

/-- A window shows as many tokens as it is long. -/
@[simp] theorem size_view (r : Span) : r.view.size = r.length := by
  rw [← length_tokens, ← Content.length_tokens]
  rfl

variable {r s t : Span}

/-- Windows with equal contents show the same. -/
theorem view_eq_of_contents_eq (h : r.contents = s.contents) : r.view = s.view :=
  Content.toDatum_injective h

/-- Windows that show the same have the same tokens. -/
theorem tokens_eq_of_view_eq (h : r.view = s.view) : r.tokens = s.tokens :=
  congrArg Content.tokens h

/-- Windows that show the same are of one length. -/
theorem length_eq_of_view_eq (h : r.view = s.view) : r.length = s.length := by
  rw [← length_tokens, ← length_tokens, tokens_eq_of_view_eq h]

/-- Windows that show the same are both empty or both not. -/
theorem isEmpty_eq_of_view_eq (h : r.view = s.view) : r.isEmpty = s.isEmpty := by
  rw [Bool.eq_iff_iff, isEmpty_iff, isEmpty_iff, length_eq_of_view_eq h]

/-- A window is empty when it has no tokens. -/
theorem isEmpty_iff_tokens_eq_nil : r.isEmpty = true ↔ r.tokens = [] := by
  rw [isEmpty_iff, ← length_tokens, List.length_eq_zero_iff]

/-- A window that is not empty starts before it stops. -/
theorem start_lt_stop (h : r.isEmpty = false) : r.start < r.stop := by
  have := r.start_le_stop
  simp only [isEmpty, beq_eq_false_iff_ne] at h
  omega

/-- A window with a head starts before it stops. -/
theorem start_lt_stop_of_head {d : Datum} (h : r.head = .ok d) : r.start < r.stop := by
  by_contra hlt
  rw [head, dif_neg hlt] at h
  cases h

/-- A window that is not empty has a head. -/
theorem exists_head (h : r.isEmpty = false) : ∃ t, r.head = .ok t :=
  ⟨_, dif_pos (start_lt_stop h)⟩

/-- A window that is not empty can be advanced by a token. -/
theorem one_le_length (h : r.isEmpty = false) : 1 ≤ r.length := by
  by_contra hlt
  rw [(isEmpty_iff r).2 (by omega)] at h
  cases h

/-- Windows that show the same begin with the same token. -/
theorem head_eq_of_view_eq (h : r.view = s.view) (he : r.isEmpty = false) : r.head = s.head := by
  obtain ⟨t, ht⟩ := exists_head he
  have hs : s.head = .ok t := by
    rw [head_eq_ok_iff, ← tokens_eq_of_view_eq h, ← head_eq_ok_iff, ht]
  rw [ht, hs]

/-! ## Windows inside windows -/

/-- `s` is a window on the same source that ends where `r` ends and begins in `r`. -/
structure Within (s r : Span) : Prop where
  source_eq : s.source = r.source
  stop_eq : s.stop = r.stop
  start_le : r.start ≤ s.start

namespace Within

/-- Every window lies inside itself. -/
@[refl] theorem refl (r : Span) : r.Within r :=
  ⟨rfl, rfl, Nat.le_refl _⟩

/-- A window inside a window inside a third one lies inside that one. -/
theorem trans (hts : t.Within s) (hsr : s.Within r) : t.Within r :=
  ⟨hts.source_eq.trans hsr.source_eq, hts.stop_eq.trans hsr.stop_eq,
    Nat.le_trans hsr.start_le hts.start_le⟩

/-- A window inside another one is over the same content. -/
theorem content_eq (h : s.Within r) {c : Content} (hr : r.source.content = c) :
    s.source.content = c := by
  rw [h.source_eq, hr]

/-- A window inside another one begins before the other one ends. -/
theorem start_le_stop (h : s.Within r) : s.start ≤ r.stop :=
  h.stop_eq ▸ s.start_le_stop

/-- Dropping tokens stays inside. -/
theorem drop (h : s.Within r) (n : Nat) (hn : n ≤ s.length) : (s.drop n hn).Within r :=
  ⟨h.source_eq, h.stop_eq, Nat.le_trans h.start_le (Nat.le_add_right ..)⟩

/-- Inside a window there is one window only that begins where it begins. -/
theorem eq_of_start_eq (h : s.Within r) (hstart : s.start = r.start) : s = r := by
  obtain ⟨hsource, hstop, -⟩ := h
  cases s
  cases r
  simp_all

/-- A window inside another one is what is left when tokens are dropped from it. -/
theorem exists_eq_drop (h : s.Within r) : ∃ n hn, s = r.drop n hn := by
  have hstart : r.start + (s.start - r.start) = s.start := Nat.add_sub_cancel' h.start_le
  have hn : s.start - r.start ≤ r.length := Nat.sub_le_sub_right h.start_le_stop _
  have hdrop : s.Within (r.drop (s.start - r.start) hn) :=
    ⟨h.source_eq, h.stop_eq, Nat.le_of_eq hstart⟩
  exact ⟨_, hn, hdrop.eq_of_start_eq hstart.symm⟩

/-- A window inside another one is no longer than that one. -/
theorem length_le (h : s.Within r) : s.length ≤ r.length := by
  have := h.start_le
  have := h.stop_eq
  simp only [length]
  omega

/-- A window that begins later is shorter. -/
theorem length_lt (h : s.Within r) (hne : s.start ≠ r.start) : s.length < r.length := by
  have := h.start_le
  have := h.stop_eq
  have := s.start_le_stop
  simp only [length]
  omega

end Within

end Span

end TokenGrammar
