/-
# Lines and columns

A text is a list of lines with a newline between any two of them, and every place in it is a line
together with a number of characters before the place in that line.  A failure is explained without
making this list: the line around its place is found by looking for the nearest newlines on both
sides, and its number by counting the newlines before it.  The searches agree with the list for
every place, also on a newline, behind one, on an empty line and at the end of the text.
-/
import Mathlib.Algebra.GroupWithZero.Nat
import Mathlib.Data.List.Basic
import TokenGrammar.Failure

namespace TokenGrammar

namespace Line

/-! ## Places of a text -/

/-- The lines of a text, without the newlines between them. -/
def all (cs : List Char) : List (List Char) :=
  cs.splitOn '\n'

/-- Where a line begins: behind all lines before it, each with its newline. -/
def offset (lines : List (List Char)) (l : Nat) : Nat :=
  ((lines.take l).map fun line => line.length + 1).sum

/-- The place `i` is in `line`, which is the line with the number `l`, behind `c` characters of it.
All three count from zero. -/
structure At (lines : List (List Char)) (i l c : Nat) (line : List Char) : Prop where
  getElem?_eq : lines[l]? = some line
  le_length : c ≤ line.length
  eq_add : i = offset lines l + c

section Places

variable {lines : List (List Char)} {line w : List Char} {i l c : Nat}

/-- A line further down starts after the first one and its line break. -/
@[simp] theorem offset_cons_succ (w : List Char) (lines : List (List Char)) (l : Nat) :
    offset (w :: lines) (l + 1) = w.length + 1 + offset lines l := rfl

/-- The places on the first line. -/
theorem at_cons_zero : At (w :: lines) i 0 c line ↔ line = w ∧ c ≤ w.length ∧ i = c := by
  constructor
  · rintro ⟨hline, hc, hi⟩
    obtain rfl := Option.some.inj hline
    exact ⟨rfl, hc, hi.trans (Nat.zero_add c)⟩
  · rintro ⟨rfl, hc, rfl⟩
    exact ⟨rfl, hc, (Nat.zero_add i).symm⟩

/-- The places on the lines after the first one. -/
theorem at_cons_succ :
    At (w :: lines) i (l + 1) c line ↔ ∃ j, i = w.length + 1 + j ∧ At lines j l c line := by
  constructor
  · rintro ⟨hline, hc, hi⟩
    exact ⟨offset lines l + c, by rw [hi, offset_cons_succ, Nat.add_assoc], hline, hc, rfl⟩
  · rintro ⟨j, rfl, hline, hc, rfl⟩
    exact ⟨hline, hc, (Nat.add_assoc ..).symm⟩

/-- A place is in one line only, and at one place of it. -/
theorem At.unique {l' c' : Nat} {line' : List Char} (h : At lines i l c line)
    (h' : At lines i l' c' line') : l' = l ∧ c' = c := by
  induction lines generalizing i l l' with
  | nil => cases h.getElem?_eq
  | cons w lines ih =>
    cases l with
    | zero =>
      obtain ⟨-, hc, rfl⟩ := at_cons_zero.1 h
      cases l' with
      | zero =>
        obtain ⟨-, -, rfl⟩ := at_cons_zero.1 h'
        exact ⟨rfl, rfl⟩
      | succ l' =>
        obtain ⟨j, hj, -⟩ := at_cons_succ.1 h'
        omega
    | succ l =>
      obtain ⟨j, rfl, hj⟩ := at_cons_succ.1 h
      cases l' with
      | zero =>
        obtain ⟨-, hc, hi⟩ := at_cons_zero.1 h'
        omega
      | succ l' =>
        obtain ⟨k, hi, hk⟩ := at_cons_succ.1 h'
        obtain rfl : k = j := by omega
        obtain ⟨rfl, rfl⟩ := ih hj hk
        exact ⟨rfl, rfl⟩

/-- Every place up to the end of the last line is in a line. -/
theorem exists_at (hi : i < offset lines lines.length) : ∃ l c line, At lines i l c line := by
  induction lines generalizing i with
  | nil => exact absurd hi (Nat.not_lt_zero i)
  | cons w lines ih =>
    rw [List.length_cons, offset_cons_succ] at hi
    by_cases hw : i ≤ w.length
    · exact ⟨0, i, w, at_cons_zero.2 ⟨rfl, hw, rfl⟩⟩
    · obtain ⟨l, c, line, h⟩ := ih (show i - (w.length + 1) < _ by omega)
      exact ⟨l + 1, c, line, at_cons_succ.2 ⟨_, by omega, h⟩⟩

/-! ## The text around a line -/

/-- The text in front of a line. -/
def before (lines : List (List Char)) (l : Nat) : List Char :=
  (lines.take l).flatMap (· ++ ['\n'])

/-- The lines before a line are as long as it is away from the start. -/
@[simp] theorem length_before (lines : List (List Char)) (l : Nat) :
    (before lines l).length = offset lines l := by
  simp only [before, offset, List.length_flatMap, List.length_append, List.length_singleton]

/-- In front of a line there is a newline or nothing. -/
theorem takeWhile_reverse_before (lines : List (List Char)) (l : Nat) :
    (before lines l).reverse.takeWhile (· != '\n') = [] := by
  rw [before, List.reverse_flatMap]
  cases (lines.take l).reverse with
  | nil => rfl
  | cons w ws =>
    rw [List.flatMap_cons, Function.comp_apply, List.reverse_append]
    rfl

/-- As many newlines are in front of a line as there are lines. -/
theorem count_before (hlines : ∀ w ∈ lines, '\n' ∉ w) (hl : l ≤ lines.length) :
    (before lines l).count '\n' = l := by
  induction lines generalizing l with
  | nil =>
    obtain rfl := Nat.le_zero.1 hl
    rfl
  | cons w lines ih =>
    cases l with
    | zero => rfl
    | succ l =>
      obtain ⟨hw, hlines⟩ := List.forall_mem_cons.1 hlines
      rw [before, List.take_succ_cons, List.flatMap_cons, List.count_append, List.count_append,
        List.count_eq_zero.2 hw, ← before, ih hlines (Nat.le_of_succ_le_succ hl)]
      exact Nat.add_comm 1 l

/-- A text is a line between the text in front of it and a text that is empty or begins with a
newline. -/
theorem exists_intercalate_eq (hline : lines[l]? = some line) :
    ∃ after, ['\n'].intercalate lines = before lines l ++ line ++ after ∧
      after.takeWhile (· != '\n') = [] := by
  induction lines generalizing l with
  | nil => cases hline
  | cons w lines ih =>
    cases l with
    | zero =>
      obtain rfl := Option.some.inj hline
      cases lines with
      | nil => exact ⟨[], by rw [List.intercalate_singleton, List.append_nil]; rfl, rfl⟩
      | cons w' lines =>
        refine ⟨'\n' :: ['\n'].intercalate (w' :: lines), ?_, rfl⟩
        rw [List.intercalate_cons_cons, List.append_assoc]
        rfl
    | succ l =>
      have hne : lines ≠ [] := by
        rintro rfl
        cases hline
      obtain ⟨after, heq, hafter⟩ := ih hline
      refine ⟨after, ?_, hafter⟩
      rw [List.intercalate_cons_of_ne_nil hne, heq, before, before, List.take_succ_cons,
        List.flatMap_cons]
      simp only [List.append_assoc]

/-- The lines take up the text and one more newline. -/
theorem offset_length (hne : lines ≠ []) :
    offset lines lines.length = (['\n'].intercalate lines).length + 1 := by
  induction lines with
  | nil => exact absurd rfl hne
  | cons w lines ih =>
    rw [List.length_cons, offset_cons_succ]
    cases lines with
    | nil =>
      rw [List.intercalate_singleton]
      rfl
    | cons w' lines =>
      rw [ih (List.cons_ne_nil w' lines), List.intercalate_cons_cons, List.length_append,
        List.length_append]
      rfl

end Places

/-! ## The lines of a text -/

/-- The lines with line breaks in between are the text. -/
theorem intercalate_all (cs : List Char) : ['\n'].intercalate (all cs) = cs :=
  List.intercalate_splitOn '\n'

/-- Every text has a line. -/
theorem all_ne_nil (cs : List Char) : all cs ≠ [] :=
  List.splitOn_ne_nil '\n' cs

/-- A line has no line break in it. -/
theorem newline_notMem {cs line : List Char} (h : line ∈ all cs) : '\n' ∉ line := by
  induction cs generalizing line with
  | nil =>
    obtain rfl := List.mem_singleton.1 h
    exact List.not_mem_nil
  | cons c cs ih =>
    rw [all, List.splitOn, List.splitOnP_cons_eq_if_modifyHead] at h
    split at h
    · rcases List.mem_cons.1 h with rfl | h
      · exact List.not_mem_nil
      · exact ih h
    · next hc =>
      -- the character goes to the first of the lines behind it
      obtain ⟨w, ws, hws⟩ := List.exists_cons_of_ne_nil (all_ne_nil cs)
      rw [← List.splitOn, ← all, hws, List.modifyHead_cons] at h
      rcases List.mem_cons.1 h with rfl | h
      · have hw : '\n' ∉ w := ih (hws ▸ List.mem_cons_self)
        rintro (_ | ⟨_, hmem⟩)
        · exact hc rfl
        · exact hw hmem
      · exact ih (hws ▸ List.mem_cons_of_mem w h)

/-- Every place of a text, its end included, is in one of the lines. -/
theorem exists_at_all {cs : List Char} {i : Nat} (hi : i ≤ cs.length) :
    ∃ l c line, At (all cs) i l c line := by
  apply exists_at
  rw [offset_length (all_ne_nil cs), intercalate_all]
  exact Nat.lt_succ_of_le hi

/-! ## Looking for newlines -/

section Search

variable {front line back : List Char} {c : Nat}
  (hfront : front.reverse.takeWhile (· != '\n') = []) (hline : '\n' ∉ line)
  (hback : back.takeWhile (· != '\n') = []) (hc : c ≤ line.length)

/-- What comes before a place on a line. -/
theorem take_place (front back : List Char) (hc : c ≤ line.length) :
    (front ++ line ++ back).take (front.length + c) = front ++ line.take c := by
  rw [List.append_assoc, List.take_length_add_append, List.take_append_of_le_length hc]

/-- What comes after a place on a line. -/
theorem drop_place (front back : List Char) (hc : c ≤ line.length) :
    (front ++ line ++ back).drop (front.length + c) = line.drop c ++ back := by
  rw [List.append_assoc, List.drop_length_add_append, List.drop_append_of_le_length hc]

/-- A search for a newline passes over a line without one. -/
theorem takeWhile_append_of_notMem {w : List Char} (hw : '\n' ∉ w) (more : List Char) :
    (w ++ more).takeWhile (· != '\n') = w ++ more.takeWhile (· != '\n') := by
  refine List.takeWhile_append_of_pos fun d hd => bne_iff_ne.2 ?_
  rintro rfl
  exact hw hd

include hc

include hfront hline in
/-- The line of a place starts where the line does. -/
theorem start_append : start (front ++ line ++ back) (front.length + c) = front.length := by
  have hbefore : '\n' ∉ (line.take c).reverse :=
    fun h => hline (List.mem_of_mem_take (List.mem_reverse.1 h))
  rw [start, take_place front back hc, List.reverse_append, takeWhile_append_of_notMem hbefore,
    hfront, List.append_nil, List.length_append, List.length_reverse, Nat.add_sub_cancel]

include hline hback in
/-- The line of a place stops where the line does. -/
theorem stop_append :
    stop (front ++ line ++ back) (front.length + c) = front.length + line.length := by
  have hbehind : '\n' ∉ line.drop c := fun h => hline (List.mem_of_mem_drop h)
  rw [stop, drop_place front back hc, takeWhile_append_of_notMem hbehind, hback, List.append_nil,
    List.length_drop]
  omega

include hline in
/-- The number of a line counts the line breaks before it. -/
theorem number_append :
    number (front ++ line ++ back) (front.length + c) = front.count '\n' + 1 := by
  have hbefore : '\n' ∉ line.take c := fun h => hline (List.mem_of_mem_take h)
  rw [number, take_place front back hc, List.count_append, List.count_eq_zero.2 hbefore,
    Nat.add_zero]

end Search

/-- The text between the ends of a line is the line. -/
theorem between_append (front line back : List Char) :
    between (front ++ line ++ back) front.length (front.length + line.length) = line := by
  rw [between, take_place front back (Nat.le_refl _), List.take_length, List.drop_left]

/-- What is found around a place is the line that the place is in. -/
theorem At.search_eq {cs line : List Char} {i l c : Nat} (h : At (all cs) i l c line) :
    start cs i + c = i ∧ number cs i = l + 1 ∧ between cs (start cs i) (stop cs i) = line := by
  obtain ⟨hline, hc, rfl⟩ := h
  obtain ⟨back, heq, hback⟩ := exists_intercalate_eq hline
  rw [intercalate_all] at heq
  have hfront := takeWhile_reverse_before (all cs) l
  have hnewline : '\n' ∉ line := newline_notMem (List.mem_of_getElem? hline)
  have hl : l ≤ (all cs).length := Nat.le_of_lt (List.getElem?_eq_some_iff.1 hline).1
  have hcount : (before (all cs) l).count '\n' = l := count_before (fun _ => newline_notMem) hl
  rw [← length_before]
  generalize before (all cs) l = front at heq hfront hcount
  subst heq
  rw [start_append hfront hnewline hc, stop_append hnewline hback hc, number_append hnewline hc,
    hcount, between_append]
  exact ⟨rfl, rfl, rfl⟩

end Line

namespace Failure

/-- **An explanation shows the place of a failure.**  Every place of a text, from its beginning to
its end, is in exactly one line and behind a certain number of its characters, and no other place is
there.  A failure at the place is explained by its message, this line and column, counted from one,
the line itself, which holds no newline, and a caret under the place, no farther right than just
behind the line. -/
theorem explain_line_column (f : Failure) {cs : List Char} {i : Nat} (hi : i ≤ cs.length)
    (hf : f.position = some (i : Int)) :
    ∃ l c line, Line.At (Line.all cs) i l c line ∧
      (∀ l' c' line', Line.At (Line.all cs) i l' c' line' → l' = l ∧ c' = c) ∧
      (∀ j, Line.At (Line.all cs) j l c line → j = i) ∧
      '\n' ∉ line ∧
      f.explain (some (.text cs)) = f.message ++ " at line " ++ toString (l + 1) ++ ", column "
        ++ toString (c + 1) ++ "\n" ++ String.ofList line ++ "\n"
        ++ String.ofList (List.replicate c ' ' ++ ['^']) := by
  obtain ⟨l, c, line, h⟩ := Line.exists_at_all hi
  refine ⟨l, c, line, h, fun _ _ _ h' => h.unique h', fun j hj => ?_, ?_, ?_⟩
  · rw [hj.eq_add, ← h.eq_add]
  · exact Line.newline_notMem (List.mem_of_getElem? h.getElem?_eq)
  · obtain ⟨hstart, hnumber, hbetween⟩ := h.search_eq
    have hplace : Index.clamp cs.length i = i := by
      rw [Index.clamp, Index.fromStart, if_neg (by omega), Int.toNat_natCast, Nat.min_eq_left hi]
    have hcolumn : (i : Int) - Line.start cs i = c := by omega
    simp only [explain, hf, explainIn, hplace, hnumber, hcolumn, hbetween]
    rfl

/-- The case of the second of two newlines next to each other: the line there is empty. -/
theorem explain_line_column_empty :
    let f : Failure := { reason := .general, message := "expected digit", position := some 3 }
    let cs := "12\n\n3a".toList
    Line.At (Line.all cs) 3 1 0 [] ∧
      f.explain (some (.text cs)) = "expected digit at line 2, column 1\n\n^" := by
  intro f cs
  have hat : Line.At (Line.all cs) 3 1 0 [] := ⟨by decide, by decide, by decide⟩
  obtain ⟨l, c, line, hat', hunique, -, -, hexplain⟩ :=
    explain_line_column f (show 3 ≤ cs.length by decide) rfl
  obtain ⟨rfl, rfl⟩ := hunique 1 0 [] hat
  obtain rfl := Option.some.inj (hat.getElem?_eq.symm.trans hat'.getElem?_eq)
  exact ⟨hat, hexplain.trans (by decide)⟩

end Failure

end TokenGrammar
