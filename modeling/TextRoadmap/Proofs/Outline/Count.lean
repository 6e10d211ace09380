/-
TextRoadmap/Proofs/Outline/Count.lean

Counting over the lines of a text.

Two numbers of a text are the sum of those of its lines, blank lines adding
nothing: the occurrences of a character (`sum_count_linesOf`) and the lines
that hold something (`fullLines`).  Each splits into a sum over the projects
and one over the milestones (`sum_kinds`).
-/
import Mathlib.Algebra.GroupWithZero.Nat
import Mathlib.Algebra.Order.BigOperators.Group.List
import Mathlib.Algebra.Order.Group.Nat
import TextRoadmap.Proofs.Outline.Line

namespace TextRoadmap.Outline

open TextRoadmap.Text

variable {c : Char} {line : List Char} {lines : List (List Char)}

/-! ### Sums -/

variable {α : Type} {f g f' g' : α → Nat} {l l' : List α}

/-- Numbers that are each at most others, but not less in total, are the others. -/
theorem eq_of_sum_le (hle : ∀ x ∈ l, f x ≤ g x) (hsum : (l.map g).sum ≤ (l.map f).sum) :
    ∀ x ∈ l, f x = g x := by
  intro x hx
  refine (hle x hx).antisymm ?_
  by_contra hlt
  have := List.sum_lt_sum f g hle ⟨x, hx, by omega⟩
  omega

/-- The same, where the total is taken over two lists. -/
theorem eq_of_sum_add_eq (hle : ∀ x ∈ l, f x ≤ g x) (hle' : ∀ x ∈ l', f' x ≤ g' x)
    (hsum : (l.map g).sum + (l'.map g').sum = (l.map f).sum + (l'.map f').sum) :
    (∀ x ∈ l, f x = g x) ∧ ∀ x ∈ l', f' x = g' x := by
  have h := List.sum_le_sum hle
  have h' := List.sum_le_sum hle'
  exact ⟨eq_of_sum_le hle (by omega), eq_of_sum_le hle' (by omega)⟩

/-- What blank lines do not count for is counted by projects and milestones. -/
theorem sum_kinds {f : List Char → Nat} (hf : ∀ line, isBlankLine line = true → f line = 0)
    (lines : List (List Char)) : (lines.map f).sum =
      ((lines.filter isProjectLine).map f).sum + ((lines.filter isMilestoneLine).map f).sum := by
  induction lines with
  | nil => rfl
  | cons line lines ih =>
    rw [List.map_cons, List.sum_cons, ih, List.filter_cons, List.filter_cons]
    rcases hm : isMilestoneLine line with - | -
    · rcases hb : isBlankLine line with - | -
      · have hp : isProjectLine line = true := isProjectLine_iff.2 ⟨hb, hm⟩
        rw [if_pos hp, if_neg (by simp), List.map_cons, List.sum_cons]
        omega
      · have hp : isProjectLine line = false := by simp [isProjectLine, hb]
        rw [hp, if_neg (by simp), if_neg (by simp), hf line hb, Nat.zero_add]
    · rw [isProjectLine_of_isMilestoneLine hm, if_neg (by simp), if_pos rfl, List.map_cons,
        List.sum_cons]
      omega

/-! ### Characters -/

theorem count_dropReturn (hc : c ≠ '\r') (line : List Char) :
    (dropReturn line).count c = line.count c := by
  rcases dropReturn_cases line with h | ⟨rest, rfl⟩
  · rw [h]
  · rw [dropReturn_concat, List.count_append, List.count_singleton]
    simp [Ne.symm hc]

theorem count_intercalate (hc : c ≠ '\n') (lines : List (List Char)) :
    (['\n'].intercalate lines).count c = (lines.map (List.count c)).sum := by
  induction lines with
  | nil => rfl
  | cons line lines ih =>
    by_cases hne : lines = []
    · subst hne
      simp [List.intercalate]
    · rw [intercalate_cons line hne, List.count_append, List.count_cons_of_ne (Ne.symm hc), ih,
        List.map_cons, List.sum_cons]

/-- A character is found in the lines of a text as often as in the text. -/
theorem sum_count_linesOf (hfeed : c ≠ '\n') (hreturn : c ≠ '\r') (s : List Char) :
    ((linesOf s).map (List.count c)).sum = s.count c := by
  unfold linesOf
  split
  · rename_i hs
    rw [List.isEmpty_iff.1 hs]
    rfl
  · have hmap : (s.splitOn '\n').map (List.count c ∘ dropReturn) =
        (s.splitOn '\n').map (List.count c) :=
      List.map_congr_left fun line _ => count_dropReturn hreturn line
    rw [List.map_map, hmap, ← count_intercalate hfeed, List.intercalate_splitOn]

/-! ### Lines that hold something -/

/-- 1 for a line that holds something, 0 for a blank one. -/
def weight (line : List Char) : Nat := if isBlankLine line then 0 else 1

/-- The number of lines of a text that hold something. -/
def fullLines (s : List Char) : Nat := ((s.splitOn '\n').map weight).sum

theorem fullLines_append (s s' : List Char) :
    fullLines (s ++ '\n' :: s') = fullLines s + fullLines s' := by
  rw [fullLines, List.splitOn_append_cons_self, List.map_append, List.sum_append]
  rfl

theorem fullLines_intercalate (lines : List (List Char)) :
    fullLines (['\n'].intercalate lines) = (lines.map fullLines).sum := by
  induction lines with
  | nil => rfl
  | cons line lines ih =>
    by_cases hne : lines = []
    · subst hne
      simp [List.intercalate]
    · rw [intercalate_cons line hne, fullLines_append, ih, List.map_cons, List.sum_cons]

/-- The lines of a text are as many as it has full lines, besides blank ones. -/
theorem sum_weight_linesOf (s : List Char) : ((linesOf s).map weight).sum = fullLines s := by
  unfold linesOf
  split
  · rename_i hs
    rw [List.isEmpty_iff.1 hs]
    rfl
  · have hmap : (s.splitOn '\n').map (weight ∘ dropReturn) = (s.splitOn '\n').map weight :=
      List.map_congr_left fun line _ => by
        rw [Function.comp_apply, weight, isBlankLine_dropReturn]
        rfl
    rw [List.map_map, hmap]
    rfl

/-- A text that holds something has a full line. -/
theorem fullLines_pos {s : List Char} (hc : c ∈ s) (hmargin : isMargin c = false)
    (hfeed : c ≠ '\n') : 0 < fullLines s := by
  have hsum : s.count c = ((s.splitOn '\n').map (List.count c)).sum := by
    rw [← count_intercalate hfeed, List.intercalate_splitOn]
  rw [← List.count_pos_iff, hsum, List.sum_pos_iff_exists_pos_nat] at hc
  obtain ⟨n, hn, hpos⟩ := hc
  obtain ⟨line, hline, rfl⟩ := List.mem_map.1 hn
  have hfull : isBlankLine line = false :=
    List.all_eq_false.2 ⟨c, List.count_pos_iff.1 hpos, by simpa using hmargin⟩
  rw [fullLines, List.sum_pos_iff_exists_pos_nat]
  exact ⟨weight line, List.mem_map_of_mem hline, by rw [weight, hfull]; decide⟩

/-- Two full lines with a line feed between them make two. -/
theorem one_lt_fullLines {s s' : List Char} (h : 0 < fullLines s) (h' : 0 < fullLines s') :
    1 < fullLines (s ++ '\n' :: s') := by
  rw [fullLines_append]
  omega

end TextRoadmap.Outline
