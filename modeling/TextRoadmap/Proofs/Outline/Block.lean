/-
TextRoadmap/Proofs/Outline/Block.lean

Lines that have a block.

What is read from such a line falls into two parts that do not know of each
other (`readProject_block`): the depth and the title are those of the text in
front of the last opening bracket, and the contents those of the text between
it and the last closing bracket.  What stands behind that is not read at all.
-/
import TextRoadmap.Proofs.Outline.Rewrite

namespace TextRoadmap.Outline

open TextRoadmap.Text TextRoadmap.Calendar

variable {s : Setting} {c : Char} {unit head title block rest body : List Char}
variable {tokens : List (List Char)}

/-! ### Cuts in front of a block -/

/-- Units end in front of a character that no unit holds. -/
theorem splitUnits_append_cons (hunit : unit ≠ []) (hc : c ∉ unit) (head rest : List Char) :
    splitUnits unit (head ++ c :: rest) =
      ((splitUnits unit head).1, (splitUnits unit head).2 ++ c :: rest) := by
  obtain ⟨hhead, hnot⟩ := eq_of_splitUnits hunit (show splitUnits unit head = (_, _) from rfl)
  have hpre : ¬ unit <+: (splitUnits unit head).2 ++ c :: rest := by
    rintro ⟨more, hmore⟩
    refine hnot ?_
    rcases List.append_eq_append_iff.1 hmore with ⟨u, hu, -⟩ | ⟨u, hu, hrest⟩
    · exact ⟨u, hu.symm⟩
    · -- otherwise the unit reaches the character
      rcases u with - | ⟨d, u⟩
      · exact ⟨[], by simpa using hu⟩
      · obtain ⟨rfl, -⟩ := List.cons.inj hrest
        exact absurd (by rw [hu]; simp) hc
  conv_lhs => rw [hhead, List.append_assoc, splitUnits_append hunit hpre]

theorem dropMark_append_cons (hc : c ≠ '|') (body rest : List Char) :
    dropMark (body ++ c :: rest) = dropMark body ++ c :: rest := by
  rcases body with - | ⟨d, body⟩
  · exact dropMark_eq_self (by simpa using hc)
  · by_cases hd : d = '|'
    · subst hd
      rfl
    · rw [dropMark_eq_self (by simpa using hd), dropMark_eq_self (by simpa using hd)]

/-! ### The line of a project -/

/-- The project with the contents of a block. -/
def Extra.project (e : Extra) (depth : Nat) (title : List Char) : Project where
  indentation := UInt8.ofNat (min depth 255)
  title := String.ofList title
  dates := e.span?
  color := e.color
  percentage := e.percentage
  urls := e.urls
  milestone := e.milestone

theorem projectAt_block (hblock : '[' ∉ block) (hopen : '[' ∉ rest) (hclose : ']' ∉ rest)
    (s : Setting) (depth : Nat) (head : List Char) :
    projectAt s depth (head ++ '[' :: (block ++ ']' :: rest)) =
      (Extra.read s (trim isMargin block)).project depth (trim isMargin head) := by
  rw [projectAt, splitExtra_block_rest hblock hopen hclose]
  rfl

theorem readProject_block (hunit : IsUnit unit) (hblock : '[' ∉ block) (hopen : '[' ∉ rest)
    (hclose : ']' ∉ rest) (head : List Char) :
    readProject s unit (head ++ '[' :: (block ++ ']' :: rest)) =
      (Extra.read s (trim isMargin block)).project (splitUnits unit head).1
        (trim isMargin (dropMark (splitUnits unit head).2)) := by
  have hbracket : '[' ∉ unit := fun h => absurd (hunit.indents _ h) (by decide)
  rw [readProject_eq, splitUnits_append_cons hunit.ne_nil hbracket]
  dsimp only
  rw [dropMark_append_cons (by decide), projectAt_block hblock hopen hclose]

/-- A line whose block holds the tokens, even if there are none. -/
def withBlock (title : List Char) (tokens : List (List Char)) : List Char :=
  title ++ ' ' :: '[' :: (commaJoin tokens ++ [']'])

theorem withBlock_eq (title : List Char) (tokens : List (List Char)) :
    withBlock title tokens = (title ++ [' ']) ++ '[' :: (commaJoin tokens ++ [']']) := by
  simp [withBlock]

theorem projectAt_withBlock (hfree : '[' ∉ commaJoin tokens) (s : Setting) (depth : Nat)
    (title : List Char) :
    projectAt s depth (withBlock title tokens) =
      (Extra.read s (trim isMargin (commaJoin tokens))).project depth (trim isMargin title) := by
  rw [withBlock_eq, projectAt_block hfree (by simp) (by simp),
    trim_append_right (by simp [isMargin])]

theorem readProject_withBlock (hunit : IsUnit unit) (hfree : '[' ∉ commaJoin tokens)
    (title : List Char) :
    readProject s unit (withBlock title tokens) =
      (Extra.read s (trim isMargin (commaJoin tokens))).project
        (splitUnits unit (title ++ [' '])).1
        (trim isMargin (dropMark (splitUnits unit (title ++ [' '])).2)) := by
  rw [withBlock_eq, readProject_block hunit hfree (by simp) (by simp)]

/-- Behind a title, blocks that say the same make the same project. -/
theorem readProject_withBlock_congr {tokens' : List (List Char)} (hunit : IsUnit unit)
    (h : ∀ token ∈ tokens, '[' ∉ token) (h' : ∀ token ∈ tokens', '[' ∉ token)
    (hread : Extra.read s (trim isMargin (commaJoin tokens)) =
      Extra.read s (trim isMargin (commaJoin tokens'))) (title : List Char) :
    readProject s unit (withBlock title tokens) = readProject s unit (withBlock title tokens') := by
  rw [readProject_withBlock hunit (not_mem_commaJoin (by decide) (by decide) h),
    readProject_withBlock hunit (not_mem_commaJoin (by decide) (by decide) h'), hread]

/-! ### The line of a milestone -/

/-- The milestone with the contents of a block, unless there are two dates. -/
def Extra.milestone? (e : Extra) (title : List Char) : Option Milestone :=
  if e.endAt.isSome then none
  else
    some
      { title := String.ofList title
        deadlineAt := e.startAt
        color := e.color
        urls := e.urls }

theorem readMilestone_mark (s : Setting) (body : List Char) : readMilestone s ('|' :: body) =
    (Extra.read s (splitExtra body).2).milestone? (splitExtra body).1 := rfl

theorem readMilestone_block (hblock : '[' ∉ block) (hopen : '[' ∉ rest) (hclose : ']' ∉ rest)
    (head : List Char) :
    readMilestone s (head ++ '[' :: (block ++ ']' :: rest)) =
      (Extra.read s (trim isMargin block)).milestone?
        (trim isMargin (dropMark (head.dropWhile isMargin))) := by
  rw [readMilestone, dropWhile_append_of_head? (by simp [isMargin]),
    dropMark_append_cons (show '[' ≠ '|' by decide), splitExtra_block_rest hblock hopen hclose]
  rfl

end TextRoadmap.Outline
