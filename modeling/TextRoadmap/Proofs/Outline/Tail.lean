/-
TextRoadmap/Proofs/Outline/Tail.lean

What stands behind a block.

A block ends at the last closing bracket of its line, wherever that is.  What
stands behind the bracket belongs neither to the block nor to the title: it is
not read (`exists_kept`), and so it is not written again.

A line is therefore all title exactly if no closing bracket follows its last
opening one (`isAllOf_iff`).  That the line does not end in a closing bracket
is not enough.
-/
import TextRoadmap.Proofs.Outline.Block
import TextRoadmap.Proofs.Outline.Contents

namespace TextRoadmap

open TextRoadmap.Text TextRoadmap.Outline

/-- The project has all of its line behind the units for its title, says
nothing else, and is written with all of it. -/
def Project.IsAllOf (layout : Layout) (unit line : List Char) (p : Project) : Prop :=
  ∃ n body, line = (List.replicate n unit).flatten ++ body ∧ ¬ unit <+: body ∧
    p.title.toList = body ∧ p.contents = {} ∧
    p.line layout = List.replicate (min n 255) '\t' ++ body

/-- The milestone has all of its line behind the mark for its title, says
nothing else, and is written with all of it. -/
def Milestone.IsAllOf (layout : Layout) (line : List Char) (m : Milestone) : Prop :=
  ∃ margin body, line = margin ++ '|' :: body ∧ (∀ c ∈ margin, isMargin c = true) ∧
    m.title.toList = body ∧ m.contents = {} ∧ m.line layout = '|' :: body

namespace Outline

variable {s : Setting} {unit head body line : List Char}

/-! ### Bodies that are all title -/

/-- Text without a bracket in front does not matter for a block. -/
theorem noBlock_append (hhead : '[' ∉ head) (body : List Char) :
    NoBlock (head ++ body) ↔ NoBlock body := by
  constructor
  · rintro h before after rfl
    exact h (head ++ before) after (by rw [List.append_assoc])
  · intro h before after heq
    rcases List.append_eq_append_iff.1 heq with ⟨u, -, hbody⟩ | ⟨u, hu, hafter⟩
    · exact h u after hbody
    · rcases u with - | ⟨c, u⟩
      · exact h [] after hafter.symm
      · -- the bracket would stand in front
        obtain ⟨rfl, -⟩ := List.cons.inj hafter
        exact absurd (by rw [hu]; simp) hhead

theorem noBlock_cons {c : Char} (hc : c ≠ '[') (body : List Char) :
    NoBlock (c :: body) ↔ NoBlock body := by
  have hhead : '[' ∉ [c] := by simpa using hc.symm
  exact noBlock_append hhead body

theorem bracket_not_mem_of_isMargin (h : ∀ c ∈ head, isMargin c = true) : '[' ∉ head :=
  fun hmem => absurd (h _ hmem) (by decide)

/-- A block takes its bracket away from the title at least. -/
theorem splitExtra_fst_eq_iff : (splitExtra body).1 = body ↔ NoBlock body := by
  constructor
  · intro h
    rcases splitExtra_cases body with ⟨hno, -⟩ | ⟨title, block, rest, hbody, -, -, hsplit⟩
    · exact hno
    · rw [hsplit] at h
      have hle := (trim_isInfix isMargin title).length_le
      have hlength := congrArg List.length hbody
      rw [← h, List.length_append, List.length_cons] at hlength
      dsimp only at hlength
      omega
  · intro h
    rw [splitExtra_of_noBlock h]

/-! ### Lines that are all title -/

theorem isAllOf_projectAt (s : Setting) (n : Nat) (hnot : ¬ unit <+: body) (h : NoBlock body) :
    (projectAt s n body).IsAllOf s.layout unit ((List.replicate n unit).flatten ++ body) := by
  have hread : Extra.read s [] = {} := rfl
  have hcontents : (projectAt s n body).contents = {} := by
    rw [projectAt, splitExtra_of_noBlock h, hread]
    rfl
  refine ⟨n, body, rfl, hnot, ?_, hcontents, ?_⟩
  · rw [projectAt, String.toList_ofList, splitExtra_fst_eq_iff.2 h]
  · have hline := rewriteBody_of_noBlock (isWriter_projectTokens s) h
    rw [Project.line_eq, toNat_indentation_projectAt]
    conv_rhs => rw [← hline]
    simp only [projectAt, String.toList_ofList]
    rfl

/-- A project has all of its line exactly if the line has no block. -/
theorem isAllOf_readProject_iff (hunit : IsUnit unit) (hline : isProjectLine line = true) :
    (readProject s unit line).IsAllOf s.layout unit line ↔ NoBlock line := by
  obtain ⟨n, body, rfl, hnot⟩ := exists_units hunit line
  have hmargin : ∀ c ∈ (List.replicate n unit).flatten, isMargin c = true :=
    fun c => isMargin_of_mem_units hunit
  have hbody : isMilestoneLine body = false := by
    rw [← isMilestoneLine_append hmargin]
    exact (isProjectLine_iff.1 hline).2
  rw [readProject_append hunit hnot hbody,
    noBlock_append (bracket_not_mem_of_isMargin hmargin)]
  constructor
  · rintro ⟨m, title, heq, hnot', htitle, -⟩
    -- both bodies are what the units leave of the line
    have hsplit := splitUnits_append hunit.ne_nil hnot n
    rw [heq, splitUnits_append hunit.ne_nil hnot'] at hsplit
    obtain ⟨-, rfl⟩ := Prod.mk.inj hsplit
    rw [projectAt, String.toList_ofList] at htitle
    exact splitExtra_fst_eq_iff.1 htitle
  · exact isAllOf_projectAt s n hnot

theorem isAllOf_milestone (s : Setting) {margin : List Char}
    (hmargin : ∀ c ∈ margin, isMargin c = true) (body : List Char) :
    (⟨String.ofList body, none, none, []⟩ : Milestone).IsAllOf s.layout
      (margin ++ '|' :: body) := by
  refine ⟨margin, body, rfl, hmargin, String.toList_ofList, rfl, ?_⟩
  rw [Milestone.line_eq, String.toList_ofList]
  rfl

/-- A milestone has all of its line exactly if the line has no block. -/
theorem isAllOf_readMilestone_iff (hline : isMilestoneLine line = true) :
    (∃ m ∈ readMilestone s line, m.IsAllOf s.layout line) ↔ NoBlock line := by
  obtain ⟨margin, body, rfl, hmargin⟩ := isMilestoneLine_iff.1 hline
  rw [noBlock_append (bracket_not_mem_of_isMargin hmargin), noBlock_cons (by decide),
    readMilestone_append hmargin, readMilestone_mark]
  constructor
  · rintro ⟨m, hm, margin', title, heq, hmargin', htitle, -⟩
    -- both titles are what stands behind the first mark
    have hdrop := congrArg (List.dropWhile isMargin) heq
    rw [dropWhile_append_of_forall hmargin, dropWhile_append_of_forall hmargin'] at hdrop
    obtain ⟨-, rfl⟩ := List.cons.inj hdrop
    obtain ⟨-, hm⟩ := Option.ite_none_left_eq_some.1 hm
    rw [← Option.some.inj hm, String.toList_ofList] at htitle
    exact splitExtra_fst_eq_iff.1 htitle
  · intro h
    rw [splitExtra_of_noBlock h]
    exact ⟨_, rfl, isAllOf_milestone s hmargin body⟩

/-! ### What is not read -/

/-- A block stands between the last brackets of its line. -/
theorem exists_block (h : ¬ NoBlock line) :
    ∃ head block rest, line = head ++ '[' :: (block ++ ']' :: rest) ∧ '[' ∉ block ∧
      '[' ∉ rest ∧ ']' ∉ rest := by
  simp only [NoBlock, not_forall, not_not] at h
  obtain ⟨head, tail, rfl, hopen, hclose⟩ := h
  obtain ⟨⟨block, rest⟩, hsplit⟩ := Option.ne_none_iff_exists'.1 (splitLast?_ne_none hclose)
  obtain ⟨rfl, hrest⟩ := eq_of_splitLast? hsplit
  simp only [List.mem_append, List.mem_cons, not_or] at hopen
  exact ⟨head, block, rest, rfl, hopen.1, hopen.2.2, hrest⟩

/-- Where a line does not end in its last closing bracket, more than margin
stands behind the bracket. -/
theorem exists_mem_of_getLast?_ne {kept rest : List Char}
    (h : (trimEnd isMargin (kept ++ ']' :: rest)).getLast? ≠ some ']') :
    ∃ c ∈ rest, isMargin c = false := by
  by_contra hrest
  push Not at hrest
  have hmargin : ∀ c ∈ rest, isMargin c = true := by simpa using hrest
  have hline : kept ++ ']' :: rest = (kept ++ [']']) ++ rest := by simp
  refine h ?_
  rw [hline, trimEnd_append_right hmargin, trimEnd_concat_of_not (by decide),
    List.getLast?_concat]

/-- A line with a block is read as if it ended with its last closing bracket. -/
theorem exists_kept (hunit : IsUnit unit) (s : Setting) (h : ¬ NoBlock line) :
    ∃ kept rest, line = kept ++ ']' :: rest ∧ ']' ∉ rest ∧
      readProject s unit line = readProject s unit (kept ++ [']']) ∧
      readMilestone s line = readMilestone s (kept ++ [']']) := by
  obtain ⟨head, block, rest, rfl, hblock, hopen, hclose⟩ := exists_block h
  have hkept : head ++ '[' :: block ++ [']'] = head ++ '[' :: (block ++ [']']) := by simp
  refine ⟨head ++ '[' :: block, rest, by simp, hclose, ?_, ?_⟩
  · rw [hkept, readProject_block hunit hblock hopen hclose,
      readProject_block hunit hblock (by simp) (by simp)]
  · rw [hkept, readMilestone_block hblock hopen hclose,
      readMilestone_block hblock (by simp) (by simp)]

/-- **When no text of a line is lost**: a project or milestone has all of its
line for its title, and nothing besides, exactly if no closing bracket follows
the last opening one.  Otherwise the line is read as if it ended with its last
closing bracket, and unless it does so, text is lost. -/
theorem isAllOf_iff (s : Setting) (lines : List (List Char)) (line : List Char) :
    (isProjectLine line = true →
      ((readProject s (unitOf lines) line).IsAllOf s.layout (unitOf lines) line ↔
        NoBlock line)) ∧
    (isMilestoneLine line = true →
      ((∃ m ∈ readMilestone s line, m.IsAllOf s.layout line) ↔ NoBlock line)) ∧
    (¬ NoBlock line → ∃ kept rest, line = kept ++ ']' :: rest ∧ ']' ∉ rest ∧
      readProject s (unitOf lines) line = readProject s (unitOf lines) (kept ++ [']']) ∧
      readMilestone s line = readMilestone s (kept ++ [']']) ∧
      ((trimEnd isMargin line).getLast? ≠ some ']' → ∃ c ∈ rest, isMargin c = false)) := by
  have hunit : IsUnit (unitOf lines) := isUnit_unitOf lines
  refine ⟨isAllOf_readProject_iff hunit, isAllOf_readMilestone_iff, fun hblock => ?_⟩
  obtain ⟨kept, rest, rfl, hclose, hproject, hmilestone⟩ := exists_kept hunit s hblock
  exact ⟨kept, rest, rfl, hclose, hproject, hmilestone, exists_mem_of_getLast?_ne⟩

/-- A word in brackets takes the rest of its line along. -/
theorem not_isAllOf_behind_brackets :
    let s : Setting := ⟨.standard, ""⟩
    let line := "Fix [core] bug".toList
    isProjectLine line = true ∧ (trimEnd isMargin line).getLast? ≠ some ']' ∧
      ¬ (readProject s (unitOf [line]) line).IsAllOf s.layout (unitOf [line]) line ∧
      (readProject s (unitOf [line]) line).title = "Fix" ∧
      (readProject s (unitOf [line]) line).line s.layout = "Fix".toList := by
  intro s line
  have hline : isProjectLine line = true := by decide
  refine ⟨hline, by decide, ?_, by decide +kernel, by decide +kernel⟩
  rw [isAllOf_readProject_iff (isUnit_unitOf [line]) hline]
  decide

end Outline

end TextRoadmap
