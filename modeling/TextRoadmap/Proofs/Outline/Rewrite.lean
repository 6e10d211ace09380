/-
TextRoadmap/Proofs/Outline/Rewrite.lean

What becomes of a line that is read and written again.

Projects and milestones share the body of a line, a title with or without a
block, and differ in the tokens that they write (`IsWriter`).  A body either
keeps its block or loses it because nothing is written for it (`Keeps`).
Losing it shows in the number of opening brackets
(`keeps_of_count_eq`), which is what the counting over a whole text rests on.

A body is rewritten to itself exactly if it has no block, or if its title is
trimmed and its block is written as it stands (`rewriteBody_eq_self_iff`).
-/
import TextRoadmap.Proofs.Outline.Bracket
import TextRoadmap.Proofs.Outline.Count

namespace TextRoadmap.Outline

open TextRoadmap.Text TextRoadmap.Calendar

variable {s : Setting} {write : Extra → List (List Char)} {body : List Char}

/-! ### The body of a line -/

/-- Tokens that are written for contents: none for nothing, and no bracket if
nothing holds one. -/
structure IsWriter (s : Setting) (write : Extra → List (List Char)) : Prop where
  nil : write {} = []
  free : ∀ e : Extra, e.IsFree s.layout → ∀ token ∈ write e, '[' ∉ token

theorem isWriter_projectTokens (s : Setting) : IsWriter s (projectTokens s.layout) :=
  ⟨rfl, fun _ => not_mem_projectTokens⟩

theorem isWriter_milestoneTokens (s : Setting) : IsWriter s (milestoneTokens s.layout) :=
  ⟨rfl, fun _ => not_mem_milestoneTokens⟩

/-- The body of a line after reading and writing it. -/
def rewriteBody (s : Setting) (write : Extra → List (List Char)) (body : List Char) : List Char :=
  withExtra (splitExtra body).1 (write (Extra.read s (splitExtra body).2))

/-- The body has no block, or its block is not lost. -/
def Keeps (s : Setting) (write : Extra → List (List Char)) (body : List Char) : Prop :=
  NoBlock body ∨ write (Extra.read s (splitExtra body).2) ≠ []

theorem rewriteBody_of_noBlock (hwrite : IsWriter s write) (h : NoBlock body) :
    rewriteBody s write body = body := by
  have hread : Extra.read s [] = {} := rfl
  rw [rewriteBody, splitExtra_of_noBlock h, hread, hwrite.nil]
  rfl

/-- A block that is kept is written behind the trimmed title. -/
theorem Keeps.cases (hwrite : IsWriter s write) (h : Keeps s write body) :
    NoBlock body ∧ rewriteBody s write body = body ∨
      ∃ title block rest tokens, body = title ++ '[' :: (block ++ ']' :: rest) ∧ '[' ∉ block ∧
        '[' ∉ rest ∧ write (Extra.read s (trim isMargin block)) = tokens ∧ tokens ≠ [] ∧
        (∀ token ∈ tokens, '[' ∉ token) ∧
        rewriteBody s write body = withExtra (trim isMargin title) tokens := by
  rcases splitExtra_cases body with ⟨hno, -⟩ | ⟨title, block, rest, hbody, hblock, hrest, hsplit⟩
  · exact Or.inl ⟨hno, rewriteBody_of_noBlock hwrite hno⟩
  · have hno : ¬ NoBlock body := by
      intro hno
      refine hno title _ hbody ?_ (by simp)
      simp [hblock, hrest]
    have hne := h.resolve_left hno
    rw [hsplit] at hne
    have hmargin : '[' ∉ trim isMargin block := fun hmem => hblock (mem_of_mem_trim hmem)
    refine Or.inr ⟨title, block, rest, _, hbody, hblock, hrest, rfl, hne,
      hwrite.free _ (Extra.read_free hmargin), ?_⟩
    rw [rewriteBody, hsplit]

/-- A body has the brackets of its title, one for a block that is kept, and
never more than before. -/
theorem count_rewriteBody (hwrite : IsWriter s write) (body : List Char) :
    (rewriteBody s write body).count '[' ≤ body.count '[' ∧
      (¬ Keeps s write body → (rewriteBody s write body).count '[' < body.count '[') := by
  rcases splitExtra_cases body with ⟨hno, -⟩ | ⟨title, block, rest, hbody, hblock, hrest, hsplit⟩
  · rw [rewriteBody_of_noBlock hwrite hno]
    exact ⟨Nat.le_refl _, fun h => absurd (Or.inl hno) h⟩
  · -- besides those of the title there is the bracket that opens the block
    have hmargin : '[' ∉ trim isMargin block := fun hmem => hblock (mem_of_mem_trim hmem)
    have hfree := hwrite.free _ (Extra.read_free (s := s) hmargin)
    have hcount : body.count '[' = title.count '[' + 1 := by
      rw [hbody]
      simp [List.count_eq_zero.2 hblock, List.count_eq_zero.2 hrest]
    have hwritten : (rewriteBody s write body).count '[' = title.count '[' +
        if write (Extra.read s (trim isMargin block)) = [] then 0 else 1 := by
      rw [rewriteBody, hsplit, count_withExtra hfree, count_trim (by decide)]
    rw [hcount, hwritten]
    refine ⟨by split <;> omega, fun hkeeps => ?_⟩
    have hlost : write (Extra.read s (trim isMargin block)) = [] := by
      by_contra hne
      exact hkeeps (Or.inr (by rw [hsplit]; exact hne))
    rw [if_pos hlost]
    omega

theorem keeps_of_count_eq (hwrite : IsWriter s write)
    (h : (rewriteBody s write body).count '[' = body.count '[') : Keeps s write body := by
  by_contra hlost
  have := (count_rewriteBody hwrite body).2 hlost
  omega

/-! ### Bodies that stay as they are -/

/-- A body that is rewritten to itself: without a block, or with a trimmed
title and a block that is written as it stands. -/
inductive IsStable (s : Setting) (write : Extra → List (List Char)) : List Char → Prop
  | bare {body : List Char} : NoBlock body → IsStable s write body
  | block {title : List Char} {tokens : List (List Char)} :
      Trimmed isMargin title → tokens ≠ [] → (∀ token ∈ tokens, '[' ∉ token) →
      write (Extra.read s (trim isMargin (commaJoin tokens))) = tokens →
      IsStable s write (withExtra title tokens)

theorem rewriteBody_eq_self_iff (hwrite : IsWriter s write) :
    rewriteBody s write body = body ↔ IsStable s write body := by
  constructor
  · intro h
    rcases keeps_of_count_eq hwrite (by rw [h]) with hno | hne
    · exact IsStable.bare hno
    · set title := (splitExtra body).1 with htitle
      set tokens := write (Extra.read s (splitExtra body).2) with htokens
      have hfree : ∀ token ∈ tokens, '[' ∉ token :=
        hwrite.free _ (Extra.read_free (bracket_not_mem_splitExtra body))
      have hbody : body = withExtra title tokens := h.symm
      -- so the title and the block are those of the written body
      have hsplit := splitExtra_withExtra hne hfree title
      rw [← hbody] at hsplit
      have hblock : (splitExtra body).2 = trim isMargin (commaJoin tokens) := by rw [hsplit]
      rw [hbody]
      refine IsStable.block ?_ hne hfree ?_
      · rw [htitle, hsplit]
        exact trimmed_trim ..
      · rw [← hblock]
  · rintro (hno | ⟨htitle, hne, hfree, htokens⟩)
    · exact rewriteBody_of_noBlock hwrite hno
    · rw [rewriteBody, splitExtra_withExtra hne hfree, htokens, trim_eq_self htitle]

/-! ### What is left of a body that keeps its block -/

/-- Something that is no margin stays. -/
theorem Keeps.exists_mem (hwrite : IsWriter s write) (h : Keeps s write body)
    (hfull : ∃ c ∈ body, isMargin c = false ∧ c ≠ '\n') :
    ∃ c ∈ rewriteBody s write body, isMargin c = false ∧ c ≠ '\n' := by
  rcases h.cases hwrite with ⟨-, hrewrite⟩ |
    ⟨title, block, rest, tokens, -, -, -, -, hne, -, hrewrite⟩
  · rw [hrewrite]
    exact hfull
  · rw [hrewrite, withExtra_of_ne_nil hne]
    exact ⟨'[', by simp, by decide, by decide⟩

/-- A line feed could only come from a token, and then it divides the line in two. -/
theorem Keeps.one_lt_fullLines (hwrite : IsWriter s write) (h : Keeps s write body)
    {head : List Char} (hhead : '\n' ∉ head) (hbody : '\n' ∉ body)
    (hmem : '\n' ∈ head ++ rewriteBody s write body) :
    1 < fullLines (head ++ rewriteBody s write body) := by
  rcases h.cases hwrite with ⟨-, hrewrite⟩ |
    ⟨title, block, rest, tokens, heq, -, -, -, hne, -, hrewrite⟩
  · rw [hrewrite] at hmem
    exact absurd (List.mem_append.1 hmem) (by simp [hhead, hbody])
  · have htitle : '\n' ∉ trim isMargin title := fun hc =>
      hbody (by rw [heq]; exact List.mem_append_left _ (mem_of_mem_trim hc))
    rw [hrewrite, withExtra_of_ne_nil hne] at hmem ⊢
    -- the line feed stands in a token, between the brackets of the block
    have hjoin : '\n' ∈ commaJoin tokens := by simpa [hhead, htitle] using hmem
    obtain ⟨before, after, hsplit⟩ := List.append_of_mem hjoin
    have hline : head ++ (trim isMargin title ++ ' ' :: '[' :: (commaJoin tokens ++ [']'])) =
        (head ++ (trim isMargin title ++ ' ' :: '[' :: before)) ++ '\n' :: (after ++ [']']) := by
      rw [hsplit]
      simp
    rw [hline]
    exact Outline.one_lt_fullLines
      (fullLines_pos (show '[' ∈ _ by simp) (by decide) (by decide))
      (fullLines_pos (show ']' ∈ _ by simp) (by decide) (by decide))

/-- The line ends with its block, or it has none. -/
theorem Keeps.getLast? (hwrite : IsWriter s write) (h : Keeps s write body) (head : List Char) :
    rewriteBody s write body = body ∨
      (head ++ rewriteBody s write body).getLast? = some ']' := by
  rcases h.cases hwrite with ⟨-, hrewrite⟩ |
    ⟨title, block, rest, tokens, -, -, -, -, hne, -, hrewrite⟩
  · exact Or.inl hrewrite
  · have hend : head ++ (trim isMargin title ++ ' ' :: '[' :: (commaJoin tokens ++ [']'])) =
        (head ++ (trim isMargin title ++ ' ' :: '[' :: commaJoin tokens)) ++ [']'] := by simp
    rw [hrewrite, withExtra_of_ne_nil hne, hend, List.getLast?_concat]
    exact Or.inr rfl

/-! ### The line of a project -/

/-- What can be the unit of an outline. -/
structure IsUnit (unit : List Char) : Prop where
  ne_nil : unit ≠ []
  indents : ∀ c ∈ unit, isIndent c = true

theorem isUnit_unitOf (lines : List (List Char)) : IsUnit (unitOf lines) := by
  rw [unitOf]
  rcases hfind : lines.findSome? shownUnit? with - | unit
  · exact ⟨by simp, by simp [isIndent]⟩
  · obtain ⟨line, -, hline⟩ := List.exists_of_findSome?_eq_some hfind
    unfold shownUnit? at hline
    split at hline
    · cases hline
    · rename_i hshows
      obtain rfl := Option.some.inj hline
      refine ⟨?_, fun c hc => List.mem_takeWhile_imp hc⟩
      simp only [Bool.or_eq_true, not_or, List.isEmpty_iff] at hshows
      exact hshows.2

/-- The line of a project after reading and writing it. -/
def rewriteProject (s : Setting) (unit line : List Char) : List Char :=
  (readProject s unit line).line s.layout

variable {unit line : List Char} {n : Nat}

theorem isIndent_of_mem_units (hunit : IsUnit unit) {c : Char}
    (hc : c ∈ (List.replicate n unit).flatten) : isIndent c = true := by
  obtain ⟨u, hu, hc⟩ := List.mem_flatten.1 hc
  rw [List.eq_of_mem_replicate hu] at hc
  exact hunit.indents c hc

theorem isMargin_of_mem_units (hunit : IsUnit unit) {c : Char}
    (hc : c ∈ (List.replicate n unit).flatten) : isMargin c = true :=
  isMargin_of_isIndent (isIndent_of_mem_units hunit hc)

/-- The project of a body that stands at a depth. -/
def projectAt (s : Setting) (depth : Nat) (body : List Char) : Project :=
  let extra := Extra.read s (splitExtra body).2
  { indentation := UInt8.ofNat (min depth 255)
    title := String.ofList (splitExtra body).1
    dates := extra.span?
    color := extra.color
    percentage := extra.percentage
    urls := extra.urls
    milestone := extra.milestone }

theorem toNat_indentation_projectAt (s : Setting) (depth : Nat) (body : List Char) :
    (projectAt s depth body).indentation.toNat = min depth 255 := by
  rw [projectAt, UInt8.toNat_ofNat', Nat.mod_eq_of_lt (by omega)]

theorem readProject_eq (s : Setting) (unit line : List Char) : readProject s unit line =
    projectAt s (splitUnits unit line).1 (dropMark (splitUnits unit line).2) := rfl

/-- The units in front of a body say how deep its project stands. -/
theorem readProject_append (hunit : IsUnit unit) (hnot : ¬ unit <+: body)
    (hbody : isMilestoneLine body = false) :
    readProject s unit ((List.replicate n unit).flatten ++ body) = projectAt s n body := by
  have hbar : body.head? ≠ some '|' := by
    intro hhead
    obtain ⟨rest, rfl⟩ := List.head?_eq_some_iff.1 hhead
    cases hbody
  rw [readProject_eq, splitUnits_append hunit.ne_nil hnot, dropMark_eq_self hbar]

/-- The line of a project is written with tabs for its units, and its body is
rewritten. -/
theorem rewriteProject_append (hunit : IsUnit unit) (hnot : ¬ unit <+: body)
    (hline : isMilestoneLine ((List.replicate n unit).flatten ++ body) = false) :
    rewriteProject s unit ((List.replicate n unit).flatten ++ body) =
      List.replicate (min n 255) '\t' ++ rewriteBody s (projectTokens s.layout) body := by
  rw [isMilestoneLine_append fun c => isMargin_of_mem_units hunit] at hline
  rw [rewriteProject, Project.line_eq, readProject_append hunit hnot hline,
    toNat_indentation_projectAt]
  simp only [projectAt, String.toList_ofList]
  rfl

theorem exists_units (hunit : IsUnit unit) (line : List Char) :
    ∃ n body, line = (List.replicate n unit).flatten ++ body ∧ ¬ unit <+: body :=
  ⟨_, _, eq_of_splitUnits hunit.ne_nil rfl⟩

/-! ### The line of a milestone -/

/-- What stands in front of the mark is not read. -/
theorem readMilestone_append {margin : List Char} (hmargin : ∀ c ∈ margin, isMargin c = true)
    (s : Setting) (line : List Char) : readMilestone s (margin ++ line) = readMilestone s line := by
  rw [readMilestone, readMilestone, dropWhile_append_of_forall hmargin]

/-- The line of a milestone after reading and writing it, unless it is left out. -/
def rewriteMilestone? (s : Setting) (line : List Char) : Option (List Char) :=
  (readMilestone s line).map (Milestone.line s.layout)

/-- The line of a milestone is written without what stands in front of its
mark, and its body is rewritten. -/
theorem rewriteMilestone?_cases (hline : isMilestoneLine line = true) :
    ∃ margin body, line = margin ++ '|' :: body ∧ (∀ c ∈ margin, isMargin c = true) ∧
      rewriteMilestone? s line =
        if (Extra.read s (splitExtra body).2).endAt.isSome then none
        else some ('|' :: rewriteBody s (milestoneTokens s.layout) body) := by
  obtain ⟨margin, body, rfl, hmargin⟩ := isMilestoneLine_iff.1 hline
  refine ⟨margin, body, rfl, hmargin, ?_⟩
  rw [rewriteMilestone?, readMilestone_append hmargin]
  show (if (Extra.read s (splitExtra body).2).endAt.isSome then none else some _).map _ = _
  by_cases hend : (Extra.read s (splitExtra body).2).endAt.isSome = true
  · rw [if_pos hend, if_pos hend]
    rfl
  · rw [if_neg hend, if_neg hend, Option.map_some, Option.some.injEq, Milestone.line_eq,
      String.toList_ofList]
    rfl

/-! ### The whole text -/

theorem toList_outline_ofOutline (h : Heading) (now : Instant) (text : String) :
    (Roadmap.ofOutline h now text).outline.toList = ['\n'].intercalate (paragraphs
      (((linesOf text.toList).filter isProjectLine).map
        (rewriteProject h.setting (unitOf (linesOf text.toList))))
      (((linesOf text.toList).filter isMilestoneLine).filterMap
        (rewriteMilestone? h.setting))) := by
  rw [Roadmap.outline, String.toList_ofList, Roadmap.lines_eq]
  congr 2
  · exact List.map_map ..
  · exact List.map_filterMap ..

end TextRoadmap.Outline
