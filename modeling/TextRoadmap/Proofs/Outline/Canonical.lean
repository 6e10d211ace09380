/-
TextRoadmap/Proofs/Outline/Canonical.lean

Which outlines stay as they are when they are read and written again.

Formatting is not idempotent on all texts: the block of `A [x] [y]` means
nothing and is left out, which leaves `A [x]`, whose block is left out in
turn (`Roadmap.reread_two_blocks`).  `Roadmap.outline_ofOutline_eq_iff` says
exactly which texts are left alone.  They are the canonical ones
(`IsCanonical`): projects above milestones, each line in a form that can be
checked on its own (`IsProjectForm`, `IsMilestoneForm`).

That canonical texts are left alone is read off the forms.  The converse is
the work.  A text that is left alone has as many opening brackets as its
written lines, so no line loses its block (`keepsLine_of_reformat_eq`), and as
many lines that hold something, so no written line holds a line feed
(`feed_not_mem_of_reformat_eq`).  The written lines are then the lines of the
text, one by one.
-/
import TextRoadmap.Proofs.Outline.Forms

namespace TextRoadmap.Outline

open TextRoadmap.Text TextRoadmap.Calendar

variable {s : Setting} {write : Extra → List (List Char)}
variable {unit line written text : List Char}

/-! ### Reading and writing a text -/

def projectLines (text : List Char) : List (List Char) := (linesOf text).filter isProjectLine

def milestoneLines (text : List Char) : List (List Char) := (linesOf text).filter isMilestoneLine

/-- The lines of the projects as they are written again. -/
def rewrittenProjects (s : Setting) (text : List Char) : List (List Char) :=
  (projectLines text).map (rewriteProject s (unitOf (linesOf text)))

/-- The lines of the milestones as they are written again. -/
def rewrittenMilestones (s : Setting) (text : List Char) : List (List Char) :=
  (milestoneLines text).filterMap (rewriteMilestone? s)

/-- The text as it is written again. -/
def reformat (s : Setting) (text : List Char) : List Char :=
  ['\n'].intercalate (paragraphs (rewrittenProjects s text) (rewrittenMilestones s text))

/-- A text that consists of projects and milestones in the forms that they are
written in, with an empty line between them. -/
def IsCanonical (s : Setting) (text : List Char) : Prop :=
  ∃ ps ms, text = ['\n'].intercalate (paragraphs ps ms) ∧
    (∀ line ∈ ps ++ ms, '\n' ∉ line ∧ line.getLast? ≠ some '\r') ∧
    (∀ line ∈ ps, isProjectLine line = true ∧ IsProjectForm s (unitOf (paragraphs ps ms)) line) ∧
    ∀ line ∈ ms, IsMilestoneForm s line

/-- Neither the line of a project nor that of a milestone is empty. -/
theorem ne_nil_of_kinds {ps ms : List (List Char)} (hp : ∀ line ∈ ps, isProjectLine line = true)
    (hm : ∀ line ∈ ms, isMilestoneLine line = true) : ∀ line ∈ ps ++ ms, line ≠ [] := by
  rintro line hmem rfl
  rcases List.mem_append.1 hmem with hmem | hmem
  · exact absurd (hp [] hmem) (by decide)
  · exact absurd (hm [] hmem) (by decide)

/-- Canonical texts are left alone. -/
theorem reformat_of_isCanonical (h : IsCanonical s text) : reformat s text = text := by
  obtain ⟨ps, ms, rfl, hline, hps, hms⟩ := h
  have hp : ∀ line ∈ ps, isProjectLine line = true := fun line hline => (hps line hline).1
  have hm : ∀ line ∈ ms, isMilestoneLine line = true := fun line hline =>
    isMilestoneLine_of_isMilestoneForm (hms line hline)
  have hne := ne_nil_of_kinds hp hm
  -- the lines of the text are the given ones, and each is written as it stands
  have hlines : linesOf (['\n'].intercalate (paragraphs ps ms)) = paragraphs ps ms :=
    linesOf_paragraphs hne (fun line hmem => (hline line hmem).1)
      fun line hmem => (hline line hmem).2
  have hprojects : ps.map (rewriteProject s (unitOf (paragraphs ps ms))) = ps := by
    refine (List.map_congr_left fun line hmem => ?_).trans (List.map_id' ps)
    have hkind := (isProjectLine_iff.1 (hp line hmem)).2
    exact (rewriteProject_eq_self_iff (isUnit_unitOf _) hkind).2 (hps line hmem).2
  have hmilestones : ms.filterMap (rewriteMilestone? s) = ms := by
    refine (List.filterMap_congr fun line hmem => ?_).trans List.filterMap_some
    exact (rewriteMilestone?_eq_self_iff (hm line hmem)).2 (hms line hmem)
  rw [reformat, rewrittenProjects, rewrittenMilestones, projectLines, milestoneLines, hlines,
    filter_isProjectLine_paragraphs hp hm, filter_isMilestoneLine_paragraphs hp hm, hprojects,
    hmilestones]

/-! ### Lines that keep their blocks -/

/-- A line and what is written for it, if its body keeps its block, and what
stands in front of it does not grow and loses margins at most. -/
inductive KeepsLine (s : Setting) (write : Extra → List (List Char)) :
    List Char → List Char → Prop
  | intro {head head' body : List Char} : Keeps s write body → '\n' ∉ head' →
      head'.length ≤ head.length → (∀ c ∈ head, isMargin c = true ∨ c ∈ head') →
      KeepsLine s write (head ++ body) (head' ++ rewriteBody s write body)

/-- A line that holds something is written as one. -/
theorem KeepsLine.weight_le (hwrite : IsWriter s write) (h : KeepsLine s write line written)
    (hline : '\n' ∉ line) : weight line ≤ fullLines written := by
  rw [weight]
  split
  · exact Nat.zero_le _
  rename_i hfull
  obtain ⟨c, hc, hmargin⟩ := List.all_eq_false.1 (Bool.not_eq_true _ ▸ hfull)
  rw [Bool.not_eq_true] at hmargin
  obtain ⟨hkeeps, -, -, hmargins⟩ := h
  have hfeed : c ≠ '\n' := by
    rintro rfl
    exact hline hc
  rcases List.mem_append.1 hc with hc | hc
  · have hmem := (hmargins c hc).resolve_left (by simp [hmargin])
    exact fullLines_pos (List.mem_append_left _ hmem) hmargin hfeed
  · obtain ⟨d, hd, hmargin', hfeed'⟩ := hkeeps.exists_mem hwrite ⟨c, hc, hmargin, hfeed⟩
    exact fullLines_pos (List.mem_append_right _ hd) hmargin' hfeed'

/-- A written line that holds a line feed holds two full lines. -/
theorem KeepsLine.one_lt_fullLines (hwrite : IsWriter s write)
    (h : KeepsLine s write line written) (hline : '\n' ∉ line) (hmem : '\n' ∈ written) :
    1 < fullLines written := by
  obtain ⟨hkeeps, hhead, -, -⟩ := h
  exact hkeeps.one_lt_fullLines hwrite hhead (fun hc => hline (List.mem_append_right _ hc)) hmem

/-- A line that is written with a carriage return at its end did not begin
without one. -/
theorem KeepsLine.getLast?_ne (hwrite : IsWriter s write)
    (h : KeepsLine s write (dropReturn written) written) : written.getLast? ≠ some '\r' := by
  intro hlast
  obtain ⟨rest, rfl⟩ := List.getLast?_eq_some_iff.1 hlast
  rw [dropReturn_concat] at h
  generalize hwritten : rest ++ ['\r'] = written at h hlast
  obtain ⟨hkeeps, -, hlen, -⟩ := h
  rename_i head head' body
  rcases hkeeps.getLast? hwrite head' with hbody | hend
  · have hlong := congrArg List.length hwritten
    rw [hbody] at hlong
    simp only [List.length_append, List.length_cons, List.length_nil] at hlong
    omega
  · rw [hend] at hlast
    cases hlast

/-- A body that keeps its block does not become that of a milestone. -/
theorem Keeps.isProjectLine (hwrite : IsWriter s write) {body : List Char}
    (h : Keeps s write body) (hbody : Outline.isProjectLine body = true) :
    Outline.isProjectLine (rewriteBody s write body) = true := by
  rcases h.cases hwrite with ⟨-, hrewrite⟩ |
    ⟨title, block, rest, tokens, heq, -, -, -, hne, -, hrewrite⟩
  · rw [hrewrite]
    exact hbody
  · rw [hrewrite, withExtra_of_ne_nil hne, isProjectLine_iff]
    constructor
    · exact List.all_eq_false.2 ⟨'[', by simp, by decide⟩
    · -- a mark at the start of the title would have stood there before
      by_contra hbar
      rw [Bool.not_eq_false, isMilestoneLine, decide_eq_true_iff] at hbar
      have hmark : (title.dropWhile isMargin).head? = some '|' := by
        rcases htrim : trim isMargin title with - | ⟨c, after⟩
        · rw [htrim] at hbar
          cases hbar
        · have hc : isMargin c = false := (trimmed_trim isMargin title).head c (by rw [htrim]; rfl)
          rw [htrim, List.cons_append, List.dropWhile_cons_of_neg (by simp [hc])] at hbar
          obtain ⟨after', hafter⟩ := trim_isPrefix isMargin title
          rw [← hafter, htrim]
          exact hbar
      have hmilestone : isMilestoneLine body = true := by
        rw [isMilestoneLine, heq, List.dropWhile_append, decide_eq_true_iff]
        rcases hdrop : title.dropWhile isMargin with - | ⟨c, after⟩
        · rw [hdrop] at hmark
          cases hmark
        · rw [hdrop] at hmark
          exact hmark
      rw [isProjectLine_of_isMilestoneLine hmilestone] at hbody
      cases hbody

/-- A project has no more brackets than before, and fewer if it loses its
block.  If it keeps it, it stays a project. -/
theorem count_rewriteProject (hunit : IsUnit unit) (hline : isProjectLine line = true) :
    (rewriteProject s unit line).count '[' ≤ line.count '[' ∧
      ((rewriteProject s unit line).count '[' = line.count '[' →
        isProjectLine (rewriteProject s unit line) = true ∧
          KeepsLine s (projectTokens s.layout) line (rewriteProject s unit line)) := by
  have hwrite := isWriter_projectTokens s
  obtain ⟨n, body, rfl, hnot⟩ := exists_units hunit line
  have hunits : ∀ c ∈ (List.replicate n unit).flatten, isMargin c = true := fun c =>
    isMargin_of_mem_units hunit
  have htabs : ∀ c ∈ List.replicate (min n 255) '\t', isMargin c = true := fun c hc => by
    rw [List.eq_of_mem_replicate hc]
    rfl
  rw [rewriteProject_append hunit hnot (isProjectLine_iff.1 hline).2, List.count_append,
    List.count_append, count_units hunit, List.count_replicate, if_neg (by decide), Nat.zero_add,
    Nat.zero_add]
  -- neither the units nor the tabs hold brackets, so it is the bodies that are compared
  refine ⟨(count_rewriteBody hwrite body).1, fun hcount => ?_⟩
  have hkeeps := keeps_of_count_eq hwrite hcount
  rw [isProjectLine_append hunits] at hline
  refine ⟨by rw [isProjectLine_append htabs]; exact hkeeps.isProjectLine hwrite hline,
    KeepsLine.intro hkeeps ?_ ?_ fun c hc => Or.inl (hunits c hc)⟩
  · exact fun hmem => absurd (List.eq_of_mem_replicate hmem) (by decide)
  · have : n * 1 ≤ n * unit.length :=
      Nat.mul_le_mul_left n (List.length_pos_iff.2 hunit.ne_nil)
    rw [List.length_replicate, length_units]
    omega

/-- A milestone that is left out has a block, and so a bracket. -/
theorem count_rewriteMilestone? (hline : isMilestoneLine line = true) :
    (rewriteMilestone? s line).elim 0 (List.count '[') ≤ line.count '[' ∧
      ((rewriteMilestone? s line).elim 0 (List.count '[') = line.count '[' →
        ∃ body, rewriteMilestone? s line = some ('|' :: body) ∧
          KeepsLine s (milestoneTokens s.layout) line ('|' :: body)) := by
  have hwrite := isWriter_milestoneTokens s
  obtain ⟨margin, body, rfl, hmargin, hrewrite⟩ := rewriteMilestone?_cases hline (s := s)
  have hzero : margin.count '[' = 0 :=
    List.count_eq_zero.2 fun hmem => absurd (hmargin '[' hmem) (by decide)
  have hcount : (margin ++ '|' :: body).count '[' = body.count '[' := by
    rw [List.count_append, hzero, Nat.zero_add, List.count_cons_of_ne (by decide)]
  rw [hrewrite, hcount]
  by_cases hend : (Extra.read s (splitExtra body).2).endAt.isSome = true
  · -- without a block there would be no date
    have hpos : 0 < body.count '[' := by
      by_contra hnone
      have hnot : '[' ∉ body := List.count_eq_zero.1 (by omega)
      rw [splitExtra_of_not_mem hnot] at hend
      cases hend
    rw [if_pos hend]
    refine ⟨Nat.zero_le _, fun h => ?_⟩
    have : 0 = body.count '[' := h
    omega
  · rw [if_neg hend]
    have hwritten : (some ('|' :: rewriteBody s (milestoneTokens s.layout) body)).elim 0
        (List.count '[') = (rewriteBody s (milestoneTokens s.layout) body).count '[' :=
      List.count_cons_of_ne (by decide)
    rw [hwritten]
    refine ⟨(count_rewriteBody hwrite body).1, fun h => ⟨_, rfl, ?_⟩⟩
    have hline : margin ++ '|' :: body = (margin ++ ['|']) ++ body := by simp
    rw [hline]
    show KeepsLine s _ _ (['|'] ++ rewriteBody s (milestoneTokens s.layout) body)
    refine KeepsLine.intro (keeps_of_count_eq hwrite h) (by decide) (by simp) fun c hc => ?_
    exact (List.mem_append.1 hc).imp (hmargin c) id

/-! ### Counting over the whole text -/

theorem sum_paragraphs {f : List Char → Nat} (hf : f [] = 0) (ps ms : List (List Char)) :
    ((paragraphs ps ms).map f).sum = (ps.map f).sum + (ms.map f).sum := by
  rw [paragraphs, List.map_append, List.map_append, List.sum_append, List.sum_append]
  split <;> simp [hf]

theorem sum_rewrittenMilestones (f : List Char → Nat) (s : Setting) (text : List Char) :
    ((rewrittenMilestones s text).map f).sum =
      ((milestoneLines text).map fun line => (rewriteMilestone? s line).elim 0 f).sum := by
  rw [rewrittenMilestones]
  induction milestoneLines text with
  | nil => rfl
  | cons line lines ih =>
    rw [List.filterMap_cons, List.map_cons, List.sum_cons, ← ih]
    rcases rewriteMilestone? s line with - | written
    · exact (Nat.zero_add _).symm
    · rfl

/-- A number of a text that adds up over its lines is the same for the lines
that are written for them, if the text is left alone. -/
theorem sum_eq_of_reformat_eq (h : reformat s text = text) {f F : List Char → Nat}
    (hblank : ∀ line, isBlankLine line = true → f line = 0)
    (hlines : ∀ text, ((linesOf text).map f).sum = F text)
    (hjoin : ∀ lines, F (['\n'].intercalate lines) = (lines.map F).sum) :
    ((projectLines text).map f).sum + ((milestoneLines text).map f).sum =
      ((projectLines text).map fun line =>
        F (rewriteProject s (unitOf (linesOf text)) line)).sum +
      ((milestoneLines text).map fun line => (rewriteMilestone? s line).elim 0 F).sum := by
  have hwritten : F text = ((rewrittenProjects s text).map F).sum +
      ((rewrittenMilestones s text).map F).sum := by
    rw [← sum_paragraphs (hjoin []), ← hjoin, ← reformat, h]
  rw [projectLines, milestoneLines, ← sum_kinds hblank, hlines, hwritten, sum_rewrittenMilestones,
    rewrittenProjects, List.map_map]
  rfl

/-- In a text that is left alone every line keeps its block. -/
theorem keepsLine_of_reformat_eq (h : reformat s text = text) :
    (∀ line ∈ projectLines text,
      isProjectLine (rewriteProject s (unitOf (linesOf text)) line) = true ∧
      KeepsLine s (projectTokens s.layout) line
        (rewriteProject s (unitOf (linesOf text)) line)) ∧
    ∀ line ∈ milestoneLines text, ∃ body, rewriteMilestone? s line = some ('|' :: body) ∧
      KeepsLine s (milestoneTokens s.layout) line ('|' :: body) := by
  have hprojects := fun line (hline : line ∈ projectLines text) =>
    count_rewriteProject (s := s) (isUnit_unitOf (linesOf text)) (List.mem_filter.1 hline).2
  have hmilestones := fun line (hline : line ∈ milestoneLines text) =>
    count_rewriteMilestone? (s := s) (List.mem_filter.1 hline).2
  have hblank : ∀ line, isBlankLine line = true → line.count '[' = 0 := fun line hline =>
    List.count_eq_zero.2 fun hmem => absurd (List.all_eq_true.1 hline '[' hmem) (by decide)
  -- the sums are equal and no term grows, so no term shrinks
  obtain ⟨heq, heq'⟩ := eq_of_sum_add_eq (fun line hline => (hprojects line hline).1)
    (fun line hline => (hmilestones line hline).1)
    (sum_eq_of_reformat_eq h hblank (sum_count_linesOf (by decide) (by decide))
      (count_intercalate (by decide)))
  exact ⟨fun line hline => (hprojects line hline).2 (heq line hline),
    fun line hline => (hmilestones line hline).2 (heq' line hline)⟩

/-- In a text that is left alone every line is written as so many lines that
hold something as it is itself. -/
theorem weight_eq_of_reformat_eq (h : reformat s text = text) :
    (∀ line ∈ projectLines text,
      weight line = fullLines (rewriteProject s (unitOf (linesOf text)) line)) ∧
    ∀ line ∈ milestoneLines text,
      weight line = (rewriteMilestone? s line).elim 0 fullLines := by
  obtain ⟨hprojects, hmilestones⟩ := keepsLine_of_reformat_eq h
  have hle : ∀ line ∈ projectLines text,
      weight line ≤ fullLines (rewriteProject s (unitOf (linesOf text)) line) :=
    fun line hline => (hprojects line hline).2.weight_le (isWriter_projectTokens s)
      (feed_not_mem_of_mem_linesOf (List.mem_filter.1 hline).1)
  have hle' : ∀ line ∈ milestoneLines text,
      weight line ≤ (rewriteMilestone? s line).elim 0 fullLines := by
    intro line hline
    obtain ⟨body, hbody, hkeeps⟩ := hmilestones line hline
    rw [hbody]
    exact hkeeps.weight_le (isWriter_milestoneTokens s)
      (feed_not_mem_of_mem_linesOf (List.mem_filter.1 hline).1)
  have hblank : ∀ line, isBlankLine line = true → weight line = 0 := fun line hline =>
    if_pos hline
  exact eq_of_sum_add_eq hle hle'
    (sum_eq_of_reformat_eq h hblank sum_weight_linesOf fullLines_intercalate).symm

/-- In a text that is left alone no written line holds a line feed. -/
theorem feed_not_mem_of_reformat_eq (h : reformat s text = text) :
    ∀ line ∈ rewrittenProjects s text ++ rewrittenMilestones s text, '\n' ∉ line := by
  obtain ⟨hprojects, hmilestones⟩ := keepsLine_of_reformat_eq h
  obtain ⟨heq, heq'⟩ := weight_eq_of_reformat_eq h
  have hone : ∀ line, weight line ≤ 1 := fun line => by
    rw [weight]
    split <;> decide
  -- a line feed would make two full lines of one
  intro written hwritten hmem
  rcases List.mem_append.1 hwritten with hwritten | hwritten
  · obtain ⟨line, hline, rfl⟩ := List.mem_map.1 hwritten
    have hfeed : '\n' ∉ line := feed_not_mem_of_mem_linesOf (List.mem_filter.1 hline).1
    have hlong := (hprojects line hline).2.one_lt_fullLines (isWriter_projectTokens s) hfeed hmem
    have hsame := heq line hline
    have := hone line
    omega
  · obtain ⟨line, hline, hrewrite⟩ := List.mem_filterMap.1 hwritten
    have hfeed : '\n' ∉ line := feed_not_mem_of_mem_linesOf (List.mem_filter.1 hline).1
    obtain ⟨body, hbody, hkeeps⟩ := hmilestones line hline
    obtain rfl := Option.some.inj (hrewrite.symm.trans hbody)
    have hlong := hkeeps.one_lt_fullLines (isWriter_milestoneTokens s) hfeed hmem
    have hsame : weight line = fullLines ('|' :: body) := by
      have := heq' line hline
      rwa [hbody] at this
    have := hone line
    omega

/-- What is rewritten to itself, one by one. -/
theorem filterMap_eq_self {α : Type} {f : α → Option α} {l : List α} (h : l.filterMap f = l) :
    ∀ x ∈ l, f x = some x := by
  induction l with
  | nil => intro x hx; cases hx
  | cons y l ih =>
    rw [List.filterMap_cons] at h
    rcases hy : f y with - | z
    · rw [hy] at h
      have hlen := congrArg List.length h
      have hle := List.length_filterMap_le f l
      simp only [List.length_cons] at hlen
      omega
    · rw [hy] at h
      obtain ⟨rfl, hl⟩ := List.cons.inj h
      intro x hx
      rcases List.mem_cons.1 hx with rfl | hx
      · exact hy
      · exact ih hl x hx

/-! ### Texts that are left alone -/

theorem isProjectLine_of_mem_rewrittenProjects (h : reformat s text = text) :
    ∀ line ∈ rewrittenProjects s text, isProjectLine line = true := by
  intro line hline
  obtain ⟨source, hsource, rfl⟩ := List.mem_map.1 hline
  exact ((keepsLine_of_reformat_eq h).1 source hsource).1

theorem isMilestoneLine_of_mem_rewrittenMilestones (h : reformat s text = text) :
    ∀ line ∈ rewrittenMilestones s text, isMilestoneLine line = true := by
  intro line hline
  obtain ⟨source, hsource, hrewrite⟩ := List.mem_filterMap.1 hline
  obtain ⟨body, hbody, -⟩ := (keepsLine_of_reformat_eq h).2 source hsource
  obtain rfl := Option.some.inj (hrewrite.symm.trans hbody)
  exact isMilestoneLine_cons body

/-- The lines of the text are the written lines, up to carriage returns. -/
theorem linesOf_of_reformat_eq (h : reformat s text = text) :
    linesOf text =
      (paragraphs (rewrittenProjects s text) (rewrittenMilestones s text)).map dropReturn := by
  have hne := ne_nil_of_kinds (isProjectLine_of_mem_rewrittenProjects h)
    (isMilestoneLine_of_mem_rewrittenMilestones h)
  have hfeed : ∀ line ∈ paragraphs (rewrittenProjects s text) (rewrittenMilestones s text),
      '\n' ∉ line := by
    intro line hline
    rcases mem_paragraphs hline with hline | rfl
    · exact feed_not_mem_of_reformat_eq h line hline
    · simp
  conv => lhs; rw [← h]
  exact linesOf_intercalate hfeed (paragraphs_ne hne)

theorem projectLines_of_reformat_eq (h : reformat s text = text) :
    projectLines text = (rewrittenProjects s text).map dropReturn := by
  have hkind : isProjectLine ∘ dropReturn = isProjectLine := funext isProjectLine_dropReturn
  rw [projectLines, linesOf_of_reformat_eq h, List.filter_map, hkind,
    filter_isProjectLine_paragraphs (isProjectLine_of_mem_rewrittenProjects h)
      (isMilestoneLine_of_mem_rewrittenMilestones h)]

theorem milestoneLines_of_reformat_eq (h : reformat s text = text) :
    milestoneLines text = (rewrittenMilestones s text).map dropReturn := by
  have hkind : isMilestoneLine ∘ dropReturn = isMilestoneLine := funext isMilestoneLine_dropReturn
  rw [milestoneLines, linesOf_of_reformat_eq h, List.filter_map, hkind,
    filter_isMilestoneLine_paragraphs (isProjectLine_of_mem_rewrittenProjects h)
      (isMilestoneLine_of_mem_rewrittenMilestones h)]

/-- Every written project is what its own line is rewritten to. -/
theorem rewriteProject_dropReturn (h : reformat s text = text) :
    ∀ line ∈ rewrittenProjects s text,
      rewriteProject s (unitOf (linesOf text)) (dropReturn line) = line := by
  have hmap : (rewrittenProjects s text).map
      (rewriteProject s (unitOf (linesOf text)) ∘ dropReturn) =
      (rewrittenProjects s text).map id := by
    rw [List.map_id, ← List.map_map, ← projectLines_of_reformat_eq h]
    rfl
  exact List.map_inj_left.1 hmap

/-- Every written milestone is what its own line is rewritten to. -/
theorem rewriteMilestone?_dropReturn (h : reformat s text = text) :
    ∀ line ∈ rewrittenMilestones s text, rewriteMilestone? s (dropReturn line) = some line := by
  have hmap : (rewrittenMilestones s text).filterMap (rewriteMilestone? s ∘ dropReturn) =
      rewrittenMilestones s text := by
    rw [← List.filterMap_map, ← milestoneLines_of_reformat_eq h]
    rfl
  exact filterMap_eq_self hmap

theorem getLast?_ne_of_reformat_eq (h : reformat s text = text) :
    ∀ line ∈ rewrittenProjects s text ++ rewrittenMilestones s text,
      line.getLast? ≠ some '\r' := by
  obtain ⟨hprojects, hmilestones⟩ := keepsLine_of_reformat_eq h
  rw [projectLines_of_reformat_eq h] at hprojects
  rw [milestoneLines_of_reformat_eq h] at hmilestones
  intro line hmem
  rcases List.mem_append.1 hmem with hmem | hmem
  · have hkeeps := (hprojects _ (List.mem_map_of_mem hmem)).2
    rw [rewriteProject_dropReturn h line hmem] at hkeeps
    exact hkeeps.getLast?_ne (isWriter_projectTokens s)
  · obtain ⟨body, hbody, hkeeps⟩ := hmilestones _ (List.mem_map_of_mem hmem)
    have hself := rewriteMilestone?_dropReturn h line hmem
    obtain rfl := Option.some.inj (hself.symm.trans hbody)
    exact hkeeps.getLast?_ne (isWriter_milestoneTokens s)

/-- A text that is left alone is canonical. -/
theorem isCanonical_of_reformat_eq (h : reformat s text = text) : IsCanonical s text := by
  have hp := isProjectLine_of_mem_rewrittenProjects h
  have hm := isMilestoneLine_of_mem_rewrittenMilestones h
  have hfeed := feed_not_mem_of_reformat_eq h
  have hreturn := getLast?_ne_of_reformat_eq h
  -- no line ends with a carriage return, so none is dropped
  have hlines : linesOf text =
      paragraphs (rewrittenProjects s text) (rewrittenMilestones s text) := by
    conv => lhs; rw [← h]
    exact linesOf_paragraphs (ne_nil_of_kinds hp hm) hfeed hreturn
  refine ⟨rewrittenProjects s text, rewrittenMilestones s text, h.symm,
    fun line hmem => ⟨hfeed line hmem, hreturn line hmem⟩, ?_, ?_⟩
  · intro line hmem
    refine ⟨hp line hmem, ?_⟩
    have hkind := (isProjectLine_iff.1 (hp line hmem)).2
    have hself := rewriteProject_dropReturn h line hmem
    rw [dropReturn_eq_self (hreturn line (List.mem_append_left _ hmem)), hlines] at hself
    exact (rewriteProject_eq_self_iff (isUnit_unitOf _) hkind).1 hself
  · intro line hmem
    have hself := rewriteMilestone?_dropReturn h line hmem
    rw [dropReturn_eq_self (hreturn line (List.mem_append_right _ hmem))] at hself
    exact (rewriteMilestone?_eq_self_iff (hm line hmem)).1 hself

theorem reformat_eq_self_iff : reformat s text = text ↔ IsCanonical s text :=
  ⟨isCanonical_of_reformat_eq, reformat_of_isCanonical⟩

end TextRoadmap.Outline

namespace TextRoadmap

open TextRoadmap.Outline TextRoadmap.Calendar

/-- **Writing an outline again leaves it alone exactly if it is canonical.** -/
theorem Roadmap.outline_ofOutline_eq_iff (h : Heading) (now : Instant) (text : String) :
    (Roadmap.ofOutline h now text).outline = text ↔ IsCanonical h.setting text.toList := by
  rw [← reformat_eq_self_iff, reformat, rewrittenProjects, rewrittenMilestones, projectLines,
    milestoneLines, ← toList_outline_ofOutline h now text, String.toList_inj]

/-- Reading and writing the outline of a roadmap that was read from a text
leaves it alone exactly if it is canonical. -/
theorem Roadmap.reread_outline_eq_iff (h : Heading) (now : Instant) (text : String) :
    (Roadmap.ofOutline h now text).reread.outline = (Roadmap.ofOutline h now text).outline ↔
      IsCanonical h.setting (Roadmap.ofOutline h now text).outline.toList :=
  Roadmap.outline_ofOutline_eq_iff h now (Roadmap.ofOutline h now text).outline

/-- A block that means nothing uncovers the brackets in front of it. -/
theorem Roadmap.reread_two_blocks :
    let r := Roadmap.ofOutline ⟨0, none, "", .standard, ""⟩ (.startOf ⟨2024, 1, 1, by decide⟩)
      "A [x] [y]"
    r.outline = "A [x]" ∧ r.reread.outline = "A" ∧ r.reread.outline ≠ r.outline := by
  decide +kernel

end TextRoadmap
