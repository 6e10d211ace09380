/-
TextRoadmap/Proofs/Outline/Arrangement.lean

How the lines of an outline are arranged does not matter.

Of the lines of a text only three things are read: the unit that they show,
the lines of the projects and the lines of the milestones (`Reading`).  The
changes listed in `Rearranges` leave all three alone: lines of blanks and
tabs, a line feed at the end, carriage returns at the ends of lines, and the
places of milestones that are not indented.

That a single change does so is `reading_eq_of_rearranges`; any number of
changes, made or taken back, is the equivalence that they generate
(`Roadmap.ofOutline_eq_of_rearranged`).
-/
import Mathlib.Logic.Relation
import TextRoadmap.Outline.Basic
import TextRoadmap.Proofs.Outline.Line

namespace TextRoadmap

open TextRoadmap.Text TextRoadmap.Calendar

namespace Outline

variable {line : List Char} {before after lines lines' : List (List Char)}
variable {text text' : List Char}

/-! ### Changes to the arrangement -/

/-- The text is made of the lines, any of which can have a carriage return at
its end besides. -/
def IsTextOf (lines : List (List Char)) (text : List Char) : Prop :=
  ∃ whole : List (List Char), (∀ line ∈ whole, '\n' ∉ line) ∧ whole.map dropReturn = lines ∧
    ['\n'].intercalate whole = text

/-- The text with a carriage return in front of each line feed. -/
def withReturns (text : List Char) : List Char :=
  text.flatMap fun c => if c = '\n' then ['\r', '\n'] else [c]

/-- Does the line begin with the mark of a milestone? -/
def isFlushMilestone (line : List Char) : Bool := line.head? = some '|'

/-- One change to the arrangement of a text. -/
inductive Rearranges : List Char → List Char → Prop
  /-- A line of blanks and tabs is put anywhere between the lines. -/
  | blank {before after : List (List Char)} {line text text' : List Char} :
      IsTextOf (before ++ after) text → IsTextOf (before ++ line :: after) text' →
      (∀ c ∈ line, c = ' ' ∨ c = '\t') → Rearranges text text'
  /-- A line feed is put at the end. -/
  | feed (text : List Char) : Rearranges text (text ++ ['\n'])
  /-- A text without carriage returns gets one in front of each line feed. -/
  | returns {text : List Char} : '\r' ∉ text → Rearranges text (withReturns text)
  /-- Milestones that are not indented are moved.  The other lines stay in
  their order, and so do the milestones among themselves. -/
  | move {lines lines' : List (List Char)} {text text' : List Char} :
      IsTextOf lines text → IsTextOf lines' text' →
      lines'.filter (!isFlushMilestone ·) = lines.filter (!isFlushMilestone ·) →
      lines'.filter isMilestoneLine = lines.filter isMilestoneLine → Rearranges text text'

/-! ### What is read of lines -/

/-- All that is read of the lines of a text. -/
structure Reading where
  unit : List Char
  projects : List (List Char)
  milestones : List (List Char)

def Reading.of (lines : List (List Char)) : Reading :=
  ⟨unitOf lines, lines.filter isProjectLine, lines.filter isMilestoneLine⟩

/-- A line of blanks and tabs is not read. -/
theorem reading_blank (hline : ∀ c ∈ line, c = ' ' ∨ c = '\t')
    (before after : List (List Char)) :
    Reading.of (before ++ line :: after) = Reading.of (before ++ after) := by
  have hindent : ∀ c ∈ line, isIndent c = true := by simpa [isIndent] using hline
  have hmargin : ∀ c ∈ line, isMargin c = true := fun c hc => isMargin_of_isIndent (hindent c hc)
  have hunit : shownUnit? line = none := by
    rw [shownUnit?, List.all_eq_true.2 hindent]
    rfl
  have hproject : isProjectLine line = false := by
    rw [isProjectLine, isBlankLine, List.all_eq_true.2 hmargin]
    rfl
  have hmilestone : isMilestoneLine line = false := by
    rw [isMilestoneLine, List.dropWhile_eq_nil_iff.2 hmargin]
    rfl
  simp [Reading.of, unitOf, List.filter_append, hunit, hproject, hmilestone]

/-- A milestone that is not indented shows no unit. -/
theorem shownUnit?_of_isFlushMilestone (h : isFlushMilestone line = true) :
    shownUnit? line = none := by
  obtain ⟨body, rfl⟩ := List.head?_eq_some_iff.1 (of_decide_eq_true h)
  exact shownUnit?_milestone body

theorem isMilestoneLine_of_isFlushMilestone (h : isFlushMilestone line = true) :
    isMilestoneLine line = true := by
  obtain ⟨body, rfl⟩ := List.head?_eq_some_iff.1 (of_decide_eq_true h)
  exact isMilestoneLine_cons body

/-- Lines that show no unit can be left out when it is looked for. -/
theorem unitOf_filter {p : List Char → Bool} (h : ∀ line, p line = false → shownUnit? line = none)
    (lines : List (List Char)) : unitOf (lines.filter p) = unitOf lines := by
  have hfind : (lines.filter p).findSome? shownUnit? = lines.findSome? shownUnit? := by
    induction lines with
    | nil => rfl
    | cons line lines ih =>
      cases hp : p line with
      | true => rw [List.filter_cons_of_pos hp, List.findSome?_cons, List.findSome?_cons, ih]
      | false => simp [hp, h line hp, ih]
  rw [unitOf, unitOf, hfind]

/-- Where the milestones that are not indented stand is not read. -/
theorem reading_move
    (hothers : lines'.filter (!isFlushMilestone ·) = lines.filter (!isFlushMilestone ·))
    (hmilestones : lines'.filter isMilestoneLine = lines.filter isMilestoneLine) :
    Reading.of lines' = Reading.of lines := by
  have hunit : ∀ l, unitOf (l.filter (!isFlushMilestone ·)) = unitOf l :=
    unitOf_filter fun line h => shownUnit?_of_isFlushMilestone (by simpa using h)
  -- the lines of the projects are among those that stay
  have hprojects : ∀ l : List (List Char),
      (l.filter (!isFlushMilestone ·)).filter isProjectLine = l.filter isProjectLine := by
    intro l
    rw [List.filter_filter]
    refine List.filter_congr fun line _ => ?_
    cases hflush : isFlushMilestone line with
    | false => simp
    | true => simp [isProjectLine_of_isMilestoneLine (isMilestoneLine_of_isFlushMilestone hflush)]
  rw [Reading.of, Reading.of, ← hunit lines', ← hunit lines, ← hprojects lines',
    ← hprojects lines, hothers, hmilestones]

/-! ### Texts of lines -/

/-- A text is read as its lines are. -/
theorem IsTextOf.reading_eq (h : IsTextOf lines text) :
    Reading.of (linesOf text) = Reading.of lines := by
  obtain ⟨whole, hfeed, rfl, rfl⟩ := h
  by_cases hone : whole = [[]]
  · -- the empty text has no lines, which is read like one empty line
    subst hone
    have hempty : ∀ c ∈ [], c = ' ' ∨ c = '\t' := by simp
    exact (reading_blank hempty [] []).symm
  · rw [linesOf_intercalate hfeed hone]

theorem isTextOf_splitOn (text : List Char) :
    IsTextOf ((text.splitOn '\n').map dropReturn) text :=
  ⟨_, fun _ => feed_not_mem_of_mem_splitOn, rfl, List.intercalate_splitOn '\n'⟩

/-- Another line in front. -/
theorem IsTextOf.cons (h : IsTextOf lines text) (hne : lines ≠ []) (hline : '\n' ∉ line) :
    IsTextOf (dropReturn line :: lines) (line ++ '\n' :: text) := by
  obtain ⟨whole, hfeed, rfl, rfl⟩ := h
  refine ⟨line :: whole, List.forall_mem_cons.2 ⟨hline, hfeed⟩, rfl, ?_⟩
  exact intercalate_cons line (by simpa using hne)

/-- A line feed at the end begins an empty line. -/
theorem IsTextOf.feed (h : IsTextOf lines text) (hne : lines ≠ []) :
    IsTextOf (lines ++ [[]]) (text ++ ['\n']) := by
  obtain ⟨whole, hfeed, rfl, rfl⟩ := h
  have hwhole : whole ≠ [] := by simpa using hne
  clear hne
  -- along the lines, since the new one stands behind all of them
  induction whole with
  | nil => exact absurd rfl hwhole
  | cons line whole ih =>
    rw [List.forall_mem_cons] at hfeed
    by_cases hlast : whole = []
    · subst hlast
      exact ⟨[line, []], by simpa using hfeed.1, rfl, by simp [List.intercalate]⟩
    · have hrest := (ih hfeed.2 hlast).cons (by simp) hfeed.1
      rw [intercalate_cons line hlast]
      simpa using hrest

theorem withReturns_eq_self (h : '\n' ∉ text) : withReturns text = text := by
  induction text with
  | nil => rfl
  | cons c text ih =>
    simp only [List.mem_cons, not_or] at h
    have hc : c ≠ '\n' := Ne.symm h.1
    have ih := ih h.2
    rw [withReturns] at ih ⊢
    simp [hc, ih]

theorem withReturns_append (before after : List Char) :
    withReturns (before ++ '\n' :: after) =
      withReturns before ++ '\r' :: '\n' :: withReturns after := by
  simp [withReturns]

/-- Carriage returns that are put at the ends of lines are dropped with them. -/
theorem isTextOf_withReturns (hne : lines ≠ [])
    (h : ∀ line ∈ lines, '\n' ∉ line ∧ '\r' ∉ line) :
    IsTextOf lines (withReturns (['\n'].intercalate lines)) := by
  induction lines with
  | nil => exact absurd rfl hne
  | cons line lines ih =>
    obtain ⟨⟨hfeed, hreturn⟩, hrest⟩ := List.forall_mem_cons.1 h
    by_cases hlast : lines = []
    · subst hlast
      have hself : dropReturn line = line :=
        dropReturn_eq_self fun hc => hreturn (List.mem_of_getLast? hc)
      rw [List.intercalate_singleton, withReturns_eq_self hfeed]
      exact ⟨[line], by simpa using hfeed, by simp [hself], List.intercalate_singleton⟩
    · have hline : '\n' ∉ line ++ ['\r'] := by simpa using hfeed
      have hcons := (ih hlast hrest).cons hlast hline
      rw [dropReturn_concat] at hcons
      rw [intercalate_cons line hlast, withReturns_append, withReturns_eq_self hfeed]
      simpa using hcons

/-! ### Any number of changes -/

/-- A single change is not read. -/
theorem reading_eq_of_rearranges (h : Rearranges text text') :
    Reading.of (linesOf text) = Reading.of (linesOf text') := by
  cases h with
  | blank htext htext' hline =>
    rw [htext.reading_eq, htext'.reading_eq, reading_blank hline]
  | feed =>
    have hne : (text.splitOn '\n').map dropReturn ≠ [] := by
      rw [Ne, List.map_eq_nil_iff]
      exact List.splitOn_ne_nil '\n' text
    have htext := isTextOf_splitOn text
    rw [htext.reading_eq, (htext.feed hne).reading_eq, reading_blank (by simp), List.append_nil]
  | returns hreturn =>
    -- no line has a carriage return before, so none is dropped
    have hlines : ∀ line ∈ text.splitOn '\n', '\n' ∉ line ∧ '\r' ∉ line := by
      intro line hline
      have htext : ['\n'].intercalate (text.splitOn '\n') = text := List.intercalate_splitOn '\n'
      refine ⟨feed_not_mem_of_mem_splitOn hline, fun hc => hreturn ?_⟩
      rw [← htext]
      exact mem_intercalate_of_mem ['\n'] hline hc
    have hself : (text.splitOn '\n').map dropReturn = text.splitOn '\n' := by
      refine (List.map_congr_left fun line hline => ?_).trans (List.map_id _)
      exact dropReturn_eq_self fun hc => (hlines line hline).2 (List.mem_of_getLast? hc)
    have htext := isTextOf_splitOn text
    have htext' := isTextOf_withReturns (List.splitOn_ne_nil '\n' text) hlines
    rw [List.intercalate_splitOn] at htext'
    rw [htext.reading_eq, htext'.reading_eq, hself]
  | move htext htext' hothers hmilestones =>
    rw [htext.reading_eq, htext'.reading_eq, reading_move hothers hmilestones]

/-- Nor are several changes, some of them taken back. -/
theorem reading_eq_of_rearranged (h : Relation.EqvGen Rearranges text text') :
    Reading.of (linesOf text) = Reading.of (linesOf text') := by
  induction h with
  | rel _ _ h => exact reading_eq_of_rearranges h
  | refl _ => rfl
  | symm _ _ _ ih => exact ih.symm
  | trans _ _ _ _ _ ih ih' => exact ih.trans ih'

end Outline

open Outline

/-- **The arrangement of an outline does not matter**: texts that come from
each other by changes to their arrangement, made or taken back in any number
and order, show the same roadmap. -/
theorem Roadmap.ofOutline_eq_of_rearranged {text text' : String}
    (h : Relation.EqvGen Rearranges text.toList text'.toList) (heading : Heading)
    (now : Instant) : Roadmap.ofOutline heading now text = Roadmap.ofOutline heading now text' := by
  obtain ⟨hunit, hprojects, hmilestones⟩ := Reading.mk.inj (reading_eq_of_rearranged h)
  rw [Roadmap.ofOutline, Roadmap.ofOutline, readProjects, readProjects, readMilestones,
    readMilestones, hunit, hprojects, hmilestones]

/-- The text gets a line feed, the milestone goes in front, a line of blanks
follows it, and all lines get carriage returns. -/
theorem Roadmap.ofOutline_eq_milestone_in_front :
    let text := "Epic\n  Task [50%]\n|Done"
    let text' := "|Done\r\n \t\r\nEpic\r\n  Task [50%]\r\n"
    let heading : Heading := ⟨0, none, "Plan", .standard, ""⟩
    let now : Instant := .startOf ⟨2025, 1, 1, by decide⟩
    Relation.EqvGen Rearranges text.toList text'.toList ∧
      Roadmap.ofOutline heading now text = Roadmap.ofOutline heading now text' ∧
      (Roadmap.ofOutline heading now text').projects.map (·.indentation) = [0, 1] := by
  intro text text' heading now
  let epic := "Epic".toList
  let task := "  Task [50%]".toList
  let done := "|Done".toList
  have hfeed : Rearranges text.toList "Epic\n  Task [50%]\n|Done\n".toList := by
    rw [show "Epic\n  Task [50%]\n|Done\n".toList = text.toList ++ ['\n'] by decide]
    exact .feed _
  have hmove : Rearranges "Epic\n  Task [50%]\n|Done\n".toList
      "|Done\nEpic\n  Task [50%]\n".toList := by
    have htext : IsTextOf [epic, task, done, []] "Epic\n  Task [50%]\n|Done\n".toList :=
      ⟨[epic, task, done, []], by decide, by decide, by decide⟩
    have htext' : IsTextOf [done, epic, task, []] "|Done\nEpic\n  Task [50%]\n".toList :=
      ⟨[done, epic, task, []], by decide, by decide, by decide⟩
    exact .move htext htext' (by decide) (by decide)
  have hblank : Rearranges "|Done\nEpic\n  Task [50%]\n".toList
      "|Done\n \t\nEpic\n  Task [50%]\n".toList := by
    have htext : IsTextOf ([done] ++ [epic, task, []]) "|Done\nEpic\n  Task [50%]\n".toList :=
      ⟨[done, epic, task, []], by decide, by decide, by decide⟩
    have htext' : IsTextOf ([done] ++ [' ', '\t'] :: [epic, task, []])
        "|Done\n \t\nEpic\n  Task [50%]\n".toList :=
      ⟨[done, [' ', '\t'], epic, task, []], by decide, by decide, by decide⟩
    exact .blank htext htext' (by simp)
  have hreturns : Rearranges "|Done\n \t\nEpic\n  Task [50%]\n".toList text'.toList := by
    rw [show text'.toList = withReturns "|Done\n \t\nEpic\n  Task [50%]\n".toList by decide]
    exact .returns (by decide)
  have h : Relation.EqvGen Rearranges text.toList text'.toList :=
    .trans _ _ _ (.rel _ _ hfeed) (.trans _ _ _ (.rel _ _ hmove)
      (.trans _ _ _ (.rel _ _ hblank) (.rel _ _ hreturns)))
  exact ⟨h, Roadmap.ofOutline_eq_of_rearranged h heading now, by decide +kernel⟩

end TextRoadmap
