/-
TextRoadmap/Proofs/Outline/Indentation.lean

The unit of indentation does not matter.

A text is made of rows, each with a depth and a body that begins where the
indentation ends (`Row`).  Written with a unit in front of each body, as often
as its row is deep, the rows can be read off the lines again whatever the
unit is (`readProjects_rows`, `readMilestones_rows`).

What is to be shown is that the unit is found.  It is all the indentation of
the first indented line, so that line has to be one unit deep
(`unitOf_rows`).  Where no line is indented any unit will do
(`Row.line_unitOf`).
-/
import Mathlib.Data.List.Forall2
import TextRoadmap.Outline.Basic
import TextRoadmap.Proofs.Outline.Rewrite

namespace TextRoadmap

open TextRoadmap.Text TextRoadmap.Calendar

namespace Outline

/-! ### Rows -/

/-- A row of an outline: how deep it stands and what it says. -/
structure Row where
  depth : Nat
  body : List Char
  body_ne_nil : body ≠ [] := by decide
  head?_body : ∀ c ∈ body.head?, isIndent c = false := by simp [isIndent]
  feed_not_mem_body : '\n' ∉ body := by decide
  getLast?_body : body.getLast? ≠ some '\r' := by decide

/-- The row as a line, with the unit once for each step of its depth. -/
def Row.line (unit : List Char) (row : Row) : List Char :=
  (List.replicate row.depth unit).flatten ++ row.body

/-- The rows as a text. -/
def rowsText (unit : List Char) (rows : List Row) : String :=
  String.ofList (['\n'].intercalate (rows.map (Row.line unit)))

/-- The first row that is indented is one unit deep. -/
def ShowsUnit (rows : List Row) : Prop := ∀ row ∈ rows.find? (0 < ·.depth), row.depth = 1

/-- The project is the one of the row: it stands as deep, as far as a depth
goes, and a body without a block is its title. -/
structure Row.IsReadAs (row : Row) (p : Project) : Prop where
  depth : p.indentation.toNat = min row.depth 255
  title : NoBlock row.body → p.title = String.ofList row.body

variable {unit : List Char} {row : Row} {rows : List Row}

/-! ### The line of a row -/

theorem Row.not_isPrefix (hunit : IsUnit unit) (row : Row) : ¬ unit <+: row.body := by
  rintro ⟨rest, hrest⟩
  obtain ⟨c, tail, rfl⟩ := List.exists_cons_of_ne_nil hunit.ne_nil
  have hhead := row.head?_body c (by rw [← hrest]; rfl)
  rw [hunit.indents c (List.mem_cons_self ..)] at hhead
  cases hhead

theorem Row.line_ne_nil (unit : List Char) (row : Row) : row.line unit ≠ [] := by
  simp [Row.line, row.body_ne_nil]

theorem Row.feed_not_mem_line (hunit : IsUnit unit) (row : Row) : '\n' ∉ row.line unit := by
  rw [Row.line, List.mem_append, not_or]
  exact ⟨fun hc => absurd (isIndent_of_mem_units hunit hc) (by decide), row.feed_not_mem_body⟩

theorem Row.dropReturn_line (unit : List Char) (row : Row) :
    dropReturn (row.line unit) = row.line unit := by
  refine dropReturn_eq_self ?_
  rw [Row.line, List.getLast?_append_of_ne_nil _ row.body_ne_nil]
  exact row.getLast?_body

/-- The lines of the text are those of the rows. -/
theorem linesOf_rows (hunit : IsUnit unit) (rows : List Row) :
    linesOf (['\n'].intercalate (rows.map (Row.line unit))) = rows.map (Row.line unit) := by
  have hfeed : ∀ line ∈ rows.map (Row.line unit), '\n' ∉ line := by
    intro line hline
    obtain ⟨row, -, rfl⟩ := List.mem_map.1 hline
    exact row.feed_not_mem_line hunit
  have hne : rows.map (Row.line unit) ≠ [[]] := by
    intro h
    obtain ⟨row, -, hrow⟩ := List.mem_map.1 (h ▸ List.mem_singleton_self [])
    exact row.line_ne_nil unit hrow
  rw [linesOf_intercalate hfeed hne, List.map_map]
  exact List.map_congr_left fun row _ => row.dropReturn_line unit

theorem Row.isProjectLine_line (hunit : IsUnit unit) (row : Row) :
    isProjectLine (row.line unit) = isProjectLine row.body :=
  isProjectLine_append (fun _ => isMargin_of_mem_units hunit) row.body

theorem Row.isMilestoneLine_line (hunit : IsUnit unit) (row : Row) :
    isMilestoneLine (row.line unit) = isMilestoneLine row.body :=
  isMilestoneLine_append (fun _ => isMargin_of_mem_units hunit) row.body

/-- An indented row shows all its indentation. -/
theorem Row.shownUnit?_line (hunit : IsUnit unit) (row : Row) :
    shownUnit? (row.line unit) =
      if row.depth = 0 then none else some (List.replicate row.depth unit).flatten := by
  rw [Row.line, shownUnit?_append (fun _ => isIndent_of_mem_units hunit) row.body_ne_nil
    row.head?_body]
  simp [List.flatten_eq_nil_iff, List.mem_replicate, hunit.ne_nil]

/-! ### The unit is found -/

/-- The unit that is found is all the indentation of the first indented row. -/
theorem findSome?_shownUnit?_rows (hunit : IsUnit unit) (rows : List Row) :
    (rows.map (Row.line unit)).findSome? shownUnit? =
      (rows.find? (0 < ·.depth)).map fun row => (List.replicate row.depth unit).flatten := by
  induction rows with
  | nil => rfl
  | cons row rows ih =>
    rw [List.map_cons, List.findSome?_cons, row.shownUnit?_line hunit, List.find?_cons]
    by_cases hdepth : row.depth = 0
    · simp [hdepth, ih]
    · simp [hdepth, Nat.pos_of_ne_zero hdepth]

/-- The unit is found, or no row is indented. -/
theorem unitOf_rows (hunit : IsUnit unit) (hrows : ShowsUnit rows) :
    unitOf (rows.map (Row.line unit)) = unit ∨ ∀ row ∈ rows, row.depth = 0 := by
  rw [unitOf, findSome?_shownUnit?_rows hunit]
  rcases hfind : rows.find? (0 < ·.depth) with - | first
  · exact Or.inr (by simpa using hfind)
  · -- one unit deep, the first indented row shows the unit itself
    rw [hfind, Option.map_some, hrows first hfind]
    exact Or.inl (by simp)

/-- With the unit that is found the lines are what they are. -/
theorem Row.line_unitOf (hunit : IsUnit unit) (hrows : ShowsUnit rows) (hrow : row ∈ rows) :
    row.line (unitOf (rows.map (Row.line unit))) = row.line unit := by
  rcases unitOf_rows hunit hrows with h | h
  · rw [h]
  · rw [Row.line, Row.line, h row hrow]
    rfl

/-! ### Reading the rows -/

/-- The projects are those of the bodies at their depths. -/
theorem readProjects_rows (hunit : IsUnit unit) (hrows : ShowsUnit rows) (s : Setting) :
    readProjects s (rows.map (Row.line unit)) =
      (rows.filter (isProjectLine ·.body)).map fun row => projectAt s row.depth row.body := by
  have hkind : isProjectLine ∘ Row.line unit = fun row => isProjectLine row.body :=
    funext fun row => row.isProjectLine_line hunit
  rw [readProjects, List.filter_map, hkind, List.map_map]
  refine List.map_congr_left fun row hrow => ?_
  obtain ⟨hmem, hproject⟩ := List.mem_filter.1 hrow
  -- the unit that is found need not be the one of the text, if no row is indented
  have hfound := isUnit_unitOf (rows.map (Row.line unit))
  rw [Function.comp_apply, ← Row.line_unitOf hunit hrows hmem]
  exact readProject_append hfound (row.not_isPrefix hfound) (isProjectLine_iff.1 hproject).2

/-- The milestones are those of the bodies. -/
theorem readMilestones_rows (hunit : IsUnit unit) (s : Setting) (rows : List Row) :
    readMilestones s (rows.map (Row.line unit)) =
      (rows.filter (isMilestoneLine ·.body)).filterMap fun row => readMilestone s row.body := by
  have hkind : isMilestoneLine ∘ Row.line unit = fun row => isMilestoneLine row.body :=
    funext fun row => row.isMilestoneLine_line hunit
  rw [readMilestones, List.filter_map, hkind, List.filterMap_map]
  refine List.filterMap_congr fun row _ => ?_
  exact readMilestone_append (fun _ => isMargin_of_mem_units hunit) s row.body

theorem Row.isReadAs_projectAt (s : Setting) (row : Row) :
    row.IsReadAs (projectAt s row.depth row.body) where
  depth := toNat_indentation_projectAt s row.depth row.body
  title hno := by rw [projectAt, splitExtra_of_noBlock hno]

end Outline

open Outline

/-- **The unit of indentation does not matter**: rows of which the first
indented one is one unit deep show the same roadmap with every unit, and each
project has the depth of its row and, without a block, its body as title. -/
theorem Roadmap.ofOutline_rowsText {u v : List Char} {rows : List Row} (hu : IsUnit u)
    (hv : IsUnit v) (hrows : ShowsUnit rows) (heading : Heading) (now : Instant) :
    Roadmap.ofOutline heading now (rowsText u rows) =
      Roadmap.ofOutline heading now (rowsText v rows) ∧
    List.Forall₂ Row.IsReadAs (rows.filter (isProjectLine ·.body))
      (Roadmap.ofOutline heading now (rowsText u rows)).projects := by
  constructor
  · simp only [Roadmap.ofOutline, rowsText, String.toList_ofList, linesOf_rows hu, linesOf_rows hv,
      readProjects_rows hu hrows, readProjects_rows hv hrows, readMilestones_rows hu,
      readMilestones_rows hv]
  · simp only [Roadmap.ofOutline, rowsText, String.toList_ofList, linesOf_rows hu,
      readProjects_rows hu hrows, List.forall₂_map_right_iff, List.forall₂_same]
    exact fun row _ => row.isReadAs_projectAt heading.setting

/-- A milestone shows the unit, which stands three times in front of a task. -/
theorem Roadmap.ofOutline_rowsText_milestone_first :
    let epic : Row := { depth := 0, body := "Epic".toList }
    let done : Row := { depth := 1, body := "|Done".toList }
    let task : Row := { depth := 3, body := "Task [50%]".toList }
    let rows := [epic, done, task]
    let heading : Heading := ⟨0, none, "Plan", .standard, ""⟩
    let now : Instant := .startOf ⟨2025, 1, 1, by decide⟩
    (rowsText [' ', ' '] rows = "Epic\n  |Done\n      Task [50%]" ∧
      rowsText ['\t', ' '] rows = "Epic\n\t |Done\n\t \t \t Task [50%]") ∧
    Roadmap.ofOutline heading now (rowsText [' ', ' '] rows) =
      Roadmap.ofOutline heading now (rowsText ['\t', ' '] rows) ∧
    (Roadmap.ofOutline heading now (rowsText [' ', ' '] rows)).projects.map (·.indentation) =
      [0, 3] := by
  intro epic done task rows heading now
  have hu : IsUnit [' ', ' '] := ⟨by simp, by simp [isIndent]⟩
  have hv : IsUnit ['\t', ' '] := ⟨by simp, by simp [isIndent]⟩
  have hrows : ShowsUnit rows := by
    rintro row ⟨⟩
    rfl
  exact ⟨⟨by decide, by decide⟩, (Roadmap.ofOutline_rowsText hu hv hrows heading now).1,
    by decide +kernel⟩

end TextRoadmap
