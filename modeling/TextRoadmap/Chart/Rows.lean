/-
TextRoadmap/Chart/Rows.lean

Charts as rows of columns, for output that is read by people.

The first row is the title with the span, then come the projects, indented by
two blanks for every level, and the milestones.  An empty row stands in front
of each of the two groups that is not empty.
-/
import TextRoadmap.Chart.Basic

namespace TextRoadmap.Chart

/-- A span as the layout writes it. -/
def spanColumn (layout : Layout) (span : Option Span) : String :=
  match span with
  | none => "undated"
  | some span => s!"{layout.format span.startAt} - {layout.format span.endAt}"

/-- A color, or nothing. -/
def colorColumn (color : Option Color) : String := (color.map Color.text).getD ""

/-- The title, or a mark where there is none. -/
def titleColumn (title : String) : String := if title.isEmpty then "(untitled)" else title

/-- The row of a project. -/
def projectRow (layout : Layout) (p : Project) : List String :=
  [String.ofList (List.replicate (2 * p.indentation.toNat) ' ') ++ p.title,
   spanColumn layout p.dates, s!"{p.percentage.toNat}%", colorColumn p.color]

/-- The row of a milestone. -/
def milestoneRow (layout : Layout) (m : Milestone) : List String :=
  ["|" ++ m.title, (m.deadlineAt.map layout.format).getD "undated", colorColumn m.color]

/-- A group of rows with an empty row in front, if the group has rows. -/
def group (rows : List (List String)) : List (List String) :=
  if rows.isEmpty then [] else [] :: rows

/-- The rows of a chart. -/
def rows (c : Chart) : List (List String) :=
  [titleColumn c.title, spanColumn c.layout c.span] ::
    group (c.projects.map (projectRow c.layout)) ++
    group (c.milestones.map (milestoneRow c.layout))

end TextRoadmap.Chart
