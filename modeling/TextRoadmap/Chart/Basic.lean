/-
TextRoadmap/Chart/Basic.lean

Charts: roadmaps in which everything that can be inferred is filled in.

The span of a chart is the span of the roadmap as it was given.

Percentages are rolled up from the end of the list, and their totals have no
bound (`rollUp`).  The pass over one list, with totals of 32 bits
(`rollUpInPlace?`), gives the same percentages for up to 2²⁴ projects
(`rollUpInPlace?_eq`).
-/
import TextRoadmap.Chart.Colors
import TextRoadmap.Chart.Milestones
import TextRoadmap.Chart.Progress
import TextRoadmap.Link.Basic
import TextRoadmap.Roadmap.Check

namespace TextRoadmap

/-- A roadmap ready to be drawn. -/
structure Chart where
  title : String
  layout : Layout
  projects : List Project
  milestones : List Milestone
  span : Option Span
  deriving DecidableEq

namespace Chart

/-- The project with its links resolved against the base. -/
def linkedProject (baseUrl : String) (p : Project) : Project :=
  { p with urls := p.urls.map (Link.resolve baseUrl) }

/-- The milestone with its links resolved against the base. -/
def linkedMilestone (baseUrl : String) (m : Milestone) : Milestone :=
  { m with urls := m.urls.map (Link.resolve baseUrl) }

/-- The projects with everything filled in: dates, colors, percentages and
the addresses of links. -/
def compileProjects (baseUrl : String) (projects : List Project) : List Project :=
  (rollUp (assignColors (inferDates projects))).map (linkedProject baseUrl)

/-- The milestones with everything filled in from compiled projects. -/
def compileMilestones (baseUrl : String) (projects : List Project)
    (milestones : List Milestone) : List Milestone :=
  completeMilestones projects (milestones.map (linkedMilestone baseUrl))

end Chart

/-- The chart of a roadmap. -/
def Roadmap.chart (r : Roadmap) : Chart :=
  let projects := Chart.compileProjects r.baseUrl r.projects
  { title := r.title
    layout := r.layout
    projects
    milestones := Chart.compileMilestones r.baseUrl projects r.milestones
    span := r.span? }

/-- The roadmap with the projects and milestones of a chart. -/
def Roadmap.withChart (r : Roadmap) (c : Chart) : Roadmap :=
  { r with projects := c.projects, milestones := c.milestones }

end TextRoadmap
