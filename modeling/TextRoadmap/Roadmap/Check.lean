/-
TextRoadmap/Roadmap/Check.lean

The span of a roadmap, and what a roadmap needs to be complete.

Deadlines widen the span of the projects but do not make one: without a
dated project there is no span.  A roadmap is complete if it has a title, a
layout and a project, and if no project ends before it starts.  Of several
faults the missing fields come first, then the first project at fault.
-/
import TextRoadmap.Roadmap.Basic

namespace TextRoadmap

open TextRoadmap.Calendar

namespace Roadmap

/-- The span of all dated projects, widened to the deadlines. -/
def span? (r : Roadmap) : Option Span :=
  (Span.cover? (r.projects.filterMap (·.dates))).map fun span =>
    (r.milestones.filterMap (·.deadlineAt)).foldl Span.extend span

/-- Without a dated project there is no span. -/
theorem span?_eq_none_iff {r : Roadmap} :
    r.span? = none ↔ ∀ p ∈ r.projects, p.dates = none := by
  simp [span?]

end Roadmap

/-- Why a roadmap is not complete. -/
inductive ValidityError where
  | missingFields
  | endBeforeStart (title startAt endAt : String)
  deriving DecidableEq

/-- The wording of the error. -/
def ValidityError.message : ValidityError → String
  | .missingFields => "Title, date format and at least one project are mandatory"
  | .endBeforeStart title startAt endAt =>
    s!"Project '{title}' ends before it starts: start at {startAt}, end at {endAt}"

/-- The fault of a project that ends before it starts, with its dates as the
layout writes them. -/
def Project.fault? (layout : Layout) (p : Project) : Option ValidityError :=
  match p.dates with
  | none => none
  | some span =>
    if span.endAt < span.startAt then
      some (.endBeforeStart p.title (layout.format span.startAt) (layout.format span.endAt))
    else none

/-- The first fault of a roadmap, if it has one. -/
def Roadmap.validate (r : Roadmap) : Except ValidityError Unit :=
  if r.title.isEmpty || r.layout.isEmpty || r.projects.isEmpty then .error .missingFields
  else
    match r.projects.findSome? (Project.fault? r.layout) with
    | some fault => .error fault
    | none => .ok ()

end TextRoadmap
