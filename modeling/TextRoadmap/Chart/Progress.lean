/-
TextRoadmap/Chart/Progress.lean

Percentages for the projects whose progress is not known.

A percentage of 0 is not known.  It becomes the average over the children of
the project, rounded down, where the children are filled in first.  A child
is a project below that is indented by exactly one level more.
-/
import TextRoadmap.Chart.Dates

namespace TextRoadmap.Chart

/-- The children of a project among the projects that follow it. -/
def children (p : Project) (following : List Project) : List Project :=
  (below p.indentation following).filter fun q =>
    q.indentation.toNat = p.indentation.toNat + 1

/-- The average percentage, rounded down; of no projects it is 0. -/
def average (projects : List Project) : UInt8 :=
  UInt8.ofNat (projects.foldr (fun p total => p.percentage.toNat + total) 0 / projects.length)

/-- The project, with the average of its children if its progress is not
known. -/
def rolledUp (p : Project) (following : List Project) : Project :=
  if p.percentage = 0 then { p with percentage := average (children p following) } else p

/-- The projects with percentages rolled up from the end of the list. -/
def rollUp : List Project → List Project
  | [] => []
  | p :: rest => rolledUp p (rollUp rest) :: rollUp rest

@[simp] theorem length_rollUp (projects : List Project) :
    (rollUp projects).length = projects.length := by
  induction projects with
  | nil => rfl
  | cons p rest ih => simp [rollUp, ih]

end TextRoadmap.Chart
