/-
TextRoadmap/Chart/Milestones.lean

Colors and deadlines for the milestones that have none.

A milestone takes the color of the first project that refers to it and the
latest end of all that do.  A milestone that nothing lends a color is
neutral.
-/
import TextRoadmap.Color.Palette
import TextRoadmap.Roadmap.Basic

namespace TextRoadmap.Chart

open TextRoadmap.Calendar

/-- The projects that refer to the milestone with the given number. -/
def referring (projects : List Project) (number : Nat) : List Project :=
  projects.filter fun p => p.milestone.toNat = number

/-- The latest end of the dated projects in the list. -/
def latestEnd? (projects : List Project) : Option Instant :=
  match projects.filterMap fun p => p.dates.map (·.endAt) with
  | [] => none
  | first :: rest => some (rest.foldl max first)

/-- The color that the projects in the list lend. -/
def lentColor (projects : List Project) : Color :=
  (projects.findSome? (·.color)).getD Palette.neutral

/-- The milestone, with what the projects that refer to it supply. -/
def completeMilestone (m : Milestone) (referring : List Project) : Milestone :=
  { m with
    color := m.color <|> some (lentColor referring)
    deadlineAt := m.deadlineAt <|> latestEnd? referring }

/-- The milestones, completed from the projects; their numbers start at 1. -/
def completeMilestones (projects : List Project) (milestones : List Milestone) :
    List Milestone :=
  milestones.mapIdx fun i m => completeMilestone m (referring projects (i + 1))

/-- Every milestone has a color in the end. -/
theorem isSome_color_completeMilestone (m : Milestone) (projects : List Project) :
    (completeMilestone m projects).color.isSome := by
  cases h : m.color <;> simp [completeMilestone, h]

end TextRoadmap.Chart
