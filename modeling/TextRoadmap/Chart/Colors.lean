/-
TextRoadmap/Chart/Colors.lean

Colors for the projects that have none.

A color follows the place of the project: the number of its epic, its own
number within the epic, and its indentation.  Projects in front of the first
epic count as part of it, with numbers of their own.
-/
import TextRoadmap.Color.Palette
import TextRoadmap.Roadmap.Basic

namespace TextRoadmap.Chart

/-- How many epics have been passed, and how many projects since the last of
them (or since the beginning), that epic included. -/
structure Place where
  epics : Nat
  projects : Nat
  deriving DecidableEq

/-- The place in front of the first project. -/
def Place.first : Place := ⟨0, 0⟩

/-- The place at which the project itself stands: an epic begins anew. -/
def Place.at (place : Place) (p : Project) : Place :=
  if p.isEpic then ⟨place.epics + 1, 0⟩ else place

/-- The place behind a project. -/
def Place.next (place : Place) : Place := ⟨place.epics, place.projects + 1⟩

/-- The palette color for a project at the place. -/
def Place.color (place : Place) (indentation : UInt8) : Color :=
  Palette.foreground (place.epics - 1) place.projects indentation.toNat

/-- The projects from the given place on, each with a color. -/
def colorFrom : Place → List Project → List Project
  | _, [] => []
  | place, p :: rest =>
    let here := place.at p
    { p with color := p.color <|> some (here.color p.indentation) } :: colorFrom here.next rest

/-- The projects, each with a color. -/
def assignColors (projects : List Project) : List Project := colorFrom Place.first projects

/-- Every project has a color in the end. -/
theorem isSome_color_of_mem_colorFrom {place : Place} {projects : List Project} {p : Project}
    (h : p ∈ colorFrom place projects) : p.color.isSome := by
  induction projects generalizing place with
  | nil => simp [colorFrom] at h
  | cons q rest ih =>
    rcases List.mem_cons.1 h with rfl | h
    · cases q.color <;> simp
    · exact ih h

end TextRoadmap.Chart
