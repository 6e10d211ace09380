/-
TextRoadmap/Chart/Dates.lean

Dates for the projects that have none.

Two passes fill them in.  The first goes through the projects and gives each
project without dates the span of the dated projects below it.  The second
gives each project that is still without dates those of the nearest project
above it that has some by then.
-/
import TextRoadmap.Roadmap.Basic

namespace TextRoadmap.Chart

/-! ### The tree in a flat list -/

/-- The projects of `following` that lie below a project of the given
indentation: all up to the first that is not indented deeper. -/
def below (indentation : UInt8) (following : List Project) : List Project :=
  following.takeWhile fun p => indentation < p.indentation

/-! ### From below -/

/-- The span of all dated projects in the list. -/
def spanOf? (projects : List Project) : Option Span :=
  Span.cover? (projects.filterMap (·.dates))

/-- The project, with the span of the dated projects below it if it has no
dates of its own. -/
def datedFromBelow (p : Project) (following : List Project) : Project :=
  { p with dates := p.dates <|> spanOf? (below p.indentation following) }

/-- Dates from below, for every project that lacks them. -/
def datesFromBelow : List Project → List Project
  | [] => []
  | p :: rest => datedFromBelow p rest :: datesFromBelow rest

/-! ### From above -/

/-- The dates of the nearest dated project above a project of the given
indentation, where `preceding` are the projects before it, nearest first. -/
def datesAbove? : (indentation : UInt8) → (preceding : List Project) → Option Span
  | _, [] => none
  | indentation, p :: preceding =>
    if p.indentation < indentation then p.dates <|> datesAbove? p.indentation preceding
    else datesAbove? indentation preceding

/-- The project, with the dates from above if it has no dates of its own. -/
def datedFromAbove (preceding : List Project) (p : Project) : Project :=
  { p with dates := p.dates <|> datesAbove? p.indentation preceding }

/-- Dates from above, for every project that lacks them. -/
def datesFromAbove : (preceding : List Project) → List Project → List Project
  | _, [] => []
  | preceding, p :: rest =>
    let dated := datedFromAbove preceding p
    dated :: datesFromAbove (dated :: preceding) rest

/-- The projects with all dates that the others imply. -/
def inferDates (projects : List Project) : List Project :=
  datesFromAbove [] (datesFromBelow projects)

@[simp] theorem length_datesFromBelow (projects : List Project) :
    (datesFromBelow projects).length = projects.length := by
  induction projects with
  | nil => rfl
  | cons p rest ih => simp [datesFromBelow, ih]

@[simp] theorem length_datesFromAbove (preceding projects : List Project) :
    (datesFromAbove preceding projects).length = projects.length := by
  induction projects generalizing preceding with
  | nil => rfl
  | cons p rest ih => simp [datesFromAbove, ih]

end TextRoadmap.Chart
