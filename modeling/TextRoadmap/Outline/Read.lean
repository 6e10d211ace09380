/-
TextRoadmap/Outline/Read.lean

Reading a roadmap from an outline.

No outline is refused: every line is a project, a milestone or blank, and
what means nothing in an extra block is passed over.  The one line that is
left out is a milestone with two dates.
-/
import TextRoadmap.Outline.Extra
import TextRoadmap.Outline.Line

namespace TextRoadmap.Outline

open TextRoadmap.Text TextRoadmap.Calendar

/-- The project that a line names. -/
def readProject (s : Setting) (unit line : List Char) : Project :=
  let (depth, body) := splitUnits unit line
  let (title, block) := splitExtra (dropMark body)
  let extra := Extra.read s block
  { indentation := UInt8.ofNat (min depth 255)
    title := String.ofList title
    dates := extra.span?
    color := extra.color
    percentage := extra.percentage
    urls := extra.urls
    milestone := extra.milestone }

/-- The milestone that a line names, unless it has two dates. -/
def readMilestone (s : Setting) (line : List Char) : Option Milestone :=
  let (title, block) := splitExtra (dropMark (line.dropWhile isMargin))
  let extra := Extra.read s block
  if extra.endAt.isSome then none
  else
    some
      { title := String.ofList title
        deadlineAt := extra.startAt
        color := extra.color
        urls := extra.urls }

/-- The projects of the lines, in order. -/
def readProjects (s : Setting) (lines : List (List Char)) : List Project :=
  (lines.filter isProjectLine).map (readProject s (unitOf lines))

/-- The milestones of the lines, in order. -/
def readMilestones (s : Setting) (lines : List (List Char)) : List Milestone :=
  (lines.filter isMilestoneLine).filterMap (readMilestone s)

end TextRoadmap.Outline

namespace TextRoadmap

open TextRoadmap.Calendar

/-- What a roadmap has besides the contents of its outline. -/
structure Heading where
  id : Nat
  prevId : Option Nat
  title : String
  layout : Layout
  baseUrl : String
  deriving DecidableEq

/-- The settings by which the outline is read. -/
def Heading.setting (h : Heading) : Outline.Setting := ⟨h.layout, h.baseUrl⟩

/-- The roadmap with the given heading whose contents an outline shows. -/
def Roadmap.ofOutline (h : Heading) (now : Instant) (text : String) : Roadmap :=
  let lines := Outline.linesOf text.toList
  { id := h.id
    prevId := h.prevId
    title := h.title
    layout := h.layout
    baseUrl := h.baseUrl
    projects := Outline.readProjects h.setting lines
    milestones := Outline.readMilestones h.setting lines
    createdAt := now
    updatedAt := now
    accessedAt := now }

end TextRoadmap
