/-
TextRoadmap/Outline/Write.lean

Writing a roadmap as an outline.

The tokens of an extra block stand in a fixed order: dates, percentage,
color, links, milestone.  What is not known is not written, and a line
without tokens has no block.  An empty line separates the projects from the
milestones if there are both.
-/
import TextRoadmap.Roadmap.Basic

namespace TextRoadmap

open TextRoadmap.Text TextRoadmap.Calendar

namespace Outline

/-- The head of a line, followed by the tokens in brackets if there are any. -/
def withExtra (head : List Char) (tokens : List (List Char)) : List Char :=
  if tokens.isEmpty then head else head ++ ' ' :: '[' :: commaJoin tokens ++ [']']

/-- The token for an instant. -/
def dateToken (layout : Layout) (i : Instant) : List Char := (layout.format i).toList

/-- The token for the color, if there is one. -/
def colorTokens (color : Option Color) : List (List Char) :=
  color.toList.map fun c => c.text.toList

/-- The tokens for the links. -/
def urlTokens (urls : List String) : List (List Char) := urls.map String.toList

end Outline

open Outline

/-- The tokens of the extra block of a project. -/
def Project.tokens (layout : Layout) (p : Project) : List (List Char) :=
  (p.dates.toList.flatMap fun span =>
    [dateToken layout span.startAt, dateToken layout span.endAt]) ++
  (if p.percentage = 0 then [] else [decimal p.percentage.toNat ++ ['%']]) ++
  colorTokens p.color ++ urlTokens p.urls ++
  (if p.milestone = 0 then [] else ['|' :: decimal p.milestone.toNat])

/-- The line of a project, indented by tabs. -/
def Project.line (layout : Layout) (p : Project) : List Char :=
  withExtra (List.replicate p.indentation.toNat '\t' ++ p.title.toList) (p.tokens layout)

/-- The tokens of the extra block of a milestone. -/
def Milestone.tokens (layout : Layout) (m : Milestone) : List (List Char) :=
  (m.deadlineAt.toList.map (dateToken layout)) ++ colorTokens m.color ++ urlTokens m.urls

/-- The line of a milestone. -/
def Milestone.line (layout : Layout) (m : Milestone) : List Char :=
  withExtra ('|' :: m.title.toList) (m.tokens layout)

/-- The lines of a roadmap. -/
def Roadmap.lines (r : Roadmap) : List (List Char) :=
  r.projects.map (Project.line r.layout) ++
  (if r.projects.isEmpty || r.milestones.isEmpty then [] else [[]]) ++
  r.milestones.map (Milestone.line r.layout)

/-- The outline of a roadmap. -/
def Roadmap.outline (r : Roadmap) : String := String.ofList (['\n'].intercalate r.lines)

end TextRoadmap
