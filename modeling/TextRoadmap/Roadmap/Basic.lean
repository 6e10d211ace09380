/-
TextRoadmap/Roadmap/Basic.lean

Roadmaps: a flat list of projects, whose indentation makes it a tree, and a
list of milestones.

The tree is not stored.  The descendants of a project are the projects that
follow it as long as they are indented deeper; the projects without
indentation are the epics.  A project refers to a milestone by its number in
the list, counted from one.
-/
import TextRoadmap.Color.Basic
import TextRoadmap.Layout.Basic

namespace TextRoadmap

open TextRoadmap.Calendar

/-! ### Spans of time -/

/-- A pair of instants.  Neither has to come first. -/
structure Span where
  startAt : Instant
  endAt : Instant
  deriving DecidableEq

/-- The span between two instants, if the first lies before the second. -/
def Span.make? (startAt endAt : Instant) : Option Span :=
  if startAt < endAt then some ⟨startAt, endAt⟩ else none

/-- The span from the earlier start to the later end. -/
def Span.union (a b : Span) : Span := ⟨min a.startAt b.startAt, max a.endAt b.endAt⟩

/-- The span widened so that it holds the instant. -/
def Span.extend (s : Span) (i : Instant) : Span := ⟨min s.startAt i, max s.endAt i⟩

/-- The union of all the spans, if there are any. -/
def Span.cover? : List Span → Option Span
  | [] => none
  | s :: rest => some (rest.foldl Span.union s)

@[simp] theorem Span.cover?_eq_none_iff {spans : List Span} :
    Span.cover? spans = none ↔ spans = [] := by
  cases spans <;> simp [Span.cover?]

/-! ### Projects and milestones -/

/-- A project of a roadmap.  A percentage of 0 means that the progress is not
known, a milestone of 0 that there is none. -/
structure Project where
  indentation : UInt8
  title : String
  dates : Option Span := none
  color : Option Color := none
  percentage : UInt8 := 0
  urls : List String := []
  milestone : UInt8 := 0
  deriving DecidableEq

/-- Is the project at the top of the tree? -/
def Project.isEpic (p : Project) : Bool := p.indentation = 0

/-- A milestone of a roadmap. -/
structure Milestone where
  title : String
  deadlineAt : Option Instant := none
  color : Option Color := none
  urls : List String := []
  deriving DecidableEq

/-! ### Roadmaps -/

/-- A roadmap with its settings and its history.  The number 0 stands for a
roadmap that has not been numbered yet. -/
structure Roadmap where
  id : Nat
  prevId : Option Nat
  title : String
  layout : Layout
  baseUrl : String
  projects : List Project
  milestones : List Milestone
  createdAt : Instant
  updatedAt : Instant
  accessedAt : Instant
  deriving DecidableEq

/-- A roadmap without contents, made at the given time. -/
def Roadmap.empty (title : String) (layout : Layout) (baseUrl : String) (now : Instant) :
    Roadmap :=
  ⟨0, none, title, layout, baseUrl, [], [], now, now, now⟩

end TextRoadmap
