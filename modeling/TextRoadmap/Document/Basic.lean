/-
TextRoadmap/Document/Basic.lean

Documents: roadmaps as they are exchanged.

A document has no history, and its numbers are short codes.  The roadmap
that has not been numbered yet has no code, so a number 0 and no number are
the same in a document.  Numbers too large for a code can not be exchanged.
-/
import TextRoadmap.Roadmap.Basic
import TextRoadmap.ShortCode.Basic

namespace TextRoadmap

open TextRoadmap.Calendar

/-- A roadmap as it is exchanged. -/
structure Document where
  id : Option ShortCode
  prevId : Option ShortCode
  title : String
  layout : Layout
  baseUrl : String
  projects : List Project
  milestones : List Milestone
  deriving DecidableEq

/-- The roadmap of a document, with a history that begins now. -/
def Document.roadmap (d : Document) (now : Instant) : Roadmap :=
  { id := (d.id.map (·.id)).getD 0
    prevId := d.prevId.map (·.id)
    title := d.title
    layout := d.layout
    baseUrl := d.baseUrl
    projects := d.projects
    milestones := d.milestones
    createdAt := now
    updatedAt := now
    accessedAt := now }

/-- The code of the roadmap itself; the number 0 has none. -/
def Roadmap.code? (r : Roadmap) : Except CodeError (Option ShortCode) :=
  if r.id = 0 then .ok none else (ShortCode.ofId r.id).map some

/-- The code of the roadmap before it. -/
def Roadmap.prevCode? (r : Roadmap) : Except CodeError (Option ShortCode) :=
  match r.prevId with
  | none => .ok none
  | some id => (ShortCode.ofId id).map some

/-- The document of a roadmap, if its numbers have codes. -/
def Roadmap.document (r : Roadmap) : Except CodeError Document := do
  let id ← r.code?
  let prevId ← r.prevCode?
  .ok
    { id
      prevId
      title := r.title
      layout := r.layout
      baseUrl := r.baseUrl
      projects := r.projects
      milestones := r.milestones }

end TextRoadmap
