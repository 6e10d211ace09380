/-
TextRoadmap/Document/Read.lean

Reading documents.

Title and layout have to be there; of a project indentation and title, of a
milestone the title, of a span both ends.  Codes, dates, colors and deadlines
may be `null`.
-/
import TextRoadmap.Calendar.Rfc3339
import TextRoadmap.Document.Basic
import TextRoadmap.Json.Read

namespace TextRoadmap

open TextRoadmap.Json TextRoadmap.Calendar

/-! ### Values -/

def Calendar.Instant.readJson : Reader Instant :=
  readNamed fun s =>
    match Instant.ofRfc3339? s with
    | some instant => .ok instant
    | none => .error .kind

def Color.readJson : Reader Color := readNamed fun s =>
  (Color.read s).mapError fun e => .refused e.message

def ShortCode.readJson : Reader ShortCode := readNamed fun s =>
  (ShortCode.read s).mapError fun e => .refused e.message

def Layout.readJson : Reader Layout := readNamed fun s => .ok ⟨s⟩

/-! ### Spans -/

/-- A span that is being read. -/
structure Span.Draft where
  startAt : Option Instant := none
  endAt : Option Instant := none

def Span.shape : Shape Span.Draft Span where
  fields :=
    [.make "start_at" Instant.readJson (·.startAt) fun d v => { d with startAt := some v },
     .make "end_at" Instant.readJson (·.endAt) fun d v => { d with endAt := some v }]
  blank := {}
  finish d := do
    let startAt ← require "start_at" d.startAt
    let endAt ← require "end_at" d.endAt
    .ok ⟨startAt, endAt⟩

/-! ### Projects -/

/-- A project that is being read. -/
structure Project.Draft where
  indentation : Option UInt8 := none
  title : Option String := none
  dates : Option (Option Span) := none
  color : Option (Option Color) := none
  percentage : Option UInt8 := none
  urls : Option (List String) := none
  milestone : Option UInt8 := none

def Project.shape : Shape Project.Draft Project where
  fields :=
    [.make "indentation" readByte (·.indentation) fun d v => { d with indentation := some v },
     .make "title" readString (·.title) fun d v => { d with title := some v },
     .make "dates" (readOption Span.shape.read) (·.dates) fun d v => { d with dates := some v },
     .make "color" (readOption Color.readJson) (·.color) fun d v => { d with color := some v },
     .make "percentage" readByte (·.percentage) fun d v => { d with percentage := some v },
     .make "urls" (readArray readString) (·.urls) fun d v => { d with urls := some v },
     .make "milestone" readByte (·.milestone) fun d v => { d with milestone := some v }]
  blank := {}
  finish d := do
    let indentation ← require "indentation" d.indentation
    let title ← require "title" d.title
    .ok
      { indentation
        title
        dates := d.dates.getD none
        color := d.color.getD none
        percentage := d.percentage.getD 0
        urls := d.urls.getD []
        milestone := d.milestone.getD 0 }

/-! ### Milestones -/

/-- A milestone that is being read. -/
structure Milestone.Draft where
  title : Option String := none
  deadlineAt : Option (Option Instant) := none
  color : Option (Option Color) := none
  urls : Option (List String) := none

def Milestone.shape : Shape Milestone.Draft Milestone where
  fields :=
    [.make "title" readString (·.title) fun d v => { d with title := some v },
     .make "deadline_at" (readOption Instant.readJson) (·.deadlineAt)
       fun d v => { d with deadlineAt := some v },
     .make "color" (readOption Color.readJson) (·.color) fun d v => { d with color := some v },
     .make "urls" (readArray readString) (·.urls) fun d v => { d with urls := some v }]
  blank := {}
  finish d := do
    let title ← require "title" d.title
    .ok
      { title
        deadlineAt := d.deadlineAt.getD none
        color := d.color.getD none
        urls := d.urls.getD [] }

/-! ### Documents -/

/-- A document that is being read. -/
structure Document.Draft where
  id : Option (Option ShortCode) := none
  prevId : Option (Option ShortCode) := none
  title : Option String := none
  layout : Option Layout := none
  baseUrl : Option String := none
  projects : Option (List Project) := none
  milestones : Option (List Milestone) := none

def Document.shape : Shape Document.Draft Document where
  fields :=
    [.make "id" (readOption ShortCode.readJson) (·.id) fun d v => { d with id := some v },
     .make "prev_id" (readOption ShortCode.readJson) (·.prevId)
       fun d v => { d with prevId := some v },
     .make "title" readString (·.title) fun d v => { d with title := some v },
     .make "date_format" Layout.readJson (·.layout) fun d v => { d with layout := some v },
     .make "base_url" readString (·.baseUrl) fun d v => { d with baseUrl := some v },
     .make "projects" (readArray Project.shape.read) (·.projects)
       fun d v => { d with projects := some v },
     .make "milestones" (readArray Milestone.shape.read) (·.milestones)
       fun d v => { d with milestones := some v }]
  blank := {}
  finish d := do
    let title ← require "title" d.title
    let layout ← require "date_format" d.layout
    .ok
      { id := d.id.getD none
        prevId := d.prevId.getD none
        title
        layout
        baseUrl := d.baseUrl.getD ""
        projects := d.projects.getD []
        milestones := d.milestones.getD [] }

/-- The document that the text writes. -/
def Document.read (text : String) : Except Fault Document :=
  readWholeText Document.shape.read text

end TextRoadmap
