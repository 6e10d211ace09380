/-
TextRoadmap/CommandLine/Roadmaps.lean

The commands that read a roadmap.

A roadmap comes from a file or from the input, as an outline or as a
document.  What the command names counts more than the settings, and more
than what a document says of itself; the settings count only for outlines.
An outline from a file is named for the file unless the command names it.
-/
import TextRoadmap.Chart.Rows
import TextRoadmap.CommandLine.Arguments
import TextRoadmap.CommandLine.Configuration
import TextRoadmap.Document.Write
import TextRoadmap.Outline.Basic
import TextRoadmap.ShortCode.Derive
import TextRoadmap.Text.Quoted

namespace TextRoadmap.CommandLine

open TextRoadmap.Calendar

/-! ### Reading -/

/-- The path of a file; a single hyphen stands for input and output. -/
def fileOf (p : Option Path) : Option Path := p.filter (·.text ≠ "-")

/-- Where the roadmap comes from. -/
def Source.description (s : Source) : String := ((fileOf s.input).map Path.text).getD "stdin"

/-- The title of an outline that the command does not name. -/
def Source.defaultTitle (s : Source) : String :=
  String.ofList (((fileOf s.input).bind Path.fileStem?).getD [])

/-- The roadmap of a document, with what the command names of it. -/
def Source.adjust (s : Source) (settings : Settings) (r : Roadmap) : Roadmap :=
  { r with
    title := s.title.getD r.title
    layout := if s.layout.isSome then settings.layout s.layout else r.layout
    baseUrl := if s.baseUrl.isSome then settings.baseUrl s.baseUrl else r.baseUrl }

/-- The heading of an outline. -/
def Source.heading (s : Source) (settings : Settings) : Heading :=
  { id := 0
    prevId := none
    title := s.title.getD s.defaultTitle
    layout := settings.layout s.layout
    baseUrl := settings.baseUrl s.baseUrl }

/-- The roadmap that a text holds. -/
def Source.roadmap (s : Source) (settings : Settings) (now : Instant) (text : String) :
    Except Json.Fault Roadmap :=
  if s.json then (Document.read text).map fun d => s.adjust settings (d.roadmap now)
  else .ok (Roadmap.ofOutline (s.heading settings) now text)

variable {m : Type → Type} [Monad m] [Machine m]

/-- The text of a file or of the input. -/
def readSource (s : Source) : Task m String := do
  match fileOf s.input with
  | some p => attempt (.reading s!"roadmap: {p.text}") (← ask (Machine.readText p))
  | none => attempt (.reading "roadmap from stdin") (← ask Machine.inputText)

/-- The roadmap that the command reads. -/
def loadRoadmap (settings : Settings) (s : Source) : Task m Roadmap := do
  let layout := settings.layout s.layout
  let baseUrl := settings.baseUrl s.baseUrl
  note "config" s!"Date format: '{layout.text}', base URL: '{baseUrl}'"
  let text ← readSource s
  note "input" s!"Read {text.utf8ByteSize} bytes from {s.description}"
  let roadmap ← attempt .roadmapDocument (s.roadmap settings (← ask Machine.now) text)
  note "parse"
    s!"Parsed {roadmap.projects.length} projects and {roadmap.milestones.length} milestones"
  return roadmap

/-! ### Commands -/

/-- The path as notes show it. -/
def describeTarget (target : Option Path) : String :=
  match target with
  | none => "None"
  | some p => s!"Some({String.ofList (Text.quoted p.chars)})"

/-- Write the roadmap as an outline. -/
def formatRoadmap (format : OutputFormat) (settings : Settings) (s : Source)
    (target : Option Path) : Task m String := do
  note "fmt" s!"Formatting, output: {describeTarget target}"
  let text := (← loadRoadmap settings s).outline
  match fileOf target with
  | none => return lineOf text
  | some p =>
    note "fmt" s!"Writing {text.utf8ByteSize} bytes to {p.text}"
    attempt .writing (← ask (Machine.writeFile p (lineOf text).toUTF8))
    return successText format s!"Formatted roadmap written to {p.text}"

/-- Give the roadmap a number, unless it has one. -/
def numbered (r : Roadmap) : Task m Roadmap := do
  if r.id ≠ 0 then return r
  let code := ShortCode.derive r.title (← ask Machine.now)
  note "parse" s!"Generated id: {code.text}"
  return { r with id := code.id }

/-- Write the roadmap as a document. -/
def exportRoadmap (format : OutputFormat) (settings : Settings) (s : Source) :
    Task m String := do
  let roadmap ← numbered (← loadRoadmap settings s)
  let document ← attempt .number roadmap.document
  return dataText format document.json

/-- Write the chart of the roadmap. -/
def chartRoadmap (format : OutputFormat) (settings : Settings) (s : Source) :
    Task m String := do
  let chart := (← loadRoadmap settings s).chart
  match format with
  | .json => return dataText .json chart.json
  | .text => return rowsText chart.rows

/-- Check that the roadmap is complete. -/
def checkRoadmap (format : OutputFormat) (settings : Settings) (s : Source) :
    Task m String := do
  let roadmap ← loadRoadmap settings s
  attempt (.incomplete s.description) roadmap.validate
  let projects := roadmap.projects.length
  let milestones := roadmap.milestones.length
  match format with
  | .json =>
    return dataText .json <| .object
      [("milestones", .number milestones), ("projects", .number projects),
       ("title", .string roadmap.title), ("valid", .boolean true)]
  | .text =>
    return successText .text
      s!"Roadmap '{roadmap.title}' is valid: {projects} projects, {milestones} milestones"

end TextRoadmap.CommandLine
