/-
TextRoadmap/Document/Write.lean

Documents and charts as JSON.

Members stand in a fixed order.  A member that is not known is left out,
except for the percentage of a project, which is always written.
-/
import TextRoadmap.Calendar.Rfc3339
import TextRoadmap.Chart.Basic
import TextRoadmap.Document.Basic
import TextRoadmap.Json.Write

namespace TextRoadmap

open TextRoadmap.Calendar

/-- A member that is left out if it has no value. -/
def Json.optional (key : String) (value : Option Json) : List (String × Json) :=
  value.toList.map fun value => (key, value)

/-- A list of strings that is left out if it is empty. -/
def Json.strings (key : String) (values : List String) : List (String × Json) :=
  if values.isEmpty then [] else [(key, .array (values.map .string))]

def Calendar.Instant.json (i : Instant) : Json := .string i.toRfc3339

def Color.json (c : Color) : Json := .string c.text

def ShortCode.json (c : ShortCode) : Json := .string c.text

def Layout.json (l : Layout) : Json := .string l.text

def Span.json (s : Span) : Json :=
  .object [("start_at", s.startAt.json), ("end_at", s.endAt.json)]

def Project.json (p : Project) : Json :=
  .object <|
    [("indentation", .number p.indentation.toNat), ("title", .string p.title)] ++
    Json.optional "dates" (p.dates.map Span.json) ++
    Json.optional "color" (p.color.map Color.json) ++
    [("percentage", .number p.percentage.toNat)] ++
    Json.strings "urls" p.urls ++
    (if p.milestone = 0 then [] else [("milestone", .number p.milestone.toNat)])

def Milestone.json (m : Milestone) : Json :=
  .object <|
    [("title", .string m.title)] ++
    Json.optional "deadline_at" (m.deadlineAt.map Instant.json) ++
    Json.optional "color" (m.color.map Color.json) ++
    Json.strings "urls" m.urls

def Document.json (d : Document) : Json :=
  .object <|
    Json.optional "id" (d.id.map ShortCode.json) ++
    Json.optional "prev_id" (d.prevId.map ShortCode.json) ++
    [("title", .string d.title), ("date_format", d.layout.json), ("base_url", .string d.baseUrl),
     ("projects", .array (d.projects.map Project.json)),
     ("milestones", .array (d.milestones.map Milestone.json))]

/-- A chart, whose span is `null` if there is none. -/
def Chart.json (c : Chart) : Json :=
  .object
    [("title", .string c.title), ("date_format", c.layout.json),
     ("projects", .array (c.projects.map Project.json)),
     ("milestones", .array (c.milestones.map Milestone.json)),
     ("dates", (c.span.map Span.json).getD .null)]

/-- The text of a document. -/
def Document.write (style : Json.Style) (d : Document) : String := d.json.write style

end TextRoadmap
