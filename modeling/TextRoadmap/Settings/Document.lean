/-
TextRoadmap/Settings/Document.lean

Settings as TOML documents.

Keys that mean nothing here are passed over, but a key that does has to hold
a value of its kind.  The output format is a name, or a table with the name
as its only key and nothing in it.
-/
import TextRoadmap.Settings.Basic
import TextRoadmap.Toml.Read
import TextRoadmap.Toml.Write

namespace TextRoadmap

open TextRoadmap.Toml

/-! ### Values -/

/-- The string that a key holds, if the key is set; no other value will do. -/
def Toml.Table.string? (t : Table Item) (key : String) : Option (Option String) :=
  match t.find? key with
  | none => some none
  | some (.text value) => some (some value)
  | some _ => none

/-- Is it an array or a table without entries? -/
def Toml.Item.isEmpty : Item → Bool
  | .array items => items.isEmpty
  | .inline t | .table t => t.entries.isEmpty
  | .tables ts => ts.isEmpty
  | _ => false

/-- The output format that an item names. -/
def OutputFormat.ofItem? : Item → Option OutputFormat
  | .text name => OutputFormat.ofName? name
  | .inline t | .table t =>
    match t.entries with
    | [(name, item)] => if item.isEmpty then OutputFormat.ofName? name else none
    | _ => none
  | _ => none

/-! ### Documents -/

/-- The settings of a project that the table holds. -/
def ProjectSettings.ofTable? (t : Table Item) : Option ProjectSettings := do
  some ⟨← t.string? "date_format", ← t.string? "base_url"⟩

/-- The settings of a user that the table holds. -/
def UserSettings.ofTable? (t : Table Item) : Option UserSettings := do
  let format ← match t.find? "default_format" with
    | none => some OutputFormat.text
    | some item => OutputFormat.ofItem? item
  some ⟨format, ← t.string? "date_format", ← t.string? "base_url"⟩

/-- The settings of a project that a document holds. -/
def ProjectSettings.read? (text : String) : Option ProjectSettings :=
  (Toml.read? text).bind ProjectSettings.ofTable?

/-- The settings of a user that a document holds. -/
def UserSettings.read? (text : String) : Option UserSettings :=
  (Toml.read? text).bind UserSettings.ofTable?

/-- The document that holds the settings of a project. -/
def ProjectSettings.write (s : ProjectSettings) : String :=
  String.ofList (Toml.line "date_format" s.layout ++ Toml.line "base_url" s.baseUrl)

end TextRoadmap
