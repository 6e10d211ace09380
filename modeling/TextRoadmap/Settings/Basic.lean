/-
TextRoadmap/Settings/Basic.lean

Settings: the layout, the base of links and the output format that count
where a command does not name its own.

A project and a user may each have settings.  What the command names comes
first, then the settings of the project, then those of the user, and last
the built-in ones.  Only the settings of a project can be changed.
-/
import TextRoadmap.Layout.Basic
import TextRoadmap.Link.Basic

namespace TextRoadmap

/-! ### Output formats -/

/-- The form of a command's output. -/
inductive OutputFormat where
  | text
  | json
  deriving DecidableEq

/-- The name of a format. -/
def OutputFormat.name : OutputFormat → String
  | .text => "text"
  | .json => "json"

/-- The format with the given name. -/
def OutputFormat.ofName? (name : String) : Option OutputFormat :=
  [OutputFormat.text, .json].find? (·.name = name)

/-! ### Settings -/

/-- The settings of a project. -/
structure ProjectSettings where
  layout : Option String := none
  baseUrl : Option String := none
  deriving DecidableEq

/-- The settings of a user. -/
structure UserSettings where
  format : OutputFormat := .text
  layout : Option String := none
  baseUrl : Option String := none
  deriving DecidableEq

/-- All settings. -/
structure Settings where
  project : ProjectSettings := {}
  user : UserSettings := {}
  deriving DecidableEq

/-- The layout that counts if the command names the given one. -/
def Settings.layout (s : Settings) (named : Option String) : Layout :=
  ⟨(named <|> s.project.layout <|> s.user.layout).getD Layout.standard.text⟩

/-- The base of links that counts if the command names the given one. -/
def Settings.baseUrl (s : Settings) (named : Option String) : String :=
  (named <|> s.project.baseUrl <|> s.user.baseUrl).getD ""

/-! ### Changing the settings of a project -/

/-- Why a setting can not be changed. -/
inductive SettingError where
  | emptyLayout
  | relativeBase (value : String)
  | unknownKey (key : String)
  deriving DecidableEq

/-- The wording of the error. -/
def SettingError.message : SettingError → String
  | .emptyLayout => "Invalid configuration: date_format can not be empty"
  | .relativeBase value =>
    s!"Invalid configuration: base_url must be an absolute URL, got '{value}'"
  | .unknownKey key => s!"Invalid configuration: Unknown configuration key: {key}"

/-- The settings with a new value.  A layout must not be empty; a base of
links is empty or names a host. -/
def ProjectSettings.set (s : ProjectSettings) (key value : String) :
    Except SettingError ProjectSettings :=
  if key = "date_format" then
    if value.isEmpty then .error .emptyLayout else .ok { s with layout := some value }
  else if key = "base_url" then
    if !value.isEmpty && !Link.isAbsolute value then .error (.relativeBase value)
    else .ok { s with baseUrl := some value }
  else .error (.unknownKey key)

end TextRoadmap
