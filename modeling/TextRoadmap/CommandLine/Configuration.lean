/-
TextRoadmap/CommandLine/Configuration.lean

Where settings are kept, and the commands that show and change them.

The settings of a user are in a folder of their own; those of a project are
in a file in the nearest folder, from the current one upwards, that has one.
Changing a setting of a project that has no such file makes one in the
current folder.
-/
import TextRoadmap.CommandLine.Report
import TextRoadmap.Settings.Document

namespace TextRoadmap.CommandLine

/-! ### Places -/

/-- What the program is told about its surroundings: the current folder, the
folder for the settings of the user if it is named, the folder for settings
of all programs if there is one, and the home of the user. -/
structure Environment where
  folder : Path
  settingsFolder : Option Path := none
  configHome : Option Path := none
  home : Option Path := none

/-- The folder with the settings of the user. -/
def Environment.userFolder? (env : Environment) : Option Path :=
  env.settingsFolder <|>
    (env.configHome.filter Path.isAbsolute <|> env.home.map (·.join ⟨".config"⟩)).map
      (·.join ⟨"roadmapper"⟩)

/-- The name of the file with the settings of a project. -/
def projectFile : Path := ⟨"roadmapper.toml"⟩

/-- The name of the file with the settings of the user. -/
def userFile : Path := ⟨"config.toml"⟩

/-! ### Loading -/

variable {m : Type → Type} [Monad m] [Machine m]

/-- The nearest of the folders that has a file with settings of a project. -/
def findRoot : List Path → m (Option Path)
  | [] => return none
  | folder :: above => do
    if ← Machine.isFile (folder.join projectFile) then return some folder else findRoot above

/-- The settings in a file; without the file they are empty. -/
def loadFile {α : Type} (whose : String) (empty : α) (read? : String → Option α) (file : Path) :
    m (Except Failure α) := do
  if ← Machine.exists? file then
    match ← Machine.readText file with
    | .error e => return .error (.reading s!"{whose} config: {file.text}" e)
    | .ok text =>
      match read? text with
      | some settings => return .ok settings
      | none => return .error (.settingsDocument whose)
  else return .ok empty

/-- The settings of the user. -/
def loadUser (env : Environment) : m (Except Failure UserSettings) :=
  match env.userFolder? with
  | none => return .ok {}
  | some folder => loadFile "global" {} UserSettings.read? (folder.join userFile)

/-- The settings of the project in the given folder. -/
def loadProject : Option Path → m (Except Failure ProjectSettings)
  | none => return .ok {}
  | some root => loadFile "project" {} ProjectSettings.read? (root.join projectFile)

/-- Settings with the folder of the project that they come from. -/
structure Configuration where
  settings : Settings
  root : Option Path
  deriving DecidableEq

/-- All settings. -/
def load (env : Environment) : m (Except Failure Configuration) := do
  match ← loadUser env with
  | .error e => return .error e
  | .ok user =>
    let root ← findRoot env.folder.ancestors
    match ← loadProject root with
    | .error e => return .error e
    | .ok project => return .ok ⟨⟨project, user⟩, root⟩

/-! ### Showing and changing -/

/-- A path, or `null`. -/
def pathJson (p : Option Path) : Json := (p.map fun p => Json.string p.text).getD .null

/-- A path, or a mark where there is none. -/
def pathColumn (p : Option Path) : String := (p.map Path.text).getD "(none)"

/-- The settings that count. -/
def showSettings (env : Environment) (format : OutputFormat) (c : Configuration) : String :=
  let layout := c.settings.layout none
  let baseUrl := c.settings.baseUrl none
  let file := c.root.map (·.join projectFile)
  match format with
  | .json =>
    dataText .json <| .object
      [("base_url", .string baseUrl), ("date_format", .string layout.text),
       ("default_format", .string c.settings.user.format.name),
       ("global_config_dir", pathJson env.userFolder?), ("project_config", pathJson file)]
  | .text =>
    rowsText
      [["date_format", layout.text], ["base_url", baseUrl],
       ["default_format", c.settings.user.format.name], [],
       ["project config", pathColumn file], ["global config dir", pathColumn env.userFolder?]]

/-- Change a setting of the project. -/
def changeSetting (env : Environment) (format : OutputFormat) (c : Configuration)
    (key value : String) : Task m String := do
  let root := c.root.getD env.folder
  note "config" s!"Project root: {root.text}"
  let settings ← attempt .setting (c.settings.project.set key value)
  let file := root.join projectFile
  attempt (.saving file ·.error) (← ask (Machine.write file settings.write.toUTF8))
  match format with
  | .json =>
    return dataText .json <| .object
      [("key", .string key), ("path", .string file.text), ("value", .string value)]
  | .text => return successText .text s!"Set {key} = {value} in {file.text}"

end TextRoadmap.CommandLine
