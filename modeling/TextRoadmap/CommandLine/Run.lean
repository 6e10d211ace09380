/-
TextRoadmap/CommandLine/Run.lean

A run of the program on a machine.

The arguments are read first, then the settings, and then the command runs.
The output format is the one that the arguments name, or else the one of the
settings, or else text, also for the report of settings that can not be read.
-/
import TextRoadmap.CommandLine.Codes
import TextRoadmap.CommandLine.Roadmaps

namespace TextRoadmap.CommandLine

variable {m : Type → Type} [Monad m] [Machine m]

/-- Run a command. -/
def perform (env : Environment) (format : OutputFormat) (c : Configuration) :
    Command → Task m String
  | .fmt source target => formatRoadmap format c.settings source target
  | .parse source => exportRoadmap format c.settings source
  | .compile source => chartRoadmap format c.settings source
  | .validate source => checkRoadmap format c.settings source
  | .encode id => encodeNumber format id
  | .decode code => decodeCode format code
  | .newCode seed => makeCode format seed
  | .showSettings => return showSettings env format c
  | .set key value => changeSetting env format c key value

/-- Run a command, with notes about its start. -/
def execute (env : Environment) (format : OutputFormat) (c : Configuration)
    (command : Command) : Task m String := do
  remark "Roadmapper starting"
  note "config" <|
    match c.root with
    | some root => s!"Project root: {root.text}"
    | none => "No project config found"
  perform env format c command

/-- Answer a request. -/
def answer (env : Environment) (request : Request) : m Outcome := do
  match ← load env with
  | .error failure =>
    return Outcome.of (request.format.getD .text) request.verbose (.error failure) []
  | .ok configuration =>
    let format := request.format.getD configuration.settings.user.format
    let (result, notes) ← ((execute env format configuration request.command).run).run []
    return Outcome.of format request.verbose result notes

/-- The version of the program. -/
def version : String := "0.1.0"

/-- How the program is called. -/
def usage : String :=
  "Usage: roadmapper [-v] [-f text|json] <fmt|parse|compile|validate|code|config> ..."

/-- Run the program with the given arguments. -/
def run (env : Environment) (args : List String) : m Outcome :=
  match readRequest args with
  | .ok request => answer env request
  | .error (.version name) => return ⟨0, lineOf s!"{name} {version}", ""⟩
  | .error .help => return ⟨0, lineOf usage, ""⟩
  | .error .usage => return ⟨2, "", lineOf usage⟩

end TextRoadmap.CommandLine
