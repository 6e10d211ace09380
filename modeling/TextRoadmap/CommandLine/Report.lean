/-
TextRoadmap/CommandLine/Report.lean

What a command reports: its output, what went wrong, and the notes that it
takes on the way.

A command either succeeds with its whole output or fails without any.  Notes
are taken in both cases, and shown if details are asked for.
-/
import TextRoadmap.Document.Read
import TextRoadmap.Files.Machine
import TextRoadmap.Json.Write
import TextRoadmap.Roadmap.Check
import TextRoadmap.Settings.Basic
import TextRoadmap.ShortCode.Basic

namespace TextRoadmap.CommandLine

/-! ### Failures -/

/-- Why a command fails. -/
inductive Failure where
  | reading (what : String) (error : FileError)
  | settingsDocument (whose : String)
  | roadmapDocument (fault : Json.Fault)
  | writing (error : WriteError)
  | saving (path : Path) (error : FileError)
  | incomplete (input : String) (error : ValidityError)
  | code (context : String) (error : CodeError)
  | number (error : CodeError)
  | setting (error : SettingError)
  deriving DecidableEq

/-- What is wrong with a JSON document. -/
def faultText : Json.Fault → String
  | .malformed => "the text is not JSON"
  | .ended => "the text ends too early"
  | .unfit .kind => "a value is not of the kind that it should be"
  | .unfit (.missing field) => s!"missing field `{field}`"
  | .unfit (.duplicate field) => s!"duplicate field `{field}`"
  | .unfit (.refused reason) => reason

/-- The wording of the failure. -/
def Failure.message : Failure → String
  | .reading what error => s!"Failed to read {what}: {error.message}"
  | .settingsDocument whose =>
    s!"Failed to parse {whose} config: Failed to parse configuration: the text is not valid"
  | .roadmapDocument fault => s!"Failed to parse roadmap JSON: {faultText fault}"
  | .writing error => error.message
  | .saving path error => s!"Failed to write project config: {path.text}: {error.message}"
  | .incomplete input error => s!"Invalid roadmap: {input}: {error.message}"
  | .code context error => s!"{context}: {error.message}"
  | .number error => error.message
  | .setting error => error.message

/-! ### Commands that take notes -/

/-- A computation on a machine that may fail and takes notes. -/
abbrev Task (m : Type → Type) := ExceptT Failure (StateT (List String) m)

variable {m : Type → Type} [Monad m]

/-- Take a note. -/
def remark (text : String) : Task m Unit := modify (· ++ [s!"[verbose] {text}"])

/-- Take a note about a topic. -/
def note (topic text : String) : Task m Unit := modify (· ++ [s!"[verbose:{topic}] {text}"])

/-- The result of an operation of the machine. -/
def ask {α : Type} (operation : m α) : Task m α := ExceptT.lift (StateT.lift operation)

/-- The result of an operation whose error means a failure. -/
def attempt {ε α : Type} (failure : ε → Failure) (result : Except ε α) : Task m α :=
  match result with
  | .ok value => pure value
  | .error e => throw (failure e)

/-! ### Output -/

/-- One line of output. -/
def lineOf (text : String) : String := text ++ "\n"

/-- Rows of columns with tabs between the columns. -/
def rowsText (rows : List (List String)) : String :=
  String.join (rows.map fun row => lineOf ("\t".intercalate row))

/-- A value: compact as JSON, over several lines as text. -/
def dataText (format : OutputFormat) (value : Json) : String :=
  lineOf (value.write (match format with | .json => .compact | .text => .indented))

/-- The message of a success. -/
def successText (format : OutputFormat) (message : String) : String :=
  lineOf <|
    match format with
    | .text => message
    | .json =>
      (Json.object [("message", .string message), ("success", .boolean true)]).write .compact

/-- The message of a failure. -/
def failureText (format : OutputFormat) (message : String) : String :=
  lineOf <|
    match format with
    | .text => "Error: " ++ message
    | .json =>
      (Json.object [("error", .string message), ("success", .boolean false)]).write .compact

/-- How a run of the program ends: the exit code, and what it has written. -/
structure Outcome where
  code : Nat
  out : String
  err : String
  deriving DecidableEq

/-- The notes, if they are asked for. -/
def notesText (verbose : Bool) (notes : List String) : String :=
  if verbose then String.join (notes.map lineOf) else ""

/-- The outcome of a task with its notes. -/
def Outcome.of (format : OutputFormat) (verbose : Bool) (result : Except Failure String)
    (notes : List String) : Outcome :=
  match result with
  | .ok out => ⟨0, out, notesText verbose notes⟩
  | .error failure =>
    ⟨1, "", notesText verbose notes ++ failureText format failure.message⟩

end TextRoadmap.CommandLine
