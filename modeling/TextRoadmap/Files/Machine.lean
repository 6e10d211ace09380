/-
TextRoadmap/Files/Machine.lean

What the program needs of the machine that it runs on, and what it does with
files on any such machine.

A file is written by way of a temporary one beside it, which then takes its
place, so that at no time half of it is there.  The folders on the way to it
are made first.
-/
import TextRoadmap.Calendar.Instant
import TextRoadmap.Files.Path

namespace TextRoadmap

/-! ### Faults -/

/-- Why a file can not be used. -/
inductive FileError where
  | missing
  | busy
  | exists
  | notFolder
  | isFolder
  | notText
  | other (text : String)
  deriving DecidableEq

/-- The wording of the error. -/
def FileError.message : FileError → String
  | .missing => "No such file or directory (os error 2)"
  | .busy => "Device or resource busy (os error 16)"
  | .exists => "File exists (os error 17)"
  | .notFolder => "Not a directory (os error 20)"
  | .isFolder => "Is a directory (os error 21)"
  | .notText => "stream did not contain valid UTF-8"
  | .other text => text

/-- The steps of writing a file: an empty file is made, or one that is there
is emptied, then the content goes into it, and what was held back follows. -/
inductive WriteStep where
  | create
  | fill
  | flush
  deriving DecidableEq

/-- The step at which writing a file fails, and why. -/
structure WriteFault where
  step : WriteStep
  error : FileError
  deriving DecidableEq

/-! ### Machines -/

/-- What a path leads to. -/
inductive FileKind where
  | file
  | folder
  deriving DecidableEq

/-- The operations of a machine in whose monad the program runs. -/
class Machine (m : Type → Type) where
  kind? : Path → m (Option FileKind)
  read : Path → m (Except FileError ByteArray)
  write : Path → ByteArray → m (Except WriteFault Unit)
  makeFolder : Path → m (Except FileError Unit)
  rename : Path → Path → m (Except FileError Unit)
  remove : Path → m (Except FileError Unit)
  input : m ByteArray
  now : m Calendar.Instant

namespace Machine

variable {m : Type → Type} [Monad m] [Machine m]

/-- The text that the bytes encode. -/
def decode (bytes : ByteArray) : Except FileError String :=
  match String.fromUTF8? bytes with
  | some text => .ok text
  | none => .error .notText

/-- The text of a file. -/
def readText (p : Path) : m (Except FileError String) := do
  return (← Machine.read p).bind decode

/-- The text of the input. -/
def inputText : m (Except FileError String) := do
  return decode (← Machine.input)

/-- Does the path lead to anything? -/
def exists? (p : Path) : m Bool := do
  return (← Machine.kind? p).isSome

/-- Does the path lead to a file? -/
def isFile (p : Path) : m Bool := do
  return (← Machine.kind? p) = some .file

/-- Make a folder, which may be there already. -/
def ensureFolder (p : Path) : m (Except FileError Unit) := do
  match ← Machine.makeFolder p with
  | .ok () => return .ok ()
  | .error e =>
    if (← Machine.kind? p) = some .folder then return .ok () else return .error e

/-- Make the folders of the list, nearest first, up to the first that is
there: a folder whose own folder is missing has to wait for it. -/
def makeFolders : List Path → m (Except FileError Unit)
  | [] => return .ok ()
  | p :: above => do
    if p.text.isEmpty then return .ok ()
    match ← Machine.makeFolder p with
    | .ok () => return .ok ()
    | .error .missing =>
      match ← makeFolders above with
      | .error e => return .error e
      | .ok () => ensureFolder p
    | .error e =>
      if (← Machine.kind? p) = some .folder then return .ok () else return .error e

end Machine

/-! ### Writing a file in one step -/

/-- Why a file is not written. -/
inductive WriteError where
  | folder (path : Path) (error : FileError)
  | temporary (path : Path) (fault : WriteFault)
  | rename (source target : Path) (error : FileError)
  deriving DecidableEq

/-- The wording for a step that fails on the temporary file. -/
def WriteStep.failure : WriteStep → String
  | .create => "Failed to create temp file"
  | .fill => "Failed to write"
  | .flush => "Failed to flush"

/-- The wording of the error. -/
def WriteError.message : WriteError → String
  | .folder path error => s!"Failed to create directory: {path.text}: {error.message}"
  | .temporary path fault => s!"{fault.step.failure}: {path.text}: {fault.error.message}"
  | .rename source target error =>
    s!"Failed to rename {source.text} to {target.text}: {error.message}"

namespace Machine

variable {m : Type → Type} [Monad m] [Machine m]

/-- The path of the temporary file that is written first. -/
def temporaryOf (p : Path) : Path := p.withExtension "roadmap.tmp".toList

/-- The folders that have to be there for the file, nearest first. -/
def foldersOf (p : Path) : List Path :=
  match p.parent? with
  | none => []
  | some folder => folder.ancestors

/-- Write a temporary file and put it in the place of the file. -/
def replaceFile (p : Path) (bytes : ByteArray) : m (Except WriteError Unit) := do
  let temporary := temporaryOf p
  match ← Machine.write temporary bytes with
  | .error fault => return .error (.temporary temporary fault)
  | .ok () =>
    match ← Machine.rename temporary p with
    | .error e => return .error (.rename temporary p e)
    | .ok () => return .ok ()

/-- Make the folders on the way, write the file, and leave no temporary file
behind if that fails. -/
def writeFile (p : Path) (bytes : ByteArray) : m (Except WriteError Unit) := do
  match ← makeFolders (foldersOf p) with
  | .error e => return .error (.folder ((p.parent?).getD p) e)
  | .ok () =>
    match ← replaceFile p bytes with
    | .ok () => return .ok ()
    | .error e =>
      let _ ← Machine.remove (temporaryOf p)
      return .error e

end Machine

end TextRoadmap
