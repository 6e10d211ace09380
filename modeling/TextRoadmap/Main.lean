/-
TextRoadmap/Main.lean

The program.  It runs on the machine at hand: files, the standard input and
the clock are those of the system.
-/
import Std.Time.DateTime.Timestamp
import TextRoadmap.CommandLine.Run

namespace TextRoadmap

open CommandLine

/-! ### The machine at hand -/

/-- The error of a file, told by the system. -/
def FileError.ofSystem : IO.Error → FileError
  | .noFileOrDirectory .. => .missing
  | .resourceBusy .. => .busy
  | .alreadyExists .. => .exists
  | .inappropriateType _ code _ => if code = 21 then .isFolder else .notFolder
  | e => .other (toString e)

/-- The result of an action of the system. -/
def trying {α : Type} (action : IO α) : IO (Except FileError α) := do
  try return .ok (← action) catch e => return .error (.ofSystem e)

/-- What a path leads to, found by reading one byte. -/
def lookAt (p : Path) : IO (Option FileKind) := do
  match ← trying (do (← IO.FS.Handle.mk p.text .read).read 1) with
  | .ok _ => return some .file
  | .error .isFolder => return some .folder
  | .error .missing | .error .notFolder => return none
  | .error _ => return some .file

/-- Write a file step by step. -/
def writeInSteps (p : Path) (content : ByteArray) : IO (Except WriteFault Unit) := do
  match ← trying (IO.FS.Handle.mk p.text .write) with
  | .error e => return .error ⟨.create, e⟩
  | .ok handle =>
    match ← trying (handle.write content) with
    | .error e => return .error ⟨.fill, e⟩
    | .ok () => return (← trying handle.flush).mapError (⟨.flush, ·⟩)

/-- The time on the clock. -/
def clock : IO Calendar.Instant := do
  let since := (← Std.Time.Timestamp.now).toDurationSinceUnixEpoch
  match Calendar.Instant.ofUnix? since.second.val since.nano.val.toNat with
  | some instant => return instant
  | none => throw (IO.userError "the clock shows a time beyond the calendar")

instance : Machine IO where
  kind? := lookAt
  read p := trying (IO.FS.readBinFile p.text)
  write := writeInSteps
  makeFolder p := trying (IO.FS.createDir p.text)
  rename source target := trying (IO.FS.rename source.text target.text)
  remove p := trying (IO.FS.removeFile p.text)
  input := do (← IO.getStdin).readBinToEnd
  now := clock

/-! ### The program -/

/-- The surroundings in which the program was started. -/
def surroundings : IO Environment := do
  let named (name : String) : IO (Option Path) := return (← IO.getEnv name).map Path.mk
  return {
    folder := ⟨(← IO.currentDir).toString⟩
    settingsFolder := ← named "ROADMAPPER_CONFIG_DIR"
    configHome := ← named "XDG_CONFIG_HOME"
    home := ← named "HOME" }

end TextRoadmap

/-- Run the program, write what it has to say, and end with its code. -/
def main (args : List String) : IO UInt32 := do
  let outcome ← TextRoadmap.CommandLine.run (← TextRoadmap.surroundings) args
  (← IO.getStdout).putStr outcome.out
  (← IO.getStderr).putStr outcome.err
  return outcome.code.toUInt32
