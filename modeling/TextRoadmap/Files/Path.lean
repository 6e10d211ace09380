/-
TextRoadmap/Files/Path.lean

Paths of files and folders as they are written.

A path is a start (nothing, the root or a single point) and segments with
slashes between them.  Empty segments and further points count for nothing,
so they do not show where a path is cut, but the text of what is left stays
as it was.
-/
import TextRoadmap.Text.Cut

namespace TextRoadmap

/-- A path, given by its text. -/
structure Path where
  text : String
  deriving DecidableEq

namespace Path

/-- The path written by the characters. -/
def ofChars (s : List Char) : Path := ⟨String.ofList s⟩

/-- The characters of the path. -/
def chars (p : Path) : List Char := p.text.toList

/-- Does the path start at the root? -/
def isAbsolute (p : Path) : Bool := p.chars.head? = some '/'

/-! ### Segments -/

/-- The length of the start of a path. -/
def startLength : List Char → Nat
  | '/' :: _ => 1
  | ['.'] => 1
  | '.' :: '/' :: _ => 1
  | _ => 0

/-- The start of the path. -/
def start (p : Path) : List Char := p.chars.take (startLength p.chars)

/-- Does the segment count for nothing? -/
def isTrivial (segment : List Char) : Bool := segment.isEmpty || segment = ['.']

/-- The segments up to the last one that counts. -/
def dropTrivial (segments : List (List Char)) : List (List Char) :=
  (segments.reverse.dropWhile isTrivial).reverse

/-- The segments after the start, up to the last one that counts. -/
def segments (p : Path) : List (List Char) :=
  dropTrivial ((p.chars.drop (startLength p.chars)).splitOn '/')

/-- The path with the given start and segments. -/
def ofSegments (start : List Char) (segments : List (List Char)) : Path :=
  ofChars (start ++ ['/'].intercalate segments)

/-! ### Parts -/

/-- The path of the folder that holds what the path names.  The root is in no
folder; a single name is in the folder of the empty path. -/
def parent? (p : Path) : Option Path :=
  if p.segments.isEmpty then (if p.start = ['.'] then some ⟨""⟩ else none)
  else some (ofSegments p.start (dropTrivial p.segments.dropLast))

/-- The last segment, unless it leads to a folder above. -/
def fileName? (p : Path) : Option (List Char) :=
  p.segments.getLast?.filter (· ≠ ['.', '.'])

/-- A file name without its extension, the part from the last point on.  A
point in front is no extension. -/
def stemOf (name : List Char) : List Char :=
  match Text.splitLast? '.' name with
  | some (stem, _) => if stem.isEmpty then name else stem
  | none => name

/-- The file name without its extension. -/
def fileStem? (p : Path) : Option (List Char) := p.fileName?.map stemOf

/-- The path with another extension; a path without a file name stays. -/
def withExtension (p : Path) (extension : List Char) : Path :=
  match p.fileStem? with
  | none => p
  | some stem => ofSegments p.start (p.segments.dropLast ++ [stem ++ '.' :: extension])

/-- The path below another one. -/
def join (folder p : Path) : Path :=
  if p.isAbsolute || folder.text.isEmpty then p
  else if folder.chars.getLast? = some '/' then ⟨folder.text ++ p.text⟩
  else ⟨folder.text ++ "/" ++ p.text⟩

/-- The path and all folders above it, nearest first. -/
def ancestors (p : Path) : List Path :=
  p ::
    match p.parent? with
    | none => []
    | some folder => if folder.text.length < p.text.length then ancestors folder else []
termination_by p.text.length

/-- The extension of a file name is cut off. -/
example : fileStem? ⟨"plans/q3.draft.txt"⟩ = some "q3.draft".toList := by decide

/-- What does not count is cut off with the last segment. -/
example : parent? ⟨"plans/./q3.txt/"⟩ = some ⟨"plans"⟩ := by decide

end Path

end TextRoadmap
