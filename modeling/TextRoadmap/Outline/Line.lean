/-
TextRoadmap/Outline/Line.lean

The lines of an outline.

An outline is a roadmap as plain text.  A line that is not blank is a
milestone if its first mark is `|`, and a project otherwise.  Projects are
indented by repetitions of one unit, which the first indented line shows.
The text in front of the last `[` of a line is the title and what stands
between that bracket and the last `]` its extra block, provided that the
brackets come in this order; a line without an extra block is all title.
-/
import TextRoadmap.Text.Cut

namespace TextRoadmap.Outline

open TextRoadmap.Text

/-! ### Cutting a text into lines -/

/-- The line without the carriage return at its end. -/
def dropReturn (line : List Char) : List Char := (stripSuffix? ['\r'] line).getD line

/-- The lines of a text; the empty text has none. -/
def linesOf (s : List Char) : List (List Char) :=
  if s.isEmpty then [] else (s.splitOn '\n').map dropReturn

/-! ### Kinds of lines -/

/-- The characters that do not count at the ends of titles and blocks. -/
def isMargin (c : Char) : Bool := c = '\t' || c = '\r' || c = ' '

/-- The characters that indent a line. -/
def isIndent (c : Char) : Bool := c = ' ' || c = '\t'

/-- Does the line hold nothing? -/
def isBlankLine (line : List Char) : Bool := line.all isMargin

/-- Does the line name a milestone? -/
def isMilestoneLine (line : List Char) : Bool := (line.dropWhile isMargin).head? = some '|'

/-- Does the line name a project? -/
def isProjectLine (line : List Char) : Bool := !isBlankLine line && !isMilestoneLine line

/-! ### Indentation -/

/-- The unit of indentation that a line shows: all its indentation, if it has
any and something follows. -/
def shownUnit? (line : List Char) : Option (List Char) :=
  if line.all isIndent || (line.takeWhile isIndent).isEmpty then none
  else some (line.takeWhile isIndent)

/-- The unit of indentation of a text, a tab unless a line shows another. -/
def unitOf (lines : List (List Char)) : List Char := (lines.findSome? shownUnit?).getD ['\t']

/-- A nonempty beginning leaves a shorter text. -/
theorem length_lt_of_stripPrefix? {unit line rest : List Char} (hu : unit ≠ [])
    (h : stripPrefix? unit line = some rest) : rest.length < line.length := by
  rw [stripPrefix?_eq_some_iff.1 h, List.length_append]
  have := List.length_pos_iff.2 hu
  omega

/-- How many times the line begins with the unit, and what follows. -/
def splitUnits (unit line : List Char) : Nat × List Char :=
  match h : stripPrefix? unit line with
  | none => (0, line)
  | some rest =>
    if hu : unit = [] then (0, line)
    else
      have : rest.length < line.length := length_lt_of_stripPrefix? hu h
      let (count, body) := splitUnits unit rest
      (count + 1, body)
termination_by line.length

/-! ### Title and extra block -/

/-- The body of a line without the mark of a milestone. -/
def dropMark (body : List Char) : List Char := (stripPrefix? ['|'] body).getD body

/-- The title and the extra block of the body of a line. -/
def splitExtra (body : List Char) : List Char × List Char :=
  match splitLast? '[' body with
  | none => (body, [])
  | some (title, tail) =>
    match splitLast? ']' tail with
    | none => (body, [])
    | some (extra, _) => (trim isMargin title, trim isMargin extra)

/-- A body without an opening bracket is all title. -/
theorem splitExtra_of_not_mem {body : List Char} (h : '[' ∉ body) :
    splitExtra body = (body, []) := by
  unfold splitExtra
  split
  · rfl
  · rename_i title tail hs
    exact absurd (by rw [(eq_of_splitLast? hs).1]; simp) h

end TextRoadmap.Outline
