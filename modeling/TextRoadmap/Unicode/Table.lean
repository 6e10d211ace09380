/-
TextRoadmap/Unicode/Table.lean

Tables over code points.

A table is written as rows with blanks or line ends between them.  The row
`100-12E/2>101` is about every second code point from 100 to 12E and gives it
the number 101; a row of a single code point leaves out the end, rows of
neighbours leave out the step, a row may give several numbers with points
between them, and in a table that is a set of code points rows give none.
All numbers are hexadecimal.
-/
import TextRoadmap.Text.Digits

namespace TextRoadmap.Unicode

open TextRoadmap.Text

/-! ### Rows -/

/-- The code points from `first` to `last` in steps of `step`, and the
numbers that belong to them. -/
structure Row where
  first : Nat
  last : Nat
  step : Nat
  values : List Nat
  deriving DecidableEq, Inhabited

/-- Is the row about this code point? -/
def Row.covers (row : Row) (code : Nat) : Bool :=
  row.first ≤ code && code ≤ row.last && (code - row.first) % row.step == 0

/-- The number that the hexadecimal digits write. -/
def codePoint (digits : List Char) : Nat :=
  digits.foldl (fun n c => 16 * n + (hexValue? c).getD 0) 0

/-- The parts of `s` before and after the first `mark`; without one, all of
it and nothing. -/
def halves (mark : Char) (s : List Char) : List Char × List Char :=
  (s.takeWhile (· ≠ mark), (s.dropWhile (· ≠ mark)).tail)

/-- The row that the text writes. -/
def Row.read (s : List Char) : Row :=
  let (range, values) := halves '>' s
  let (ends, step) := halves '/' range
  let (first, last) := halves '-' ends
  { first := codePoint first
    last := codePoint (if last.isEmpty then first else last)
    step := if step.isEmpty then 1 else codePoint step
    values := if values.isEmpty then [] else (values.splitOn '.').map codePoint }

/-! ### Tables -/

/-- A table: of rows about the same code point the first one counts. -/
abbrev Table := List Row

/-- The table that the text writes. -/
def Table.read (text : String) : Table :=
  ((text.toList.map fun c => if c = '\n' then ' ' else c).splitOn ' ').map Row.read

/-- The row about the character. -/
def Table.row? (table : Table) (c : Char) : Option Row := table.find? (·.covers c.toNat)

/-- Is the character in the set? -/
def Table.contains (table : Table) (c : Char) : Bool := table.any (·.covers c.toNat)

/-- Rows of a table read back as they are written. -/
example : Table.read "41 A0-A5\n100-12E/2>101 DF>73.73" =
    [⟨0x41, 0x41, 1, []⟩, ⟨0xA0, 0xA5, 1, []⟩, ⟨0x100, 0x12E, 2, [0x101]⟩,
      ⟨0xDF, 0xDF, 1, [0x73, 0x73]⟩] := by
  decide +kernel

end TextRoadmap.Unicode
