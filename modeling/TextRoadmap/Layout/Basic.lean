/-
TextRoadmap/Layout/Basic.lean

Date layouts: the text that says how a roadmap writes its dates, with
reading and writing by it.

A text is tried in three ways, and the first that succeeds counts: as an
instant with an offset, as a date and a time of day in universal time, and
as a date alone, which stands for its midnight.  In the last way a month or
day that the layout does not name is the first.
-/
import TextRoadmap.Layout.Read
import TextRoadmap.Layout.Write

namespace TextRoadmap

open TextRoadmap.Text TextRoadmap.Calendar

/-- A date layout, given by the way it writes the reference date. -/
structure Layout where
  text : String
  deriving DecidableEq

namespace Layout

/-- The layout used where none is given. -/
def standard : Layout := ⟨"2006-01-02"⟩

/-- The tokens and characters of the layout. -/
def pieces (l : Layout) : List Piece := piecesOf l.text.toList

/-- The layout as a pattern with a directive for each token. -/
def pattern (l : Layout) : String := String.ofList (l.pieces.flatMap Piece.pattern)

/-- The empty layout reads no date. -/
def isEmpty (l : Layout) : Bool := l.text.isEmpty

/-- The number of `", "`-separated pieces over which a written date extends. -/
def pieceCount (l : Layout) : Nat := (commaSplit l.text.toList).length

/-! ### Fields that a layout leaves out -/

/-- Does the piece name the month? -/
def Piece.namesMonth : Piece → Bool
  | .token _ (.month _) | .token _ .monthName | .token _ .monthAbbreviation => true
  | _ => false

/-- Does the piece name the day of the month? -/
def Piece.namesDay : Piece → Bool
  | .token _ (.day _) => true
  | _ => false

/-- The piece for a number that is supplied after the text of a date. -/
def suppliedPieces (element : Element) : List Piece := [.literal ' ', .token ['0', '1'] element]

/-- What has to be appended to the layout so that it names month and day:
the missing pieces, in this order. -/
def supplement (l : Layout) : List Piece :=
  (if l.pieces.any Piece.namesMonth then [] else suppliedPieces (.month .zero)) ++
    (if l.pieces.any Piece.namesDay then [] else suppliedPieces (.day .zero))

/-- The text that supplies a first month and a first day. -/
def supplementText (l : Layout) : List Char := l.supplement.flatMap Piece.text

/-! ### Reading and writing -/

/-- The instant as the layout writes it. -/
def format (l : Layout) (i : Instant) : String := String.ofList (writePieces l.pieces i)

/-- The instant that a text names, if it is a date by this layout. -/
def parse? (l : Layout) (s : String) : Option Instant :=
  if l.isEmpty then none
  else
    let given := fieldsOf? l.pieces s.toList
    (given.bind Fields.zonedInstant?) <|>
    (given.bind Fields.plainInstant?) <|>
    ((fieldsOf? (l.pieces ++ l.supplement) (s.toList ++ l.supplementText)).bind
      Fields.startOfDay?)

/-- A month without a day begins on its first day. -/
example : ((Layout.mk "January 2006").parse? "February 2020").map (·.date.day) = some 1 := by
  decide +kernel

end Layout

end TextRoadmap
