/-
TextRoadmap/Layout/Write.lean

Writing an instant by the pieces of a layout.

Numbers have the number of places that their token shows; a year outside
0 to 9999 carries its sign.  All instants are in universal time, so the
offset is always zero.
-/
import TextRoadmap.Calendar.Instant
import TextRoadmap.Layout.Piece
import TextRoadmap.Text.Digits

namespace TextRoadmap.Layout

open TextRoadmap.Text TextRoadmap.Calendar

/-- A year with at least four digits, signed unless it lies between 0 and
9999. -/
def writeYear (year : Int) : List Char :=
  if 0 ≤ year ∧ year ≤ 9999 then zeroPadded 4 year.natAbs
  else (if year < 0 then '-' else '+') :: zeroPadded 4 year.natAbs

/-- A number brought to two places. -/
def Fill.write : Fill → Nat → List Char
  | .zero, n => zeroPadded 2 n
  | .blank, n => padLeft 2 ' ' (decimal n)
  | .bare, n => decimal n

/-- The entry of a list of names at a position, or nothing past its end. -/
def nameAt (names : List String) (i : Nat) : List Char := (names.getD i "").toList

/-- The first three letters of a name. -/
def abbreviate (name : List Char) : List Char := name.take 3

/-- The part of the instant that the element names. -/
def Element.write (e : Element) (i : Instant) : List Char :=
  match e with
  | .year => writeYear i.date.year
  | .shortYear => zeroPadded 2 (i.date.year % 100).toNat
  | .month fill => fill.write i.date.month
  | .monthName => nameAt monthNames (i.date.month - 1)
  | .monthAbbreviation => abbreviate (nameAt monthNames (i.date.month - 1))
  | .weekdayName => nameAt weekdayNames i.date.weekday
  | .weekdayAbbreviation => abbreviate (nameAt weekdayNames i.date.weekday)
  | .day fill => fill.write i.date.day
  | .hour => zeroPadded 2 i.time.hour
  | .hour12 fill => fill.write i.time.hour12
  | .minute fill => fill.write i.time.minute
  | .second fill => fill.write i.time.writtenSecond
  | .meridiem true => (if i.time.isAfternoon then "PM" else "AM").toList
  | .meridiem false => (if i.time.isAfternoon then "pm" else "am").toList
  | .offset true => "+00:00".toList
  | .offset false => "+0000".toList

/-- The instant as the piece shows it. -/
def Piece.write (piece : Piece) (i : Instant) : List Char :=
  match piece with
  | .token _ element => element.write i
  | .literal c => [c]

/-- The instant as the pieces show it. -/
def writePieces (pieces : List Piece) (i : Instant) : List Char :=
  pieces.flatMap fun piece => piece.write i

/-- Pieces without a token write every instant as their own text. -/
theorem writePieces_of_literals {pieces : List Piece} (i : Instant)
    (h : ∀ piece ∈ pieces, ∃ c, piece = .literal c) :
    writePieces pieces i = pieces.flatMap Piece.text := by
  induction pieces with
  | nil => rfl
  | cons piece pieces ih =>
    obtain ⟨c, rfl⟩ := h _ (List.mem_cons_self ..)
    have := ih fun p hp => h p (List.mem_cons_of_mem _ hp)
    simp only [writePieces, List.flatMap_cons, Piece.write, Piece.text] at this ⊢
    rw [this]

end TextRoadmap.Layout
