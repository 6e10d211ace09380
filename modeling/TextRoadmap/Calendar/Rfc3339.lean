/-
TextRoadmap/Calendar/Rfc3339.lean

Instants as they stand in documents: RFC 3339 in universal time, with years
outside 0 to 9999 signed.

Writing uses as few groups of three digits for the fraction as the instant
needs.  Reading also takes a blank for the `T`, blank space between the
parts, any number of digits in the fraction (those after the ninth are
dropped), any offset, `Z` or `UTC`.
-/
import TextRoadmap.Layout.Read
import TextRoadmap.Layout.Write

namespace TextRoadmap.Calendar

open TextRoadmap.Text TextRoadmap.Layout

/-! ### Writing -/

/-- The fraction of a second with three, six or nine digits, the fewest that
are exact; no fraction is written as nothing. -/
def writeFraction (nano : Nat) : List Char :=
  if nano = 0 then []
  else if nano % 1000000 = 0 then '.' :: zeroPadded 3 (nano / 1000000)
  else if nano % 1000 = 0 then '.' :: zeroPadded 6 (nano / 1000)
  else '.' :: zeroPadded 9 nano

/-- The instant in universal time. -/
def Instant.toRfc3339 (i : Instant) : String :=
  String.ofList <|
    writeYear i.date.year ++ '-' :: zeroPadded 2 i.date.month ++
    '-' :: zeroPadded 2 i.date.day ++ 'T' :: zeroPadded 2 i.time.hour ++
    ':' :: zeroPadded 2 i.time.minute ++ ':' :: zeroPadded 2 i.time.writtenSecond ++
    writeFraction i.time.fraction ++ ['Z']

/-! ### Reading -/

/-- The date: year, month and day with hyphens between them. -/
def datePieces : List Piece :=
  [.token [] .year, .literal ' ', .literal '-', .token [] (.month .zero), .literal ' ',
   .literal '-', .token [] (.day .zero)]

/-- The time: hour, minute and second with colons between them. -/
def timePieces : List Piece :=
  [.token [] .hour, .literal ' ', .literal ':', .token [] (.minute .zero), .literal ' ',
   .literal ':', .token [] (.second .zero)]

/-- A fraction in nanoseconds: a point and at least one digit, of which nine
count.  Without a point there is none. -/
def readFraction? (f : Fields) : List Char → Option (Fields × List Char)
  | '.' :: rest =>
    match takeDigits 9 rest with
    | ([], _) => none
    | (run, after) =>
      (f.setFraction? (digitsValue (run ++ List.replicate (9 - run.length) '0'))).map fun f =>
        (f, after.dropWhile Char.isDigit)
  | s => some (f, s)

/-- The minutes ahead of universal time: `Z`, `UTC` or an offset. -/
def readZone? (s : List Char) : Option (Int × List Char) :=
  match stripName? ['u', 't', 'c'] s with
  | some rest => some (0, rest)
  | none =>
    match stripName? ['z'] s with
    | some rest => some (0, rest)
    | none => readOffset? s

/-- The mark between date and time. -/
def readDivider? : List Char → Option (List Char)
  | 'T' :: rest | 't' :: rest | ' ' :: rest => some rest
  | _ => none

/-- The instant that the text names. -/
def Instant.ofRfc3339? (s : String) : Option Instant := do
  let (f, rest) ← readPieces? datePieces Fields.empty s.toList
  let rest ← readDivider? rest
  let (f, rest) ← readPieces? timePieces f rest
  let (f, rest) ← readFraction? f rest
  let (minutes, rest) ← readZone? (skipBlank rest)
  let f ← f.setOffset? minutes
  if (skipBlank rest).isEmpty then f.zonedInstant? else none

end TextRoadmap.Calendar
