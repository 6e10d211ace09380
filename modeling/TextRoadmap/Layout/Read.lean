/-
TextRoadmap/Layout/Read.lean

Reading a date by the pieces of a layout.

Reading is more generous than writing.  Blank space may stand before every
number, and any amount of it (even none) where the layout has some; numbers
may have fewer digits than the layout shows; names are read in any case.  A
year with a sign may have any number of digits.
-/
import TextRoadmap.Layout.Fields
import TextRoadmap.Layout.Piece
import TextRoadmap.Text.Blank
import TextRoadmap.Text.Digits

namespace TextRoadmap.Layout

open TextRoadmap.Text TextRoadmap.Calendar

/-! ### Numbers and names -/

/-- A number of at most two digits after any blank space. -/
def readTwo? (s : List Char) : Option (Nat × List Char) := readNumber? 2 (skipBlank s)

/-- A year after any blank space: a sign and any number of digits, or up to
four digits. -/
def readYear? (s : List Char) : Option (Int × List Char) :=
  match skipBlank s with
  | '-' :: rest => (readNumber? rest.length rest).map fun (n, after) => (-(n : Int), after)
  | '+' :: rest => (readNumber? rest.length rest).map fun (n, after) => ((n : Int), after)
  | rest => (readNumber? 4 rest).map fun (n, after) => ((n : Int), after)

/-- What follows `name` in `s`, where ASCII letters match in either case. -/
def stripName? : (name s : List Char) → Option (List Char)
  | [], s => some s
  | _ :: _, [] => none
  | a :: name, c :: s => if a.toLower = c.toLower then stripName? name s else none

/-- The position of the name whose first three letters begin `s`, and what
follows them. -/
def readAbbreviation? (names : List String) (s : List Char) : Option (Nat × List Char) :=
  names.zipIdx.findSome? fun (name, i) =>
    (stripName? (name.toList.take 3) s).map fun rest => (i, rest)

/-- The position of the name that begins `s`, in full or by its first three
letters, and what follows it. -/
def readName? (names : List String) (s : List Char) : Option (Nat × List Char) :=
  (readAbbreviation? names s).map fun (i, rest) =>
    (i, (stripName? ((names.getD i "").toList.drop 3) rest).getD rest)

/-- The half of the day, `am` or `pm` in either case. -/
def readMeridiem? (s : List Char) : Option (Bool × List Char) :=
  match stripName? ['a', 'm'] s with
  | some rest => some (false, rest)
  | none => (stripName? ['p', 'm'] s).map fun rest => (true, rest)

/-! ### Offsets -/

/-- The sign of an offset; a minus sign may be the typographic one. -/
def readSign? : List Char → Option (Int × List Char)
  | '+' :: rest => some (1, rest)
  | '-' :: rest => some (-1, rest)
  | '−' :: rest => some (-1, rest)
  | _ => none

/-- The two digits at the start of `s`. -/
def readPair? : List Char → Option (Nat × List Char)
  | a :: b :: rest =>
    if a.isDigit && b.isDigit then some (10 * digitValue a + digitValue b, rest) else none
  | _ => none

/-- An offset in minutes: a sign, two digits of hours and two of minutes,
with any colons and blank space between them. -/
def readOffset? (s : List Char) : Option (Int × List Char) := do
  let (sign, rest) ← readSign? s
  let (hours, rest) ← readPair? rest
  let (minutes, rest) ← readPair? (rest.dropWhile fun c => c = ':' || isBlank c)
  if minutes < 60 then some (sign * (hours * 60 + minutes), rest) else none

/-! ### Pieces -/

/-- Read a value and store it in its field. -/
def readInto? {α : Type} (read : List Char → Option (α × List Char))
    (store : α → Option Fields) (s : List Char) : Option (Fields × List Char) :=
  (read s).bind fun (value, rest) => (store value).map fun f => (f, rest)

/-- Read the part of a date that the element names. -/
def Element.read? (e : Element) (f : Fields) : List Char → Option (Fields × List Char) :=
  match e with
  | .year => readInto? readYear? f.setYear?
  | .shortYear => readInto? readTwo? f.setShortYear?
  | .month _ => readInto? readTwo? f.setMonth?
  | .monthName => readInto? (readName? monthNames) fun i => f.setMonth? (i + 1)
  | .monthAbbreviation => readInto? (readAbbreviation? monthNames) fun i => f.setMonth? (i + 1)
  | .weekdayName => readInto? (readName? weekdayNames) f.setWeekday?
  | .weekdayAbbreviation => readInto? (readAbbreviation? weekdayNames) f.setWeekday?
  | .day _ => readInto? readTwo? f.setDay?
  | .hour => readInto? readTwo? f.setHour?
  | .hour12 _ => readInto? readTwo? f.setHour12?
  | .minute _ => readInto? readTwo? f.setMinute?
  | .second _ => readInto? readTwo? f.setSecond?
  | .meridiem _ => readInto? readMeridiem? f.setAfternoon?
  | .offset _ => readInto? (fun s => readOffset? (skipBlank s)) f.setOffset?

/-- Read what the piece shows: a character that is blank matches any blank
space, any other character only itself. -/
def Piece.read? (piece : Piece) (f : Fields) (s : List Char) : Option (Fields × List Char) :=
  match piece with
  | .token _ element => element.read? f s
  | .literal c =>
    if isBlank c then some (f, skipBlank s)
    else (stripPrefix? [c] s).map fun rest => (f, rest)

/-- Read the pieces one after the other. -/
def readPieces? (pieces : List Piece) (f : Fields) (s : List Char) :
    Option (Fields × List Char) :=
  pieces.foldlM (fun (f, s) piece => piece.read? f s) (f, s)

/-- The fields of a text that consists of nothing but the pieces. -/
def fieldsOf? (pieces : List Piece) (s : List Char) : Option Fields :=
  match readPieces? pieces Fields.empty s with
  | some (f, []) => some f
  | _ => none

end TextRoadmap.Layout
