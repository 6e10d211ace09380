/-
TextRoadmap/Layout/Pattern.lean

Date patterns, the notation into which layouts are translated.

In a pattern `%` begins a directive and every other character stands for
itself, runs of blank space apart from runs of other characters.  A directive
is a letter in most cases.  Before the letter of a number `-`, `0` or `_` says
how the number is filled, and some letters stand for several items.

The notation knows more parts of a date than layouts can name.  How those are
written is left open here: writing by a pattern takes it as an argument, and
fails where a directive is malformed.
-/
import TextRoadmap.Layout.Write
import TextRoadmap.Text.Blank

namespace TextRoadmap.Layout

open TextRoadmap.Text TextRoadmap.Calendar

/-! ### Items -/

/-- A number that a pattern can name. -/
inductive Quantity where
  | year
  | century
  | yearOfCentury
  | weekYear
  | weekYearOfCentury
  | quarter
  | month
  | day
  | dayOfYear
  | weekFromSunday
  | weekFromMonday
  | weekOfWeekYear
  | daysFromSunday
  | weekdayFromMonday
  | hour
  | hour12
  | minute
  | second
  | nanosecond
  | timestamp
  deriving DecidableEq

/-- A part of a date that a pattern can name and that is no plain number. -/
inductive Phrase where
  | monthName
  | monthAbbreviation
  | weekdayName
  | weekdayAbbreviation
  | meridiem (capital : Bool)
  | fraction (point : Bool) (places : Option Nat)
  | zoneName
  | offset (colons : Nat)
  | lenientOffset
  | rfc3339
  deriving DecidableEq

/-- What a pattern consists of. -/
inductive Item where
  | number (quantity : Quantity) (fill : Fill)
  | phrase (phrase : Phrase)
  | literal (text : List Char)
  | space (text : List Char)
  | error
  deriving DecidableEq

/-! ### Directives -/

/-- The number for which a letter stands, with the fill that it has if none is
given. -/
def quantityOf? : Char → Option (Quantity × Fill)
  | 'C' => some (.century, .zero)
  | 'G' => some (.weekYear, .zero)
  | 'H' => some (.hour, .zero)
  | 'I' => some (.hour12, .zero)
  | 'M' => some (.minute, .zero)
  | 'S' => some (.second, .zero)
  | 'U' => some (.weekFromSunday, .zero)
  | 'V' => some (.weekOfWeekYear, .zero)
  | 'W' => some (.weekFromMonday, .zero)
  | 'Y' => some (.year, .zero)
  | 'd' => some (.day, .zero)
  | 'e' => some (.day, .blank)
  | 'f' => some (.nanosecond, .zero)
  | 'g' => some (.weekYearOfCentury, .zero)
  | 'j' => some (.dayOfYear, .zero)
  | 'k' => some (.hour, .blank)
  | 'l' => some (.hour12, .blank)
  | 'm' => some (.month, .zero)
  | 'q' => some (.quarter, .bare)
  | 's' => some (.timestamp, .bare)
  | 'u' => some (.weekdayFromMonday, .bare)
  | 'w' => some (.daysFromSunday, .bare)
  | 'y' => some (.yearOfCentury, .zero)
  | _ => none

/-- The phrase for which a letter stands. -/
def phraseOf? : Char → Option Phrase
  | 'A' => some .weekdayName
  | 'B' => some .monthName
  | 'P' => some (.meridiem false)
  | 'Z' => some .zoneName
  | 'a' => some .weekdayAbbreviation
  | 'b' | 'h' => some .monthAbbreviation
  | 'p' => some (.meridiem true)
  | 'z' => some (.offset 0)
  | '+' => some .rfc3339
  | _ => none

/-- Hour, minute and second with colons between them. -/
def clockItems : List Item :=
  [.number .hour .zero, .literal [':'], .number .minute .zero, .literal [':'],
   .number .second .zero]

/-- Month, day and year of the century with slashes between them. -/
def slashedItems : List Item :=
  [.number .month .zero, .literal ['/'], .number .day .zero, .literal ['/'],
   .number .yearOfCentury .zero]

/-- The characters and the items for which another letter stands. -/
def compositeOf? : Char → Option (List Item)
  | '%' => some [.literal ['%']]
  | 'n' => some [.space ['\n']]
  | 't' => some [.space ['\t']]
  | 'D' | 'x' => some slashedItems
  | 'F' =>
    some [.number .year .zero, .literal ['-'], .number .month .zero, .literal ['-'],
      .number .day .zero]
  | 'R' => some [.number .hour .zero, .literal [':'], .number .minute .zero]
  | 'T' | 'X' => some clockItems
  | 'c' =>
    some ([.phrase .weekdayAbbreviation, .space [' '], .phrase .monthAbbreviation, .space [' '],
      .number .day .blank, .space [' ']] ++ clockItems ++ [.space [' '], .number .year .zero])
  | 'r' =>
    some [.number .hour12 .zero, .literal [':'], .number .minute .zero, .literal [':'],
      .number .second .zero, .space [' '], .phrase (.meridiem true)]
  | 'v' =>
    some [.number .day .blank, .literal ['-'], .phrase .monthAbbreviation, .literal ['-'],
      .number .year .zero]
  | _ => none

/-- The items of a directive of one letter. -/
def letterItems? (c : Char) : Option (List Item) :=
  match quantityOf? c with
  | some (quantity, fill) => some [.number quantity fill]
  | none =>
    match phraseOf? c with
    | some phrase => some [.phrase phrase]
    | none => compositeOf? c

/-- The number for which a letter stands, filled in the way that was given. -/
def filledItems? (fill : Fill) (c : Char) : Option (List Item) :=
  (quantityOf? c).map fun (quantity, _) => [.number quantity fill]

/-- The items of the directive that follows a percent sign, and what follows
it. -/
def readDirective? : List Char → Option (List Item × List Char)
  | '-' :: c :: rest => (filledItems? .bare c).map (·, rest)
  | '0' :: c :: rest => (filledItems? .zero c).map (·, rest)
  | '_' :: c :: rest => (filledItems? .blank c).map (·, rest)
  | '#' :: 'z' :: rest => some ([.phrase .lenientOffset], rest)
  | ':' :: 'z' :: rest => some ([.phrase (.offset 1)], rest)
  | ':' :: ':' :: 'z' :: rest => some ([.phrase (.offset 2)], rest)
  | ':' :: ':' :: ':' :: 'z' :: rest => some ([.phrase (.offset 3)], rest)
  | '.' :: 'f' :: rest => some ([.phrase (.fraction true none)], rest)
  | '.' :: '3' :: 'f' :: rest => some ([.phrase (.fraction true (some 3))], rest)
  | '.' :: '6' :: 'f' :: rest => some ([.phrase (.fraction true (some 6))], rest)
  | '.' :: '9' :: 'f' :: rest => some ([.phrase (.fraction true (some 9))], rest)
  | '3' :: 'f' :: rest => some ([.phrase (.fraction false (some 3))], rest)
  | '6' :: 'f' :: rest => some ([.phrase (.fraction false (some 6))], rest)
  | '9' :: 'f' :: rest => some ([.phrase (.fraction false (some 9))], rest)
  | c :: rest => (letterItems? c).map (·, rest)
  | [] => none

/-- A directive takes something of the pattern. -/
theorem length_lt_of_readDirective? {s rest : List Char} {items : List Item}
    (h : readDirective? s = some (items, rest)) : rest.length < s.length := by
  unfold readDirective? at h
  split at h
  all_goals
    simp only [Option.map_eq_some_iff, Option.some.injEq, Prod.mk.injEq, reduceCtorEq] at h
  -- all but the empty text leave what follows the letters of the directive
  all_goals first
    | obtain ⟨-, rfl⟩ := h
      simp only [List.length_cons]
      omega
    | obtain ⟨_, -, -, rfl⟩ := h
      simp only [List.length_cons]
      omega

/-! ### Patterns -/

/-- Does the character belong to a run of text that is not blank? -/
def isText (c : Char) : Bool := c ≠ '%' && !isBlank c

/-- The items of a pattern.  What follows a malformed directive is not looked
at. -/
def itemsOf : List Char → List Item
  | [] => []
  | c :: rest =>
    if c = '%' then
      match h : readDirective? rest with
      | some (items, after) =>
        have : after.length < rest.length := length_lt_of_readDirective? h
        items ++ itemsOf after
      | none => [.error]
    else if isBlank c then
      .space (c :: rest.takeWhile isBlank) :: itemsOf (rest.dropWhile isBlank)
    else .literal (c :: rest.takeWhile isText) :: itemsOf (rest.dropWhile isText)
termination_by s => s.length
decreasing_by
  · simp only [List.length_cons]; omega
  · exact Nat.lt_succ_of_le (List.dropWhile_suffix isBlank).length_le
  · exact Nat.lt_succ_of_le (List.dropWhile_suffix isText).length_le

/-! ### The items of layouts -/

/-- The item for a part of a date that a layout can name. -/
def Element.item : Element → Item
  | .year => .number .year .zero
  | .shortYear => .number .yearOfCentury .zero
  | .month fill => .number .month fill
  | .monthName => .phrase .monthName
  | .monthAbbreviation => .phrase .monthAbbreviation
  | .weekdayName => .phrase .weekdayName
  | .weekdayAbbreviation => .phrase .weekdayAbbreviation
  | .day fill => .number .day fill
  | .hour => .number .hour .zero
  | .hour12 fill => .number .hour12 fill
  | .minute fill => .number .minute fill
  | .second fill => .number .second fill
  | .meridiem capital => .phrase (.meridiem capital)
  | .offset true => .phrase (.offset 1)
  | .offset false => .phrase (.offset 0)

/-- The part of a date that an item names, if layouts can name it. -/
def Item.element? : Item → Option Element
  | .number .year .zero => some .year
  | .number .yearOfCentury .zero => some .shortYear
  | .number .month fill => some (.month fill)
  | .number .day fill => some (.day fill)
  | .number .hour .zero => some .hour
  | .number .hour12 fill => some (.hour12 fill)
  | .number .minute fill => some (.minute fill)
  | .number .second fill => some (.second fill)
  | .phrase .monthName => some .monthName
  | .phrase .monthAbbreviation => some .monthAbbreviation
  | .phrase .weekdayName => some .weekdayName
  | .phrase .weekdayAbbreviation => some .weekdayAbbreviation
  | .phrase (.meridiem capital) => some (.meridiem capital)
  | .phrase (.offset 0) => some (.offset false)
  | .phrase (.offset 1) => some (.offset true)
  | _ => none

/-! ### Writing by a pattern -/

/-- The instant as an item shows it, where `other` writes what no layout can
name. -/
def Item.write? (other : Item → Instant → Option (List Char)) (item : Item) (i : Instant) :
    Option (List Char) :=
  match item with
  | .literal text | .space text => some text
  | .error => none
  | item =>
    match item.element? with
    | some e => some (e.write i)
    | none => other item i

/-- The instant as the items show it, unless one of them can not be written. -/
def writeItems? (other : Item → Instant → Option (List Char)) (items : List Item)
    (i : Instant) : Option (List Char) :=
  (items.mapM fun item => Item.write? other item i).map List.flatten

end TextRoadmap.Layout
