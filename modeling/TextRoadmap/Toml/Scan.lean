/-
TextRoadmap/Toml/Scan.lean

The smallest parts of a TOML document: blanks, comments, line ends, strings,
and values whose contents do not matter.
-/
import TextRoadmap.Calendar.Date
import TextRoadmap.Text.Cut
import TextRoadmap.Text.Numeral

namespace TextRoadmap.Toml

open TextRoadmap.Text

/-! ### Blanks and line ends -/

/-- The blanks within a line. -/
def isGap (c : Char) : Bool := c = ' ' || c = '\t'

/-- The text without the blanks at its start. -/
def skipGap (s : List Char) : List Char := s.dropWhile isGap

/-- The characters that need no escape: all but the controls other than the
tab. -/
def isPlain (c : Char) : Bool := c = '\t' || (0x20 ≤ c.toNat && c.toNat ≠ 0x7f)

/-- The text after the line end at its start. -/
def dropNewline? : List Char → Option (List Char)
  | '\n' :: rest => some rest
  | '\r' :: '\n' :: rest => some rest
  | _ => none

/-- The text without the comment at its start. -/
def skipComment : List Char → List Char
  | '#' :: rest => rest.dropWhile isPlain
  | s => s

/-- The text after the end of a line, at which only blanks and a comment may
stand. -/
def endLine? (s : List Char) : Option (List Char) :=
  match skipComment (skipGap s) with
  | [] => some []
  | rest => dropNewline? rest

/-- The text without blanks, comments and line ends at its start. -/
def skipLines : (inComment : Bool) → List Char → List Char
  | _, [] => []
  | _, '\n' :: rest => skipLines false rest
  | _, '\r' :: '\n' :: rest => skipLines false rest
  | true, c :: rest => if isPlain c then skipLines true rest else c :: rest
  | false, c :: rest =>
    if isGap c then skipLines false rest
    else if c = '#' then skipLines true rest
    else c :: rest

/-! ### Strings -/

/-- The characters with an escape of their own. -/
def shortEscapes : List (Char × Char) :=
  [('b', '\x08'), ('t', '\t'), ('n', '\n'), ('f', '\x0c'), ('r', '\r'), ('"', '"'),
   ('\\', '\\')]

/-- The character whose number is written by all the given digits. -/
def numberedChar? (digits : List Char) : Option Char := do
  let values ← digits.mapM hexValue?
  let n := values.foldl (fun n digit => 16 * n + digit) 0
  if n.isValidChar then some (Char.ofNat n) else none

/-- The character that an escape stands for, and how many characters after
the backslash write it. -/
def readEscape? : List Char → Option (Char × Nat)
  | [] => none
  | c :: rest =>
    if c = 'u' then
      if rest.length < 4 then none else (numberedChar? (rest.take 4)).map fun d => (d, 5)
    else if c = 'U' then
      if rest.length < 8 then none else (numberedChar? (rest.take 8)).map fun d => (d, 9)
    else (shortEscapes.lookup c).map fun d => (d, 1)

/-- The rest of a string in quotes after the first of them, without the next
`skip` characters. -/
def readBasicFrom : (skip : Nat) → List Char → Option (List Char × List Char)
  | _, [] => none
  | skip + 1, _ :: rest => readBasicFrom skip rest
  | 0, c :: rest =>
    if c = '"' then some ([], rest)
    else if c = '\\' then do
      let (value, used) ← readEscape? rest
      let (chars, after) ← readBasicFrom used rest
      some (value :: chars, after)
    else if isPlain c then (readBasicFrom 0 rest).map fun (chars, after) => (c :: chars, after)
    else none

/-- The number of characters after a backslash that is followed by a line end:
all blanks and line ends. -/
def continuation? (s : List Char) : Option Nat :=
  (dropNewline? (skipGap s)).map fun rest => s.length - (dropBlankLines rest).length
where
  dropBlankLines : List Char → List Char
    | '\n' :: rest => dropBlankLines rest
    | '\r' :: '\n' :: rest => dropBlankLines rest
    | c :: rest => if isGap c then dropBlankLines rest else c :: rest
    | [] => []

/-- The number of quotes at the start of the text. -/
def quoteRun (mark : Char) (s : List Char) : Nat := (s.takeWhile (· = mark)).length

/-- The rest of a string of several lines, with escapes or without. Up to two
quotes are part of the string, also in front of the three that end it. -/
def readLongFrom (mark : Char) (escapes : Bool) :
    (skip : Nat) → List Char → Option (List Char × List Char)
  | _, [] => none
  | skip + 1, _ :: rest => readLongFrom mark escapes skip rest
  | 0, c :: rest =>
    if c = mark then
      let count := quoteRun mark (c :: rest)
      if count < 3 then
        (readLongFrom mark escapes (count - 1) rest).map fun (chars, after) =>
          (List.replicate count mark ++ chars, after)
      else if count < 6 then some (List.replicate (count - 3) mark, rest.drop (count - 1))
      else none
    else if escapes && c = '\\' then
      match continuation? rest with
      | some used => readLongFrom mark escapes used rest
      | none => do
        let (value, used) ← readEscape? rest
        let (chars, after) ← readLongFrom mark escapes used rest
        some (value :: chars, after)
    else if c = '\r' then
      if rest.head? = some '\n' then readLongFrom mark escapes 0 rest else none
    else if isPlain c || c = '\n' then
      (readLongFrom mark escapes 0 rest).map fun (chars, after) => (c :: chars, after)
    else none

/-- The rest of a string of several lines after its three quotes. -/
def readLong (mark : Char) (escapes : Bool) (s : List Char) : Option (List Char × List Char) :=
  readLongFrom mark escapes 0 ((dropNewline? s).getD s)

/-- The rest of a string without escapes. -/
def readLiteral (s : List Char) : Option (List Char × List Char) :=
  match s.dropWhile fun c => isPlain c && c ≠ '\'' with
  | '\'' :: rest => some (s.takeWhile fun c => isPlain c && c ≠ '\'', rest)
  | _ => none

/-- A string that does not span lines. -/
def readShortString? : List Char → Option (String × List Char)
  | '"' :: rest => (readBasicFrom 0 rest).map fun (chars, after) => (String.ofList chars, after)
  | '\'' :: rest => (readLiteral rest).map fun (chars, after) => (String.ofList chars, after)
  | _ => none

/-- A string. -/
def readString? : List Char → Option (String × List Char)
  | '"' :: '"' :: '"' :: rest =>
    (readLong '"' true rest).map fun (chars, after) => (String.ofList chars, after)
  | '\'' :: '\'' :: '\'' :: rest =>
    (readLong '\'' false rest).map fun (chars, after) => (String.ofList chars, after)
  | s => readShortString? s

/-! ### Dates and times -/

/-- Two digits whose number lies in the given range. -/
def dropTwo? (least most : Nat) : List Char → Option (Nat × List Char)
  | a :: b :: rest =>
    let n := 10 * digitValue a + digitValue b
    if a.isDigit && b.isDigit && least ≤ n && n ≤ most then some (n, rest) else none
  | _ => none

/-- The text after a date. -/
def dropDate? (s : List Char) : Option (List Char) :=
  match takeDigits 4 s with
  | (year, '-' :: rest) => do
    let (month, rest) ← dropTwo? 1 12 rest
    let rest ← stripPrefix? ['-'] rest
    let (_, rest) ← dropTwo? 1 (Calendar.daysInMonth (digitsValue year) month) rest
    if year.length = 4 then some rest else none
  | _ => none

/-- The text after a fraction of a second, if there is one. -/
def dropFraction? : List Char → Option (List Char)
  | '.' :: rest => if rest.head?.any Char.isDigit then some (rest.dropWhile Char.isDigit) else none
  | s => some s

/-- The text after a time of day. -/
def dropTime? (s : List Char) : Option (List Char) := do
  let (_, rest) ← dropTwo? 0 23 s
  let rest ← stripPrefix? [':'] rest
  let (_, rest) ← dropTwo? 0 59 rest
  let rest ← stripPrefix? [':'] rest
  let (_, rest) ← dropTwo? 0 60 rest
  dropFraction? rest

/-- The text after an offset, if there is one. -/
def dropOffset? : List Char → Option (List Char)
  | 'Z' :: rest | 'z' :: rest => some rest
  | '+' :: rest | '-' :: rest => do
    let (_, rest) ← dropTwo? 0 23 rest
    let rest ← stripPrefix? [':'] rest
    let (_, rest) ← dropTwo? 0 59 rest
    some rest
  | s => some s

/-- The text after a date, a time, or both. -/
def dropDateTime? (s : List Char) : Option (List Char) :=
  match dropDate? s with
  | none => dropTime? s
  | some rest =>
    match rest with
    | 'T' :: time | 't' :: time => (dropTime? time).bind dropOffset?
    | ' ' :: time => ((dropTime? time).bind dropOffset?) <|> some rest
    | _ => some rest

/-! ### Numbers -/

/-- A run of digits in which single underscores may separate digits; the run
without them, and what follows. -/
def readMarkedDigits? (isDigit : Char → Bool) (s : List Char) :
    Option (List Char × List Char) :=
  let run := s.takeWhile fun c => isDigit c || c = '_'
  if (run.splitOn '_').all (!·.isEmpty) then
    some (run.filter (· ≠ '_'), s.dropWhile fun c => isDigit c || c = '_')
  else none

/-- The sign of a number. -/
def readSign : List Char → Bool × List Char
  | '+' :: rest => (false, rest)
  | '-' :: rest => (true, rest)
  | s => (false, s)

/-- The digits in front of the point: a single zero, or a run that does not
begin with one. -/
def readWhole? : List Char → Option (List Char × List Char)
  | '0' :: rest => some (['0'], rest)
  | s => readMarkedDigits? Char.isDigit s

/-- The digits after the point, if there is one. -/
def readFraction? : List Char → Option (Option (List Char) × List Char)
  | '.' :: rest => (readMarkedDigits? Char.isDigit rest).map fun (run, after) => (some run, after)
  | s => some (none, s)

/-- The exponent, if there is one. -/
def readExponent? : List Char → Option (Option Int × List Char)
  | 'e' :: rest | 'E' :: rest =>
    let (negative, rest) := readSign rest
    (readMarkedDigits? Char.isDigit rest).map fun (run, after) =>
      (some (if negative then -(digitsValue run : Int) else digitsValue run), after)
  | s => some (none, s)

/-- A decimal number. -/
def readNumeral? (s : List Char) : Option (Numeral × List Char) := do
  let (negative, rest) := readSign s
  let (whole, rest) ← readWhole? rest
  let (fraction, rest) ← readFraction? rest
  let (exponent, rest) ← readExponent? rest
  some (⟨negative, whole, fraction, exponent⟩, rest)

/-- Integers have 64 bits; other numbers must not be infinite, but negative
ones may be. -/
def inRange (n : Numeral) : Bool :=
  if n.isInteger then digitsValue n.whole < 0x8000000000000000 + n.negative.toNat
  else n.negative || !n.isHuge

/-- The text after an integer of 63 bits in the given base. -/
def dropBased? (base : Nat) (s : List Char) : Option (List Char) := do
  let (digits, rest) ← readMarkedDigits? (fun c => (hexValue? c).any (· < base)) s
  let n := digits.foldl (fun n c => base * n + (hexValue? c).getD 0) 0
  if n < 0x8000000000000000 then some rest else none

/-- The text after a number. -/
def dropNumber? (s : List Char) : Option (List Char) :=
  match s with
  | '0' :: 'x' :: rest => dropBased? 16 rest
  | '0' :: 'o' :: rest => dropBased? 8 rest
  | '0' :: 'b' :: rest => dropBased? 2 rest
  | _ =>
    let (_, rest) := readSign s
    (stripPrefix? "inf".toList rest) <|> (stripPrefix? "nan".toList rest) <|>
      (match readNumeral? s with
        | some (n, rest) => if inRange n then some rest else none
        | none => none)

/-- The text after a value that is neither a string nor made of values. -/
def dropScalar? (s : List Char) : Option (List Char) :=
  (stripPrefix? "true".toList s) <|> (stripPrefix? "false".toList s) <|>
    dropDateTime? s <|> dropNumber? s

end TextRoadmap.Toml
