/-
TextRoadmap/Json/Scan.lean

The smallest parts of a JSON text: blanks, strings, numbers and words.

A text is read from left to right in one pass, and the first fault decides.
There are three kinds of faults: the text breaks the grammar, it ends too
early, or it is JSON but not what the reader wants.
-/
import TextRoadmap.Text.Numeral

namespace TextRoadmap.Json

open TextRoadmap.Text

/-! ### Faults -/

/-- Why a value is not the one wanted. -/
inductive Mismatch where
  | kind
  | missing (field : String)
  | duplicate (field : String)
  | refused (reason : String)
  deriving DecidableEq

/-- Why reading stopped. -/
inductive Fault where
  | malformed
  | ended
  | unfit (mismatch : Mismatch)
  deriving DecidableEq

/-- A reader takes its value from the start of a text and leaves the rest. -/
abbrev Reader (α : Type) := List Char → Except Fault (α × List Char)

/-! ### Blanks -/

/-- The blanks between the parts of a text. -/
def isSpace (c : Char) : Bool := c = ' ' || c = '\n' || c = '\t' || c = '\r'

/-- The text without the blanks at its start. -/
def skipSpace (s : List Char) : List Char := s.dropWhile isSpace

/-- The fault of a text that should have gone on differently. -/
def Fault.at : List Char → Fault
  | [] => .ended
  | _ :: _ => .malformed

/-- The text after the given mark and the blanks before it. -/
def expect (mark : Char) (s : List Char) : Except Fault (List Char) :=
  match skipSpace s with
  | c :: rest => if c = mark then .ok rest else .error .malformed
  | [] => .error .ended

/-- The text after the given word. -/
def expectWord : (word s : List Char) → Except Fault (List Char)
  | [], s => .ok s
  | _ :: _, [] => .error .ended
  | a :: word, c :: s => if a = c then expectWord word s else .error .malformed

/-! ### Strings -/

/-- The number written by the four hexadecimal digits at the start of the
text.  A text of fewer than four bytes ends too early. -/
def readHex4 : List Char → Except Fault Nat
  | a :: b :: c :: d :: _ =>
    match [a, b, c, d].mapM hexValue? with
    | some digits => .ok (digits.foldl (fun n digit => 16 * n + digit) 0)
    | none => .error .malformed
  | s => .error (if 4 ≤ (String.ofList s).utf8ByteSize then .malformed else .ended)

/-- Is it the first half of a pair? -/
def isHighSurrogate (n : Nat) : Bool := 0xd800 ≤ n && n ≤ 0xdbff

/-- Is it the second half of a pair? -/
def isLowSurrogate (n : Nat) : Bool := 0xdc00 ≤ n && n ≤ 0xdfff

/-- The second half of a pair, which another escape has to give. -/
def readLowSurrogate : List Char → Except Fault Nat
  | '\\' :: 'u' :: rest => do
    let n ← readHex4 rest
    if isLowSurrogate n then .ok n else .error .malformed
  | [] | ['\\'] => .error .ended
  | _ => .error .malformed

/-- The character given by number after `\u`, and how many characters write
it.  Where the value does not matter, halves of pairs may stand alone. -/
def readNumbered (strict : Bool) (s : List Char) : Except Fault (Char × Nat) := do
  let n ← readHex4 s
  if !strict || !(isHighSurrogate n || isLowSurrogate n) then .ok (Char.ofNat n, 4)
  else if isLowSurrogate n then .error .malformed
  else
    let m ← readLowSurrogate (s.drop 4)
    .ok (Char.ofNat (0x10000 + (n - 0xd800) * 0x400 + (m - 0xdc00)), 10)

/-- The characters with an escape of their own. -/
def shortEscapes : List (Char × Char) :=
  [('"', '"'), ('\\', '\\'), ('/', '/'), ('b', '\x08'), ('f', '\x0c'), ('n', '\n'),
   ('r', '\r'), ('t', '\t')]

/-- The character that an escape stands for, and how many characters after
the backslash write it. -/
def readEscape (strict : Bool) : List Char → Except Fault (Char × Nat)
  | [] => .error .ended
  | 'u' :: rest => (readNumbered strict rest).map fun (c, used) => (c, used + 1)
  | c :: _ =>
    match shortEscapes.lookup c with
    | some value => .ok (value, 1)
    | none => .error .malformed

/-- The rest of a string after its first quote, without the next `skip`
characters, which belong to an escape. -/
def readCharsFrom (strict : Bool) : (skip : Nat) → Reader (List Char)
  | _, [] => .error .ended
  | skip + 1, _ :: rest => readCharsFrom strict skip rest
  | 0, c :: rest =>
    if c = '"' then .ok ([], rest)
    else if c = '\\' then do
      let (value, used) ← readEscape strict rest
      let (chars, after) ← readCharsFrom strict used rest
      .ok (value :: chars, after)
    else if c.toNat < 0x20 then .error .malformed
    else do
      let (chars, after) ← readCharsFrom strict 0 rest
      .ok (c :: chars, after)

/-- The rest of a string after its first quote. -/
def readChars (strict : Bool) : Reader (List Char) := readCharsFrom strict 0

/-! ### Numbers -/

/-- One or more digits.  In a value that does not matter the end of the text
breaks the grammar like any other character. -/
def readDigits (strict : Bool) (s : List Char) : Except Fault (List Char × List Char) :=
  match s.takeWhile Char.isDigit, s.dropWhile Char.isDigit with
  | [], rest => .error (if strict then .at rest else .malformed)
  | digits, rest => .ok (digits, rest)

/-- The digits before the point, where no digit follows a leading zero. -/
def readWhole (strict : Bool) (s : List Char) : Except Fault (List Char × List Char) := do
  let (digits, rest) ← readDigits strict s
  if digits.length ≠ 1 ∧ digits.head? = some '0' then .error .malformed else .ok (digits, rest)

/-- The digits after a point, if there is one. -/
def readFraction (strict : Bool) : List Char → Except Fault (Option (List Char) × List Char)
  | '.' :: rest => (readDigits strict rest).map fun (digits, after) => (some digits, after)
  | s => .ok (none, s)

/-- The sign of an exponent. -/
def readSign : List Char → Int × List Char
  | '+' :: rest => (1, rest)
  | '-' :: rest => (-1, rest)
  | s => (1, s)

/-- The exponent, if there is one. -/
def readExponent (strict : Bool) : List Char → Except Fault (Option Int × List Char)
  | 'e' :: rest | 'E' :: rest => do
    let (sign, rest) := readSign rest
    let (digits, after) ← readDigits strict rest
    .ok (some (sign * digitsValue digits), after)
  | s => .ok (none, s)

/-- A number, of which the sign has been read. -/
def readNumeral (strict negative : Bool) (s : List Char) : Except Fault (Numeral × List Char) := do
  let (whole, rest) ← readWhole strict s
  let (fraction, rest) ← readFraction strict rest
  let (exponent, rest) ← readExponent strict rest
  .ok (⟨negative, whole, fraction, exponent⟩, rest)

/-- A number as a value, which has to be in the range of numbers. -/
def readNumber (negative : Bool) (s : List Char) : Except Fault (Numeral × List Char) := do
  let (n, rest) ← readNumeral true negative s
  if n.isHuge then .error .malformed else .ok (n, rest)

end TextRoadmap.Json
