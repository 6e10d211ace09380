/-
TextRoadmap/Text/Digits.lean

Decimal numbers as runs of ASCII digits: writing with a least width, and
reading a run of at least one and at most so many digits.
-/

namespace TextRoadmap.Text

/-! ### Writing -/

/-- The decimal digits of `n`, without leading zeros. -/
def decimal (n : Nat) : List Char := Nat.toDigits 10 n

/-- `s` with copies of `fill` in front, up to the given width. -/
def padLeft (width : Nat) (fill : Char) (s : List Char) : List Char :=
  List.replicate (width - s.length) fill ++ s

/-- The decimal digits of `n` with leading zeros up to the given width. -/
def zeroPadded (width n : Nat) : List Char := padLeft width '0' (decimal n)

/-! ### Reading -/

/-- The value of an ASCII digit. -/
def digitValue (c : Char) : Nat := c.toNat - '0'.toNat

/-- The number that a run of ASCII digits stands for. -/
def digitsValue (s : List Char) : Nat :=
  s.foldl (fun n c => 10 * n + digitValue c) 0

/-- The longest run of digits at the start of `s` that has at most `most`
digits, and what follows it. -/
def takeDigits : (most : Nat) → List Char → List Char × List Char
  | 0, s => ([], s)
  | _, [] => ([], [])
  | most + 1, c :: rest =>
    if c.isDigit then
      let (run, after) := takeDigits most rest
      (c :: run, after)
    else ([], c :: rest)

/-- The number at the start of `s`, written with at least one and at most
`most` digits, and what follows it. -/
def readNumber? (most : Nat) (s : List Char) : Option (Nat × List Char) :=
  match takeDigits most s with
  | ([], _) => none
  | (run, after) => some (digitsValue run, after)

/-- The run and what follows it are the whole text. -/
theorem takeDigits_append (most : Nat) (s : List Char) :
    (takeDigits most s).1 ++ (takeDigits most s).2 = s := by
  fun_induction takeDigits most s <;> simp_all

/-- Does `s` consist of one or more ASCII digits? -/
def isNumber (s : List Char) : Bool := !s.isEmpty && s.all Char.isDigit

/-! ### Hexadecimal digits -/

/-- The digits `0` to `9` and `a` to `f` in order of their value. -/
def hexDigits : List Char :=
  ['0', '1', '2', '3', '4', '5', '6', '7', '8', '9', 'a', 'b', 'c', 'd', 'e', 'f']

/-- The value of a hexadecimal digit in either case. -/
def hexValue? (c : Char) : Option Nat :=
  if '0' ≤ c ∧ c ≤ '9' then some (c.toNat - '0'.toNat)
  else if 'a' ≤ c ∧ c ≤ 'f' then some (c.toNat - 'a'.toNat + 10)
  else if 'A' ≤ c ∧ c ≤ 'F' then some (c.toNat - 'A'.toNat + 10)
  else none

/-- The lower-case digit for the low four bits of `n`. -/
def hexDigit (n : Nat) : Char := hexDigits.getD (n % 16) '0'

/-- The two lower-case hexadecimal digits of a byte. -/
def hexByte (n : Nat) : List Char := [hexDigit (n / 16), hexDigit n]

/-- Each digit reads back as its value. -/
theorem hexValue?_hexDigit {n : Nat} (h : n < 16) : hexValue? (hexDigit n) = some n := by
  have all : ∀ k < 16, hexValue? (hexDigit k) = some k := by decide
  exact all n h

end TextRoadmap.Text
