/-
TextRoadmap/ShortCode/Basic.lean

Short codes: numbers of at most 44 bits in base 64, most significant symbol
first and without leading zeros.  The code of 0 is empty.

Reading takes leading zeros too.  It goes through the symbols from the last
to the first, so of several faults the one nearest to the end is reported.
-/

namespace TextRoadmap

/-- The public identifier of a roadmap: a number of at most 44 bits, which are
eleven hexadecimal digits. -/
structure ShortCode where
  id : Nat
  id_lt : id < 0x100000000000
  deriving DecidableEq

/-- Why a text or number is no short code. -/
inductive CodeError where
  | character (c : Char) (code : String)
  | outOfBounds (text : String)
  deriving DecidableEq

/-- The wording of the error. -/
def CodeError.message : CodeError → String
  | .character c code => s!"Invalid character '{c}' in code: {code}"
  | .outOfBounds text => s!"Code is out of bounds: {text}"

namespace ShortCode

/-- The largest number that has a code. -/
def largest : Nat := 0xfffffffffff

/-- The symbols in order of their value. -/
def alphabet : List Char :=
  "0123456789abcdefghijklmnopqrstuvwxyzABCDEFGHIJKLMNOPQRSTUVWXYZ_~".toList

/-- The symbol for the low six bits of a number. -/
def symbol (digit : Nat) : Char := alphabet.getD (digit % 64) '0'

/-- The value of a symbol. -/
def symbolValue? (c : Char) : Option Nat := alphabet.idxOf? c

/-- There are sixty-four symbols, all different. -/
example : alphabet.length = 64 ∧ alphabet.Nodup := by decide +kernel

/-! ### Numbers -/

/-- The code of a number, unless it is too large. -/
def ofId (id : Nat) : Except CodeError ShortCode :=
  if h : id < 0x100000000000 then .ok ⟨id, h⟩ else .error (.outOfBounds (toString id))

/-! ### Writing -/

/-- The last `width` symbols of a number in base 64. -/
def symbols : (width : Nat) → Nat → List Char
  | 0, _ => []
  | width + 1, n => symbols width (n / 64) ++ [symbol n]

/-- The code as text, without leading zeros. -/
def text (code : ShortCode) : String :=
  String.ofList ((symbols 10 code.id).dropWhile (· = '0'))

/-! ### Reading -/

/-- The number whose symbols are given from the last to the first, where
symbols worth `n` have been read and the next one counts `weight` times.  A
zero may stand anywhere, any other symbol only where a one would be in
bounds. -/
def readSymbols (code : String) : (weight n : Nat) → List Char → Except CodeError Nat
  | _, n, [] => .ok n
  | weight, n, c :: rest =>
    match symbolValue? c with
    | none => .error (.character c code)
    | some 0 => readSymbols code (64 * weight) n rest
    | some digit =>
      if largest < weight then .error (.outOfBounds code)
      else readSymbols code (64 * weight) (n + digit * weight) rest

/-- The code that the text writes. -/
def read (code : String) : Except CodeError ShortCode := do
  let id ← readSymbols code 1 0 code.toList.reverse
  if h : id < 0x100000000000 then .ok ⟨id, h⟩ else .error (.outOfBounds code)

end ShortCode

end TextRoadmap
