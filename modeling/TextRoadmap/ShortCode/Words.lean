/-
TextRoadmap/ShortCode/Words.lean

Short codes in words of 64 bits.

A code is written by taking ten windows of six bits out of a word, the
highest one first.  It is read by adding up its symbols, each shifted to the
left by six bits for every character behind it.

A word that is too large is not written, and a sum or a shifted symbol that
does not fit into a word has no result.
-/
import TextRoadmap.ShortCode.Basic

namespace TextRoadmap.ShortCode

/-! ### Writing -/

/-- The symbol for the six bits of a word above the lowest `shift`. -/
def windowSymbol (n : UInt64) (shift : Nat) : Char :=
  alphabet.getD ((n >>> UInt64.ofNat shift) &&& 0x3f).toNat '0'

/-- The symbols of the ten windows, the highest first. -/
def windowSymbols (n : UInt64) : List Char :=
  (List.range 10).map fun i => windowSymbol n ((9 - i) * 6)

/-- The code of a word, without leading zeros, unless the word is too large. -/
def textOfWord? (n : UInt64) : Option String :=
  if n ≤ 0xfffffffffff then some (String.ofList ((windowSymbols n).dropWhile (· = '0')))
  else none

/-! ### Reading -/

/-- The sum of two words, if it is one. -/
def addWords? (a b : UInt64) : Option UInt64 :=
  if a.toNat + b.toNat < 0x10000000000000000 then some (a + b) else none

/-- The word shifted to the left, if it is shifted by less than its width and
no bit gets lost. -/
def shiftWord? (a : UInt64) (shift : Nat) : Option UInt64 :=
  if shift < 64 ∧ a.toNat <<< shift < 0x10000000000000000 then some (a <<< UInt64.ofNat shift)
  else none

/-- The word whose symbols are given from the last to the first, where
`position` symbols worth `n` have been read.  Positions are not kept in
words: they count characters that are there. -/
def readWord? (code : String) :
    (position : Nat) → (n : UInt64) → List Char → Option (Except CodeError UInt64)
  | _, n, [] => some (.ok n)
  | position, n, c :: rest =>
    match symbolValue? c with
    | none => some (.error (.character c code))
    | some 0 => readWord? code (position + 1) n rest
    | some digit =>
      let shift := position * 6
      if 44 ≤ shift then some (.error (.outOfBounds code))
      else do
        let shifted ← shiftWord? (UInt64.ofNat digit) shift
        let n ← addWords? n shifted
        readWord? code (position + 1) n rest

/-- The code that the text writes. -/
def readInWords? (code : String) : Option (Except CodeError ShortCode) := do
  let result ← readWord? code 0 0 code.toList.reverse
  some <|
    match result with
    | .error e => .error e
    | .ok n =>
      if h : n.toNat < 0x100000000000 then .ok ⟨n.toNat, h⟩ else .error (.outOfBounds code)

end TextRoadmap.ShortCode
