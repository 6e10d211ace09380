/-
TextRoadmap/Text/Blank.lean

The characters that count as blank space when a date is read: the Unicode
property `White_Space`.  A roadmap's own text is trimmed by a narrower rule,
which stands with the text format.
-/

namespace TextRoadmap.Text

/-- The code points with the Unicode property `White_Space`, as closed ranges
in ascending order. -/
def blankRanges : List (Nat × Nat) :=
  [(0x09, 0x0d), (0x20, 0x20), (0x85, 0x85), (0xa0, 0xa0), (0x1680, 0x1680),
   (0x2000, 0x200a), (0x2028, 0x2029), (0x202f, 0x202f), (0x205f, 0x205f),
   (0x3000, 0x3000)]

/-- Does the character have the Unicode property `White_Space`? -/
def isBlank (c : Char) : Bool :=
  blankRanges.any fun range => range.1 ≤ c.toNat && c.toNat ≤ range.2

/-- The characters without their leading blank space. -/
def skipBlank (s : List Char) : List Char := s.dropWhile isBlank

/-- The property has twenty-five members. -/
example : (blankRanges.map fun r => r.2 + 1 - r.1).sum = 25 := by decide

end TextRoadmap.Text
