/-
TextRoadmap/Unicode/Composed.lean

The composed form of a text: marks stand in the order of their classes, and
whatever equals a single character is written as that character.

A text is taken apart as far as possible, its marks are put in order, and its
parts are joined again.  Two texts that are the same to a reader have the same
composed form.
-/
import TextRoadmap.Unicode.CombiningClass
import TextRoadmap.Unicode.Composite

namespace TextRoadmap.Unicode

/-! ### Taking apart -/

/-- The parts of a character, in which composites nest at most `depth`
deep. -/
def decompose : (depth : Nat) → Char → List Char
  | 0, c => [c]
  | depth + 1, c =>
    match parts? c with
    | some (a, b) => decompose depth a ++ decompose depth b
    | none => [c]

/-- The parts of all characters of a text. -/
def decomposed (s : List Char) : List Char := s.flatMap (decompose 4)

/-! ### Putting marks in order -/

/-- A text in order with one more character in front: a mark goes behind the
marks of a lower class. -/
def insertMark (c : Char) : List Char → List Char
  | [] => [c]
  | d :: rest =>
    if 0 < combiningClass d && combiningClass d < combiningClass c then d :: insertMark c rest
    else c :: d :: rest

/-- The text with each run of marks sorted by class; marks of one class keep
their order. -/
def sortMarks (s : List Char) : List Char := s.foldr insertMark []

/-! ### Joining -/

/-- Joins what follows with `base`, the last character of class zero.
`between` are the marks since then that did not join it, the last one first;
a mark can not reach the base across one of its own class. -/
def joinTo (base : Char) (between : List Char) : List Char → List Char
  | [] => base :: between.reverse
  | c :: rest =>
    let reaches := between.head?.all fun d => combiningClass d < combiningClass c
    match if reaches then composite? base c else none with
    | some joined => joinTo joined between rest
    | none =>
      if combiningClass c = 0 then base :: between.reverse ++ joinTo c [] rest
      else joinTo base (c :: between) rest

/-- Joins the parts of a text. -/
def joined : List Char → List Char
  | [] => []
  | c :: rest => if combiningClass c = 0 then joinTo c [] rest else c :: joined rest

/-- The composed form.  ASCII is composed already. -/
def composed (s : List Char) : List Char :=
  if s.all (·.toNat < 0x80) then s else joined (sortMarks (decomposed s))

end TextRoadmap.Unicode
