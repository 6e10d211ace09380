/-
TextRoadmap/Text/Numeral.lean

Numbers as they are written, with a point and an exponent.

Nothing in a roadmap is a fraction, so the value of such a number is never
needed, only whether it would fit into a floating-point number of 64 bits.
That is decided on the digits of its whole part, and an exponent far out of
range is never written out.
-/
import TextRoadmap.Text.Digits

namespace TextRoadmap.Text

/-- A number as it is written: its sign, the digits before and after the point
and the exponent. -/
structure Numeral where
  negative : Bool
  whole : List Char
  fraction : Option (List Char)
  exponent : Option Int

/-- The digits of the number without its point. -/
def Numeral.digits (n : Numeral) : List Char := n.whole ++ n.fraction.getD []

/-- Is the number written as an integer? -/
def Numeral.isInteger (n : Numeral) : Bool := n.fraction.isNone && n.exponent.isNone

/-- The power of ten by which the digits are multiplied. -/
def Numeral.scale (n : Numeral) : Int := n.exponent.getD 0 - (n.fraction.getD []).length

/-- The least number that is rounded to infinity, halfway from the largest
finite number to the next power of two. -/
def overflowBound : Nat := 1 <<< 1024 - 1 <<< 970

/-- The digits of the whole part, once the point is where the exponent puts
it. -/
def Numeral.wholeDigits (n : Numeral) : List Char :=
  (n.digits ++ List.replicate n.scale.toNat '0').take
    ((n.digits.length : Int) + n.scale).toNat

/-- Is the number, whatever its sign, rounded to infinity? -/
def Numeral.isHuge (n : Numeral) : Bool :=
  digitsValue n.digits ≠ 0 && (400 < n.scale || overflowBound ≤ digitsValue n.wholeDigits)

end TextRoadmap.Text
