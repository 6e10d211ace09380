/-
TextRoadmap/Color/Basic.lean

Opaque colors, written `#rrggbb`.

A color is read from `#rgb` or `#rrggbb` with hexadecimal digits in either
case and written with six lower-case digits.  Of several faults the first in
this order is reported: the number of characters, the first character, the
leftmost character that is no digit.
-/
import TextRoadmap.Text.Digits

namespace TextRoadmap

open TextRoadmap.Text

/-- A color by its three channels. -/
structure Color where
  red : UInt8
  green : UInt8
  blue : UInt8
  deriving DecidableEq

/-- Why a text is no color. -/
inductive ColorError where
  | length (characters : Nat)
  | start (c : Char)
  | digit (c : Char)
  deriving DecidableEq

/-- The wording of the error. -/
def ColorError.message : ColorError → String
  | .length characters => s!"Invalid hex color length: {characters}"
  | .start c => s!"Invalid first character of hex color: expected '#', got '{c}'"
  | .digit c => s!"Invalid hex digit in color: '{c}'"

namespace Color

/-- The values of a run of hexadecimal digits, or the leftmost character that
is no digit. -/
def digitValues : List Char → Except ColorError (List Nat)
  | [] => .ok []
  | c :: rest =>
    match hexValue? c with
    | none => .error (.digit c)
    | some value => (digitValues rest).map (value :: ·)

/-- The channel with the given two digits. -/
def channel (high low : Nat) : UInt8 := UInt8.ofNat (16 * high + low)

/-- The color with the given three or six digits. -/
def ofDigits? : List Nat → Option Color
  | [r, g, b] => some ⟨channel r r, channel g g, channel b b⟩
  | [r, r', g, g', b, b'] => some ⟨channel r r', channel g g', channel b b'⟩
  | _ => none

/-- The color that the text writes. -/
def read (s : String) : Except ColorError Color :=
  let characters := s.toList
  if characters.length ≠ 4 ∧ characters.length ≠ 7 then .error (.length characters.length)
  else
    match characters with
    | [] => .error (.length 0)
    | c :: digits =>
      if c ≠ '#' then .error (.start c)
      else do
        let values ← digitValues digits
        match ofDigits? values with
        | some color => .ok color
        | none => .error (.length characters.length)

/-- The color with six lower-case digits. -/
def text (c : Color) : String :=
  String.ofList ('#' :: hexByte c.red.toNat ++ hexByte c.green.toNat ++ hexByte c.blue.toNat)

end Color

end TextRoadmap
