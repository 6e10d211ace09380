/-
TextRoadmap/Link/Punycode.lean

Punycode, which writes any text in the letters, digits and hyphens of domain
names.

The ASCII characters of the text come first, and a hyphen after them.  Then
follows, for each of the others in order of code points, a number that says
how far to move on: positions in the text are counted through once for every
code point from 80 (hexadecimal) up, and where the count stops the code point
is put in.  A number is a run of digits, least one first, in which a digit
below the threshold of its place is the last.
-/
import TextRoadmap.Text.Cut

namespace TextRoadmap.Link.Punycode

open TextRoadmap.Text

/-! ### Numbers -/

/-- The values of digits: `a` to `z` are 0 to 25, `0` to `9` are 26 to 35. -/
def digit? (c : Char) : Option Nat :=
  if 'a' ≤ c ∧ c ≤ 'z' then some (c.toNat - 'a'.toNat)
  else if '0' ≤ c ∧ c ≤ '9' then some (c.toNat - '0'.toNat + 26)
  else none

/-- The threshold of the place with number `place`, counted in steps of 36. -/
def threshold (bias place : Nat) : Nat :=
  if place ≤ bias then 1 else if bias + 26 ≤ place then 26 else place - bias

/-- How often `delta` is divided by 35 until it is small, in steps of 36, and
what is left. -/
def reduce (delta : Nat) : Nat × Nat :=
  if 455 < delta then
    let (steps, left) := reduce (delta / 35)
    (steps + 36, left)
  else (0, delta)
termination_by delta
decreasing_by omega

/-- The bias after a number: it foretells the size of the next one. -/
def nextBias (delta size : Nat) (isFirst : Bool) : Nat :=
  let delta := if isFirst then delta / 700 else delta / 2
  let (steps, left) := reduce (delta + delta / size)
  steps + 36 * left / (left + 38)

/-! ### Reading -/

/-- A text that is being put together, with the place after the character
that was put in last. -/
structure Draft where
  text : List Char
  code : Nat
  position : Nat
  bias : Nat

/-- Nothing has been put into the ASCII characters yet. -/
def Draft.start (ascii : List Char) : Draft := ⟨ascii, 0x80, 0, 72⟩

/-- Moves on by a number and puts the character in. -/
def Draft.insert? (d : Draft) (delta : Nat) : Option Draft :=
  let size := d.text.length + 1
  let target := d.position + delta
  let code := d.code + target / size
  if h : code.isValidChar then
    some {
      text := d.text.insertIdx (target % size) (Char.ofNatAux code h)
      code := code
      position := target % size + 1
      bias := nextBias delta size (d.position == 0) }
  else none

/-- Puts in a character for each of the numbers that the digits write.
`delta` is what has been read of the number at hand, and its next digit counts
`weight` times and is at `place`.  Sums and weights have 32 bits. -/
def insertAll? (d : Draft) (delta weight place : Nat) : List Char → Option (List Char)
  | [] => if place = 36 then some d.text else none
  | c :: rest => do
    let value ← digit? c
    let delta := delta + value * weight
    let threshold := threshold d.bias place
    if 0x100000000 ≤ d.position + delta then none
    else if value < threshold then insertAll? (← d.insert? delta) 0 1 36 rest
    else if 0x100000000 ≤ weight * (36 - threshold) then none
    else insertAll? d delta (weight * (36 - threshold)) (place + 36) rest

/-- The text that `s` writes, given in lower case. -/
def decode? (s : List Char) : Option (List Char) :=
  match splitLast? '-' s with
  | some (ascii, digits) =>
    if ascii.isEmpty then insertAll? (.start []) 0 1 36 s
    else insertAll? (.start ascii) 0 1 36 digits
  | none => insertAll? (.start []) 0 1 36 s

/-- An umlaut is put into the place that its number says. -/
example : decode? "mnchen-3ya".toList = some "münchen".toList := by decide +kernel

end TextRoadmap.Link.Punycode
