/-
TextRoadmap/Link/Ip.lean

Internet addresses as hosts.

An IPv4 address has one to four numbers, decimal, octal (after `0`) or
hexadecimal (after `0x`); the last one fills the bytes that the others leave.
A host that ends in a number has to be one.  An IPv6 address has eight pieces
of sixteen bits, of which one run may be left out as `::`, and may end in an
IPv4 address of four plain decimal numbers.
-/
import TextRoadmap.Text.Digits

namespace TextRoadmap.Link

open TextRoadmap.Text

/-! ### IPv4 -/

/-- The number that the digits write in the given base, if all are digits of
that base. -/
def baseNumber? (base : Nat) (digits : List Char) : Option Nat :=
  digits.foldlM (fun n c =>
    match hexValue? c with
    | some d => if d < base then some (n * base + d) else none
    | none => none) 0

/-- One number of an IPv4 address. -/
def ipv4Number? : List Char → Option Nat
  | [] => none
  | '0' :: 'x' :: digits | '0' :: 'X' :: digits => baseNumber? 16 digits
  | '0' :: digits => baseNumber? 8 digits
  | digits => baseNumber? 10 digits

/-- The labels of a name, without the empty one after a final point. -/
def labelsOf (name : List Char) : List (List Char) :=
  let labels := name.splitOn '.'
  if labels.getLast? = some [] then labels.dropLast else labels

/-- Is the last label of the name a number, so that the name can only be an
address? -/
def endsInNumber (name : List Char) : Bool :=
  match (labelsOf name).getLast? with
  | none => false
  | some label => isNumber label || (ipv4Number? label).isSome

/-- The address with the given numbers, of which the last fills the bytes
that are left. -/
def ipv4OfNumbers? : List Nat → Option Nat
  | [] => none
  | numbers =>
    let (first, last) := (numbers.dropLast, numbers.getLastD 0)
    if numbers.length ≤ 4 ∧ first.all (· < 256) ∧ last < 1 <<< (8 * (4 - first.length)) then
      some (first.foldr (fun n rest => rest / 256 + n * 0x1000000) 0 + last)
    else none

/-- The IPv4 address that the name writes. -/
def ipv4? (name : List Char) : Option Nat :=
  ((labelsOf name).mapM ipv4Number?).bind ipv4OfNumbers?

/-! ### IPv6 -/

/-- Is it a decimal number up to 255 without leading zeros? -/
def isPlainByte (digits : List Char) : Bool :=
  isNumber digits && digitsValue digits < 256 && (digits.length == 1 || digits.head? != some '0')

/-- Is it four plain decimal numbers with points between them? -/
def isDottedQuad (s : List Char) : Bool :=
  let parts := s.splitOn '.'
  parts.length == 4 && parts.all isPlainByte

/-- Is it a piece of one to four hexadecimal digits? -/
def isPiece (s : List Char) : Bool :=
  !s.isEmpty && s.length ≤ 4 && s.all fun c => (hexValue? c).isSome

/-- The number of pieces in a list of groups; the last group may stand for
two if an IPv4 address is allowed there. -/
def groupCount? (quadAllowed : Bool) : List (List Char) → Option Nat
  | [] => some 0
  | [last] =>
    if isPiece last then some 1
    else if quadAllowed && isDottedQuad last then some 2
    else none
  | group :: rest => if isPiece group then (groupCount? quadAllowed rest).map (1 + ·) else none

/-- The number of pieces in one side of an address; an empty side has none. -/
def pieceCount? (quadAllowed : Bool) (s : List Char) : Option Nat :=
  if s.isEmpty then some 0 else groupCount? quadAllowed (s.splitOn ':')

/-- The parts before and after the first `::`. -/
def splitGap? : List Char → Option (List Char × List Char)
  | [] => none
  | ':' :: ':' :: rest => some ([], rest)
  | c :: rest => (splitGap? rest).map fun (before, after) => (c :: before, after)

/-- Does the text write an IPv6 address? -/
def isIpv6 (s : List Char) : Bool :=
  match splitGap? s with
  | none => pieceCount? true s == some 8
  | some (before, after) =>
    match pieceCount? false before, pieceCount? true after with
    | some m, some n => m + n ≤ 7
    | _, _ => false

end TextRoadmap.Link
