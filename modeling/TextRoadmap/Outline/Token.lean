/-
TextRoadmap/Outline/Token.lean

The tokens of an extra block.

A token is a date by the layout of the roadmap, a percentage, the number of
a milestone, a color or a link, tried in this order.  A link is absolute, or
it makes an address together with the base of the roadmap.  A token that is
none of these means nothing.

A layout may write one date over several tokens, as in `Jan 2, 2006`.  Where
that many tokens are left, they are tried together before the first is tried
alone.
-/
import TextRoadmap.Link.Basic
import TextRoadmap.Roadmap.Basic

namespace TextRoadmap.Outline

open TextRoadmap.Text TextRoadmap.Calendar

/-- The settings of a roadmap by which its tokens are read. -/
structure Setting where
  layout : Layout
  baseUrl : String

/-- What a token says. -/
inductive Token where
  | date (instant : Instant)
  | percentage (value : UInt8)
  | milestone (number : UInt8)
  | color (color : Color)
  | url (url : String)
  deriving DecidableEq

/-! ### One token -/

/-- A number of eight bits that is written with digits alone. -/
def smallNumber? (s : List Char) : Option UInt8 :=
  if isNumber s && digitsValue s < 256 then some (UInt8.ofNat (digitsValue s)) else none

def readDate? (s : Setting) (token : List Char) : Option Token :=
  (s.layout.parse? (String.ofList token)).map .date

/-- A number of at most 100 and a percent sign. -/
def readPercentage? (token : List Char) : Option Token :=
  (((stripSuffix? ['%'] token).bind smallNumber?).filter (· ≤ 100)).map .percentage

/-- A bar and a number. -/
def readMilestone? (token : List Char) : Option Token :=
  ((stripPrefix? ['|'] token).bind smallNumber?).map .milestone

def readColor? (token : List Char) : Option Token :=
  (Color.read (String.ofList token)).toOption.map .color

/-- A link that is absolute, or that makes an address under the base. -/
def readUrl? (s : Setting) (token : List Char) : Option Token :=
  let url := String.ofList token
  if Link.isAbsolute url || (!s.baseUrl.isEmpty && Link.isValid (Link.join s.baseUrl url)) then
    some (.url url)
  else none

/-- What a single token says, if it says anything. -/
def classify? (s : Setting) (token : List Char) : Option Token :=
  readDate? s token <|> readPercentage? token <|> readMilestone? token <|>
    readColor? token <|> readUrl? s token

/-! ### Tokens in a row -/

/-- The date that the layout writes over several tokens at the start of the
row. -/
def groupDate? (s : Setting) (tokens : List (List Char)) : Option Token :=
  let count := s.layout.pieceCount
  if 1 < count ∧ count ≤ tokens.length then readDate? s (commaJoin (tokens.take count))
  else none

/-- What the tokens say after the first `skip` of them, which belong to a
date that has been read already. -/
def readTokens (s : Setting) : (skip : Nat) → List (List Char) → List Token
  | _, [] => []
  | skip + 1, _ :: rest => readTokens s skip rest
  | 0, token :: rest =>
    match groupDate? s (token :: rest) with
    | some date => date :: readTokens s (s.layout.pieceCount - 1) rest
    | none => (classify? s token).toList ++ readTokens s 0 rest

/-- What the tokens of an extra block say; an empty token ends the block. -/
def tokensOf (s : Setting) (extra : List Char) : List Token :=
  readTokens s 0 ((commaSplit extra).takeWhile (· ≠ []))

end TextRoadmap.Outline
