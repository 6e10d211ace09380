/-
TextRoadmap/Outline/Extra.lean

What an extra block says as a whole.

The first date is the start and the last of the later ones the end.  Of
percentages, milestone numbers and colors the last one counts; all links
count, in their order.  An empty block says nothing.
-/
import TextRoadmap.Outline.Token

namespace TextRoadmap.Outline

open TextRoadmap.Calendar

/-- The contents of an extra block. -/
structure Extra where
  startAt : Option Instant := none
  endAt : Option Instant := none
  percentage : UInt8 := 0
  milestone : UInt8 := 0
  color : Option Color := none
  urls : List String := []
  deriving DecidableEq

/-- The contents with those of one more token. -/
def Extra.add (e : Extra) : Token → Extra
  | .date i => if e.startAt.isNone then { e with startAt := some i } else { e with endAt := some i }
  | .percentage value => { e with percentage := value }
  | .milestone number => { e with milestone := number }
  | .color color => { e with color := some color }
  | .url url => { e with urls := e.urls ++ [url] }

/-- The contents of all tokens. -/
def Extra.ofTokens (tokens : List Token) : Extra := tokens.foldl Extra.add {}

/-- The contents of a block. -/
def Extra.read (s : Setting) (block : List Char) : Extra := Extra.ofTokens (tokensOf s block)

/-- The span between the two dates, if there are two in order. -/
def Extra.span? (e : Extra) : Option Span :=
  match e.startAt, e.endAt with
  | some startAt, some endAt => Span.make? startAt endAt
  | _, _ => none

end TextRoadmap.Outline
