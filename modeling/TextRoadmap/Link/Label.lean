/-
TextRoadmap/Link/Label.lean

Labels, the parts of a domain name between its points.

A label is given in its readable form or, after `xn--`, in Punycode.  In its
readable form it must not start with a mark, its invisible joiners must be
where they change the shape of a letter, and if the name has letters that are
written from right to left, each label must have one direction.
-/
import TextRoadmap.Link.Punycode
import TextRoadmap.Unicode.BidiClass
import TextRoadmap.Unicode.Composed
import TextRoadmap.Unicode.HostMapping
import TextRoadmap.Unicode.JoiningType
import TextRoadmap.Unicode.Mark

namespace TextRoadmap.Link

open TextRoadmap.Text TextRoadmap.Unicode

/-! ### Readable forms -/

/-- What the characters of a name stand for, in composed form. -/
def readable? (s : List Char) : Option (List Char) :=
  (s.mapM hostMapping?).map fun parts => composed parts.flatten

/-- The readable form of a label.  A label in Punycode must write a text that
is not plain ASCII and is in its readable form already. -/
def readableLabel? (label : List Char) : Option (List Char) :=
  match stripPrefix? "xn--".toList label with
  | some code => do
    let text ← Punycode.decode? code
    if text.all (·.toNat < 0x80) || readable? text ≠ some text then none else some text
  | none => some label

/-! ### Joiners -/

/-- The joiner that does not join. -/
def nonJoiner : Char := '\u200c'

/-- The joiner that joins. -/
def joiner : Char := '\u200d'

/-- The joining type of the first letter that is not passed over. -/
def firstJoiningType (s : List Char) : JoiningType :=
  match (s.map JoiningType.of).find? (· ≠ .transparent) with
  | some type => type
  | none => .nonJoining

/-- May the joiner stand between these characters?  Both may follow a virama;
the one that does not join may also part two letters that would join.
`before` are the characters before it, the last one first. -/
def allowsJoiner (c : Char) (before after : List Char) : Bool :=
  before.head?.any isVirama ||
    c == nonJoiner && (firstJoiningType before).joinsNext && (firstJoiningType after).joinsPrevious

/-- Is each joiner where it may stand, after the characters `before`, the last
one first? -/
def joinersFit (before : List Char) : List Char → Bool
  | [] => true
  | c :: rest =>
    (!(c == nonJoiner || c == joiner) || allowsJoiner c before rest) && joinersFit (c :: before) rest

/-- Is the label sound by itself?  ASCII always is. -/
def isSoundLabel (label : List Char) : Bool :=
  label.all (·.toNat < 0x80) || !label.head?.any isMark && joinersFit [] label

/-! ### Direction -/

/-- Has a label of these classes, which starts with a letter written from left
to right, one direction?  It ends in such a letter or a digit, before any
marks. -/
def runsRight (classes : List BidiClass) : Bool :=
  classes.all (fun k => k = .leftToRight || k.isNeutral) &&
    (classes.reverse.find? (· ≠ .nonspacingMark)).any fun k =>
      k = .leftToRight || k = .europeanNumber

/-- Has a label of these classes, which starts with a letter written from
right to left, one direction?  It ends in such a letter or a digit, before any
marks, and its digits are of one kind. -/
def runsLeft (classes : List BidiClass) : Bool :=
  classes.all (fun k => k.isRightToLeft || k.isNeutral) &&
    ((classes.reverse.find? (· ≠ .nonspacingMark)).any fun k =>
      k.isRightToLeft || k = .europeanNumber) &&
    !(classes.any (· = .europeanNumber) && classes.any (· = .arabicNumber))

/-- Has a label of these classes one direction? -/
def hasOneDirection : List BidiClass → Bool
  | [] => true
  | .leftToRight :: rest => runsRight (.leftToRight :: rest)
  | .rightToLeft :: rest => runsLeft (.rightToLeft :: rest)
  | .arabicLetter :: rest => runsLeft (.arabicLetter :: rest)
  | _ => false

/-- Has each label one direction, if there are letters that are written from
right to left? -/
def directionsFit (labels : List (List Char)) : Bool :=
  labels.all (·.all (·.toNat < 0x80)) ||
    (let classes := labels.map (·.map BidiClass.of)
    !classes.any (·.any (·.isRightToLeft)) || classes.all hasOneDirection)

end TextRoadmap.Link
