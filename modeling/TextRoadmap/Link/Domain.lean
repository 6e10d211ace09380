/-
TextRoadmap/Link/Domain.lean

Domain names as hosts.
-/
import TextRoadmap.Link.Label

namespace TextRoadmap.Link

/-- Characters that no domain name may hold: controls, blanks and those with
a meaning of their own in a web address. -/
def isForbiddenInDomain (c : Char) : Bool :=
  c.toNat ≤ 0x20 || c.toNat == 0x7f ||
    ['%', '#', '/', ':', '<', '>', '?', '@', '[', '\\', ']', '^', '|'].contains c

/-- Are these the labels of a domain name? -/
def areLabels (labels : List (List Char)) : Bool :=
  match labels.mapM readableLabel? with
  | some labels => labels.all isSoundLabel && directionsFit labels
  | none => false

/-- The domain name in its normal form, in which each character is what it
stands for. -/
def domain? (s : List Char) : Option (List Char) := do
  let name ← readable? s
  if name.any isForbiddenInDomain || !areLabels (name.splitOn '.') then none else some name

end TextRoadmap.Link
