/-
TextRoadmap/Link/Basic.lean

Links of projects and milestones, absolute or relative to a base.
-/
import TextRoadmap.Link.Address

namespace TextRoadmap.Link

open TextRoadmap.Text

/-- Is the text a web address that names a host? -/
def isAbsolute (s : String) : Bool := (Address.read? s).any fun address => address.host.isSome

/-- Is the text a web address at all? -/
def isValid (s : String) : Bool := (Address.read? s).isSome

/-- Base and path with exactly one slash between them. -/
def join (base path : String) : String :=
  String.ofList (trimEnd (· = '/') base.toList ++ '/' :: path.toList.dropWhile (· = '/'))

/-- The link under the base, unless there is no base or the link is absolute
already. -/
def resolve (base link : String) : String :=
  if base.isEmpty || isAbsolute link then link else join base link

/-- An absolute address names a host and so is an address. -/
theorem isValid_of_isAbsolute {s : String} (h : isAbsolute s = true) : isValid s = true := by
  unfold isAbsolute at h
  unfold isValid
  cases hs : Address.read? s with
  | none => simp [hs] at h
  | some address => rfl

/-- An absolute link resolves to itself, whatever the base. -/
theorem resolve_of_isAbsolute {base link : String} (h : isAbsolute link = true) :
    resolve base link = link := by
  simp [resolve, h]

end TextRoadmap.Link
