/-
TextRoadmap/Chart/InPlace.lean

Percentages rolled up in place.

One list is enough: the percentages that are not known are overwritten one
after the other, from the start of the list on.  The children of a project
are filled in when the project needs them, so they may be settled before
their turn comes, and a percentage that is 0 in the end is found out again.

Totals are words of 32 bits.  A sum that does not fit and a division by zero
have no result.
-/
import TextRoadmap.Chart.Progress

namespace TextRoadmap.Chart

/-! ### Totals -/

/-- The sum of two words, if it is one. -/
def addWords? (a b : UInt32) : Option UInt32 :=
  if a.toNat + b.toNat < 0x100000000 then some (a + b) else none

/-- The quotient of two words, rounded down, unless the divisor is 0. -/
def divideWords? (a b : UInt32) : Option UInt32 := if b = 0 then none else some (a / b)

/-- The sum of percentages, and how many they are. -/
structure Totals where
  sum : UInt32 := 0
  count : UInt32 := 0

/-- One percentage more. -/
def Totals.add? (t : Totals) (percentage : UInt8) : Option Totals := do
  let sum ← addWords? t.sum percentage.toUInt32
  let count ← addWords? t.count 1
  some ⟨sum, count⟩

/-- The low byte of the average, rounded down; of no percentages it is 0. -/
def Totals.average? (t : Totals) : Option UInt8 :=
  if t.count = 0 then some 0 else (divideWords? t.sum t.count).map UInt32.toUInt8

/-! ### The pass -/

/-- The indentation of the children of a project, if it has any. -/
def childIndentation (indentation : UInt8) : UInt8 :=
  if indentation = 255 then 255 else indentation + 1

variable {n : Nat}

mutual

/-- The percentage that the project at a position should have, and the
projects with those below it filled in as far as that was needed. -/
def settle (projects : Vector Project n) (i : Nat) (h : i < n) :
    Option (UInt8 × Vector Project n) :=
  if projects[i].percentage ≠ 0 then some (projects[i].percentage, projects)
  else do
    let (totals, projects) ← gather projects[i].indentation (i + 1) {} projects
    let percentage ← totals.average?
    some (percentage, projects)
termination_by (n - i, 0)

/-- The projects with the one at a position filled in. -/
def fill (projects : Vector Project n) (i : Nat) (h : i < n) : Option (Vector Project n) :=
  if projects[i].percentage = 0 then do
    let (percentage, projects) ← settle projects i h
    some (projects.set i { projects[i] with percentage := percentage })
  else some projects
termination_by (n - i, 1)

/-- The totals over the children, from a position on, of a project with the
given indentation, and the projects with these children filled in. -/
def gather (indentation : UInt8) (i : Nat) (totals : Totals) (projects : Vector Project n) :
    Option (Totals × Vector Project n) :=
  if h : i < n then
    if indentation < projects[i].indentation then
      if projects[i].indentation = childIndentation indentation then do
        let projects ← fill projects i h
        let totals ← totals.add? projects[i].percentage
        gather indentation (i + 1) totals projects
      else gather indentation (i + 1) totals projects
    else some (totals, projects)
  else some (totals, projects)
termination_by (n - i, 2)

end

/-- The projects filled in from a position on. -/
def fillFrom (i : Nat) (projects : Vector Project n) : Option (Vector Project n) :=
  if h : i < n then do
    let projects ← fill projects i h
    fillFrom (i + 1) projects
  else some projects
termination_by n - i

/-- The projects with percentages rolled up in place. -/
def rollUpInPlace? (projects : List Project) : Option (List Project) :=
  (fillFrom 0 projects.toArray.toVector).map (·.toList)

end TextRoadmap.Chart
