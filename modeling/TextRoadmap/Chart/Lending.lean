/-
TextRoadmap/Chart/Lending.lean

Milestones completed in turn.

One walk through the projects gathers what they lend to milestones, in a map
from the positions of the milestones; a project that refers to none, or that
has nothing to lend, is passed over.  Another walk, through the map, hands it
out, where a position past the last milestone leads nowhere.  Milestones that
are without a color by then become neutral.
-/
import Std.Data.TreeMap.Basic
import TextRoadmap.Chart.Milestones

namespace TextRoadmap.Chart

/-- What a milestone can take over from projects. -/
structure Loan where
  color : Option Color := none
  deadlineAt : Option Calendar.Instant := none

/-- The loan with what one more project lends: the first color and the latest
end stay. -/
def Loan.add (loan : Loan) (p : Project) : Loan where
  color := loan.color <|> p.color
  deadlineAt :=
    match p.dates, loan.deadlineAt with
    | none, deadlineAt => deadlineAt
    | some dates, none => some dates.endAt
    | some dates, some deadline => some (max deadline dates.endAt)

/-- The milestone, with the loan where it has nothing of its own. -/
def Loan.give (loan : Loan) (m : Milestone) : Milestone :=
  { m with
    color := m.color <|> loan.color
    deadlineAt := m.deadlineAt <|> loan.deadlineAt }

/-- Loans by the positions of milestones, which count from 0. -/
abbrev Loans := Std.TreeMap Nat Loan

/-- The loans with what one more project lends. -/
def Loans.gather (loans : Loans) (p : Project) : Loans :=
  if p.milestone = 0 then loans
  else if p.color.isNone && p.dates.isNone then loans
  else loans.alter (p.milestone.toNat - 1) fun loan => some ((loan.getD {}).add p)

/-- All that the projects lend. -/
def loansOf (projects : List Project) : Loans := projects.foldl Loans.gather ∅

/-- The milestones, each with the loan at its position. -/
def Loans.handOut (loans : Loans) (milestones : List Milestone) : List Milestone :=
  loans.foldl (fun milestones position loan => milestones.modify position loan.give) milestones

/-- The milestone, with the neutral color if it has none. -/
def neutralIfBare (m : Milestone) : Milestone :=
  { m with color := m.color <|> some Palette.neutral }

/-- The milestones, completed by both walks. -/
def completeInTurn (projects : List Project) (milestones : List Milestone) : List Milestone :=
  ((loansOf projects).handOut milestones).map neutralIfBare

end TextRoadmap.Chart
