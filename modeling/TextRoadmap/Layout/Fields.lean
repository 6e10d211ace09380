/-
TextRoadmap/Layout/Fields.lean

The fields of a date that have been read so far, and what they add up to.

Every field is set at most once, or again to the value it has; a field set
to two values makes the text no date.  A year may be given in full, by its
last two digits (of the years 1970 to 2069), or both ways if they agree.
The weekday, if given, has to be the right one.
-/
import TextRoadmap.Calendar.Instant

namespace TextRoadmap.Layout

open TextRoadmap.Calendar

/-- What has been read of a date. -/
structure Fields where
  year : Option Int
  shortYear : Option Nat
  month : Option Nat
  day : Option Nat
  weekday : Option Nat
  afternoon : Option Bool
  hour12 : Option Nat
  minute : Option Nat
  second : Option Nat
  fraction : Option Nat
  offset : Option Int

/-- Nothing has been read. -/
def Fields.empty : Fields :=
  ⟨none, none, none, none, none, none, none, none, none, none, none⟩

/-- The field set to `new`, unless it holds another value already. -/
def agree? {α : Type} [DecidableEq α] (old : Option α) (new : α) : Option (Option α) :=
  match old with
  | none => some (some new)
  | some value => if value = new then some (some value) else none

/-! ### Setting a field -/

def Fields.setYear? (f : Fields) (year : Int) : Option Fields :=
  (agree? f.year year).map fun v => { f with year := v }

def Fields.setShortYear? (f : Fields) (year : Nat) : Option Fields :=
  (agree? f.shortYear year).map fun v => { f with shortYear := v }

/-- Months run from 1 to 12. -/
def Fields.setMonth? (f : Fields) (month : Nat) : Option Fields :=
  if 1 ≤ month ∧ month ≤ 12 then (agree? f.month month).map fun v => { f with month := v }
  else none

/-- Days run from 1 to 31; whether the month has the day is seen at the end. -/
def Fields.setDay? (f : Fields) (day : Nat) : Option Fields :=
  if 1 ≤ day ∧ day ≤ 31 then (agree? f.day day).map fun v => { f with day := v } else none

def Fields.setWeekday? (f : Fields) (weekday : Nat) : Option Fields :=
  (agree? f.weekday weekday).map fun v => { f with weekday := v }

def Fields.setAfternoon? (f : Fields) (afternoon : Bool) : Option Fields :=
  (agree? f.afternoon afternoon).map fun v => { f with afternoon := v }

/-- An hour on a twelve-hour clock, where 12 comes before 1. -/
def Fields.setHour12? (f : Fields) (hour : Nat) : Option Fields :=
  if 1 ≤ hour ∧ hour ≤ 12 then
    (agree? f.hour12 (hour % 12)).map fun v => { f with hour12 := v }
  else none

/-- An hour from 0 to 23 settles the half of the day as well. -/
def Fields.setHour? (f : Fields) (hour : Nat) : Option Fields :=
  if hour < 24 then do
    let f ← f.setAfternoon? (12 ≤ hour)
    (agree? f.hour12 (hour % 12)).map fun v => { f with hour12 := v }
  else none

def Fields.setMinute? (f : Fields) (minute : Nat) : Option Fields :=
  if minute < 60 then (agree? f.minute minute).map fun v => { f with minute := v } else none

/-- Seconds run from 0 to 60, the last being a leap second. -/
def Fields.setSecond? (f : Fields) (second : Nat) : Option Fields :=
  if second ≤ 60 then (agree? f.second second).map fun v => { f with second := v } else none

def Fields.setFraction? (f : Fields) (nano : Nat) : Option Fields :=
  (agree? f.fraction nano).map fun v => { f with fraction := v }

/-- The minutes by which local time is ahead of universal time. -/
def Fields.setOffset? (f : Fields) (minutes : Int) : Option Fields :=
  (agree? f.offset minutes).map fun v => { f with offset := v }

/-! ### What the fields add up to -/

/-- The year: as given in full, which a given short form has to match, or
the year from 1970 to 2069 that ends in the short form. -/
def Fields.fullYear? (f : Fields) : Option Int :=
  match f.year, f.shortYear with
  | some year, none => some year
  | some year, some short => if 0 ≤ year ∧ year % 100 = short then some year else none
  | none, some short => some (if short < 70 then 2000 + short else 1900 + short)
  | none, none => none

/-- The date, if year, month and day are known, name a day, and fit the
weekday. -/
def Fields.date? (f : Fields) : Option Date := do
  let year ← f.fullYear?
  let month ← f.month
  let day ← f.day
  let date ← Date.make? year month day
  if f.weekday.all (· = date.weekday) then some date else none

/-- The time, if hour and minute are known. -/
def Fields.time? (f : Fields) : Option Time := do
  let afternoon ← f.afternoon
  let hour12 ← f.hour12
  let minute ← f.minute
  Time.make? ((if afternoon then 12 else 0) + hour12) minute (f.second.getD 0)
    (f.fraction.getD 0)

/-- The instant, if date, time and an offset of less than a day are known. -/
def Fields.zonedInstant? (f : Fields) : Option Instant := do
  let minutes ← f.offset
  let date ← f.date?
  let time ← f.time?
  if minutes.natAbs < 24 * 60 then Instant.ofLocal? date time minutes else none

/-- The instant that date and time name in universal time, whatever the
offset. -/
def Fields.plainInstant? (f : Fields) : Option Instant := do
  let date ← f.date?
  let time ← f.time?
  some ⟨date, time⟩

/-- The start of the date. -/
def Fields.startOfDay? (f : Fields) : Option Instant := f.date?.map Instant.startOf

end TextRoadmap.Layout
