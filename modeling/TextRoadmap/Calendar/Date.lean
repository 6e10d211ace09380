/-
TextRoadmap/Calendar/Date.lean

Dates of the proleptic Gregorian calendar, from the first day of year
-262143 to the last day of year 262142, with the weekday of each.

A `Date` carries the proof that it names a day, so the only way to make one
from three numbers is `Date.make?`, which refuses all others.  The number of
a day (`Date.ordinal`) counts from the first of January of year 1, a Monday.
-/

namespace TextRoadmap.Calendar

/-! ### Years and months -/

/-- A year is a leap year if 4 divides it, save the centuries that 400 does
not divide. -/
def isLeapYear (year : Int) : Bool :=
  year % 4 == 0 && (year % 100 != 0 || year % 400 == 0)

/-- The number of days of a month. -/
def daysInMonth (year : Int) (month : Nat) : Nat :=
  if month = 2 then (if isLeapYear year then 29 else 28)
  else if month = 4 ∨ month = 6 ∨ month = 9 ∨ month = 11 then 30
  else 31

/-- The English names of the months, January first. -/
def monthNames : List String :=
  ["January", "February", "March", "April", "May", "June", "July", "August",
   "September", "October", "November", "December"]

/-- The English names of the weekdays, Monday first. -/
def weekdayNames : List String :=
  ["Monday", "Tuesday", "Wednesday", "Thursday", "Friday", "Saturday", "Sunday"]

/-- No month is shorter than 28 days. -/
theorem daysInMonth_ge (year : Int) (month : Nat) : 28 ≤ daysInMonth year month := by
  unfold daysInMonth
  split
  · split <;> omega
  · split <;> omega

/-- No month is longer than 31 days. -/
theorem daysInMonth_le (year : Int) (month : Nat) : daysInMonth year month ≤ 31 := by
  unfold daysInMonth
  split
  · split <;> omega
  · split <;> omega

/-! ### Dates -/

/-- The first year of the calendar. -/
def firstYear : Int := -262143

/-- The last year of the calendar. -/
def lastYear : Int := 262142

/-- Do the three numbers name a day of the calendar? -/
def IsDate (year : Int) (month day : Nat) : Prop :=
  firstYear ≤ year ∧ year ≤ lastYear ∧ 1 ≤ month ∧ month ≤ 12 ∧
    1 ≤ day ∧ day ≤ daysInMonth year month

instance (year : Int) (month day : Nat) : Decidable (IsDate year month day) := by
  unfold IsDate; infer_instance

/-- A day of the calendar. -/
structure Date where
  year : Int
  month : Nat
  day : Nat
  valid : IsDate year month day
  deriving DecidableEq

/-- The day with the given year, month and day of the month, if there is one. -/
def Date.make? (year : Int) (month day : Nat) : Option Date :=
  if h : IsDate year month day then some ⟨year, month, day, h⟩ else none

/-- A date is made from its own three numbers. -/
@[simp] theorem Date.make?_self (d : Date) : Date.make? d.year d.month d.day = some d := by
  simp [Date.make?, d.valid]

/-- A made date has the three numbers it was made from. -/
theorem Date.eq_of_make? {year : Int} {month day : Nat} {d : Date}
    (h : Date.make? year month day = some d) :
    d.year = year ∧ d.month = month ∧ d.day = day := by
  unfold Date.make? at h
  split at h
  · cases h; exact ⟨rfl, rfl, rfl⟩
  · cases h

/-- No month has more than 31 days. -/
theorem Date.day_le (d : Date) : d.day ≤ 31 :=
  Nat.le_trans d.valid.2.2.2.2.2 (daysInMonth_le d.year d.month)

/-! ### Neighbouring days -/

/-- The day after, unless the calendar ends. -/
def Date.next? (d : Date) : Option Date :=
  if d.day < daysInMonth d.year d.month then Date.make? d.year d.month (d.day + 1)
  else if d.month < 12 then Date.make? d.year (d.month + 1) 1
  else Date.make? (d.year + 1) 1 1

/-- The day before, unless the calendar begins. -/
def Date.previous? (d : Date) : Option Date :=
  if 1 < d.day then Date.make? d.year d.month (d.day - 1)
  else if 1 < d.month then
    Date.make? d.year (d.month - 1) (daysInMonth d.year (d.month - 1))
  else Date.make? (d.year - 1) 12 31

/-! ### Numbering the days -/

/-- The number of days between the first of January of year 1 and the first
of January of `year`. -/
def daysBeforeYear (year : Int) : Int :=
  365 * (year - 1) + (year - 1) / 4 - (year - 1) / 100 + (year - 1) / 400

/-- The number of days of `year` before the given month. -/
def daysBeforeMonth (year : Int) (month : Nat) : Nat :=
  (List.range (month - 1)).foldr (fun m days => daysInMonth year (m + 1) + days) 0

/-- The number of the day; the first of January of year 1 has number 0. -/
def Date.ordinal (d : Date) : Int :=
  daysBeforeYear d.year + daysBeforeMonth d.year d.month + (d.day - 1)

/-- The day with the given number.  The length of the years, taken as even,
gives its year up to one. -/
def Date.ofOrdinal? (ordinal : Int) : Option Date := do
  let guess := ordinal * 400 / 146097 + 1
  let year ← [guess - 1, guess, guess + 1].find? fun year =>
    daysBeforeYear year ≤ ordinal && ordinal < daysBeforeYear (year + 1)
  let day := (ordinal - daysBeforeYear year).toNat
  let month ← (List.range' 1 12).find? fun month => day < daysBeforeMonth year (month + 1)
  Date.make? year month (day - daysBeforeMonth year month + 1)

/-- The number of the first of January of 1970. -/
def epochOrdinal : Int := 719162

/-- The position of the weekday in the week, 0 for Monday. -/
def Date.weekday (d : Date) : Nat := (d.ordinal % 7).toNat

/-- Every day is one of the seven days of the week. -/
theorem Date.weekday_lt (d : Date) : d.weekday < 7 := by
  unfold Date.weekday; omega

/-- The epoch, a Thursday. -/
example : (Date.make? 1970 1 1).map (fun d => (d.ordinal, d.weekday)) =
    some (epochOrdinal, 3) := by decide

/-- The number of a leap day leads back to it. -/
example : (Date.make? 2000 2 29).bind (fun d => Date.ofOrdinal? d.ordinal) =
    Date.make? 2000 2 29 := by decide

/-- A leap day, and the day after it. -/
example : ((Date.make? 2000 2 29).bind Date.next?).map (fun d => (d.month, d.day)) =
    some (3, 1) := by decide

end TextRoadmap.Calendar
