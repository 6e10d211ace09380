/-
TextRoadmap/Calendar/Instant.lean

Times of day and instants in universal time, to the nanosecond.

A leap second is written as a time whose count of nanoseconds is one
thousand million or more; it belongs to the last second of some minute, as
the invariant of `Time` says.  Instants are ordered by date, then by second,
then by nanosecond.  `Instant.rank` packs the three into one integer, so the
order of instants is the order of integers, and the laws of `min` and `max`
come with it.
-/
import TextRoadmap.Calendar.Date

namespace TextRoadmap.Calendar

/-! ### Times of day -/

/-- A time of day: seconds since midnight and nanoseconds, where 10⁹ or more
nanoseconds mean a leap second after the last second of a minute. -/
structure Time where
  second : Nat
  nano : Nat
  second_lt : second < 86400
  nano_lt : nano < 2000000000
  leap : 1000000000 ≤ nano → second % 60 = 59
  deriving DecidableEq

/-- The start of a day. -/
def Time.midnight : Time := ⟨0, 0, by decide, by decide, by decide⟩

/-- The hour, from 0 to 23. -/
def Time.hour (t : Time) : Nat := t.second / 3600

/-- The minute of the hour, from 0 to 59. -/
def Time.minute (t : Time) : Nat := t.second / 60 % 60

/-- The second of the minute as it is written, 60 for a leap second. -/
def Time.writtenSecond (t : Time) : Nat := t.second % 60 + t.nano / 1000000000

/-- The nanoseconds within the written second. -/
def Time.fraction (t : Time) : Nat := t.nano % 1000000000

/-- The hour on a twelve-hour clock, from 1 to 12. -/
def Time.hour12 (t : Time) : Nat := (t.hour + 11) % 12 + 1

/-- Is it noon or later? -/
def Time.isAfternoon (t : Time) : Bool := 12 ≤ t.hour

theorem Time.hour_lt (t : Time) : t.hour < 24 := by
  have := t.second_lt
  simp only [Time.hour]
  omega

theorem Time.minute_lt (t : Time) : t.minute < 60 := Nat.mod_lt _ (by decide)

/-- A leap second is written as second 60. -/
theorem Time.writtenSecond_le (t : Time) : t.writtenSecond ≤ 60 := by
  have := t.nano_lt
  simp only [Time.writtenSecond]
  omega

/-- The twelve-hour clock shows 12 at noon and at midnight. -/
theorem Time.hour12_mod (t : Time) : t.hour12 % 12 = t.hour % 12 := by
  simp only [Time.hour12]
  omega

/-- The time with the given hour, minute and written second; a second 60
stands for a leap second. -/
def Time.make? (hour minute second fraction : Nat) : Option Time :=
  if h : hour < 24 ∧ minute < 60 ∧ second < 60 ∧ fraction < 1000000000 then
    some ⟨hour * 3600 + minute * 60 + second, fraction, by omega, by omega, by omega⟩
  else if h : hour < 24 ∧ minute < 60 ∧ second = 60 ∧ fraction < 1000000000 then
    some ⟨hour * 3600 + minute * 60 + 59, 1000000000 + fraction, by omega, by omega, by omega⟩
  else none

/-- A time is made from its own parts. -/
@[simp] theorem Time.make?_self (t : Time) :
    Time.make? t.hour t.minute t.writtenSecond t.fraction = some t := by
  obtain ⟨second, nano, hs, hn, hl⟩ := t
  unfold Time.make?
  split
  · rename_i h
    simp only [Time.hour, Time.minute, Time.writtenSecond, Time.fraction] at h ⊢
    simp only [Option.some.injEq, Time.mk.injEq]
    omega
  · split
    · rename_i h
      simp only [Time.hour, Time.minute, Time.writtenSecond, Time.fraction] at h ⊢
      simp only [Option.some.injEq, Time.mk.injEq]
      omega
    · rename_i h h'
      simp only [Time.hour, Time.minute, Time.writtenSecond, Time.fraction] at h h'
      omega

/-! ### Instants -/

/-- An instant in universal time. -/
structure Instant where
  date : Date
  time : Time
  deriving DecidableEq

/-- The position of the instant among all instants. -/
def Instant.rank (i : Instant) : Int :=
  (((i.date.year * 16 + i.date.month) * 32 + i.date.day) * 86400 + i.time.second)
    * 2000000000 + i.time.nano

instance : LE Instant := ⟨fun a b => a.rank ≤ b.rank⟩

instance : LT Instant := ⟨fun a b => a.rank < b.rank⟩

instance (a b : Instant) : Decidable (a ≤ b) := inferInstanceAs (Decidable (a.rank ≤ b.rank))

instance (a b : Instant) : Decidable (a < b) := inferInstanceAs (Decidable (a.rank < b.rank))

instance : Min Instant := ⟨fun a b => if a ≤ b then a else b⟩

instance : Max Instant := ⟨fun a b => if a ≤ b then b else a⟩

theorem Instant.min_def (a b : Instant) : min a b = if a ≤ b then a else b := rfl

theorem Instant.max_def (a b : Instant) : max a b = if a ≤ b then b else a := rfl

/-- Two instants at the same position are the same instant. -/
theorem Instant.rank_injective {a b : Instant} (h : a.rank = b.rank) : a = b := by
  obtain ⟨⟨y, m, d, hv⟩, ⟨s, n, hs, hn, hl⟩⟩ := a
  obtain ⟨⟨y', m', d', hv'⟩, ⟨s', n', hs', hn', hl'⟩⟩ := b
  have hd := daysInMonth_le y m
  have hd' := daysInMonth_le y' m'
  simp only [IsDate] at hv hv'
  simp only [Instant.rank] at h
  have hy : y = y' := by omega
  have hm : m = m' := by omega
  have hdd : d = d' := by omega
  have hss : s = s' := by omega
  have hnn : n = n' := by omega
  subst hy hm hdd hss hnn
  rfl

/-! ### Local time -/

/-- The instant at which a clock that runs the given number of minutes ahead
of universal time shows the given date and time, if it is in the calendar. -/
def Instant.ofLocal? (date : Date) (time : Time) (minutesAhead : Int) : Option Instant :=
  let shifted := (time.second : Int) - minutesAhead * 60
  let at? (day : Option Date) : Option Instant :=
    day.map fun day =>
      ⟨day, ⟨(shifted % 86400).toNat, time.nano, by omega, time.nano_lt, by
        have := time.leap; omega⟩⟩
  if shifted < 0 then at? date.previous?
  else if 86400 ≤ shifted then at? date.next?
  else at? (some date)

/-- Universal time is the time of a clock that runs no minutes ahead. -/
theorem Instant.ofLocal?_zero (date : Date) (time : Time) :
    Instant.ofLocal? date time 0 = some ⟨date, time⟩ := by
  obtain ⟨second, nano, hs, hn, hl⟩ := time
  simp only [Instant.ofLocal?]
  rw [if_neg (by omega), if_neg (by omega)]
  simp only [Option.map_some, Option.some.injEq, Instant.mk.injEq, Time.mk.injEq, true_and,
    and_true]
  omega

/-- The start of the given day. -/
def Instant.startOf (date : Date) : Instant := ⟨date, Time.midnight⟩

/-- The nanoseconds since the start of 1970; a leap second counts as part of
the second that follows it. -/
def Instant.unixNanos (i : Instant) : Int :=
  ((i.date.ordinal - epochOrdinal) * 86400 + i.time.second) * 1000000000 + i.time.nano

/-- The instant so many seconds and nanoseconds after the start of 1970. -/
def Instant.ofUnix? (seconds : Int) (nanos : Nat) : Option Instant :=
  (Date.ofOrdinal? (epochOrdinal + seconds / 86400)).map fun date =>
    ⟨date, ⟨(seconds % 86400).toNat, nanos % 1000000000, by omega, by omega, by omega⟩⟩

end TextRoadmap.Calendar
