/-
TextRoadmap/ShortCode/Derive.lean

New codes, derived from a seed and the time at which they are made.  The
same seed gives other codes at other times.
-/
import TextRoadmap.Calendar.Instant
import TextRoadmap.Hash.Blake3
import TextRoadmap.ShortCode.Basic

namespace TextRoadmap.ShortCode

open TextRoadmap.Calendar TextRoadmap.Hash

/-- The time as a signed 64-bit count of nanoseconds, or 0 where that does
not suffice. -/
def clockCount (at_ : Instant) : Int :=
  let nanos := at_.unixNanos
  if -0x8000000000000000 ≤ nanos ∧ nanos < 0x8000000000000000 then nanos else 0

/-- A remainder of the largest code is in bounds. -/
theorem mod_largest_lt (n : Nat) : n % largest < 0x100000000000 :=
  Nat.lt_trans (Nat.mod_lt n (by decide)) (by decide)

/-- The first eight bytes of the hash of seed and time, reduced to the range
of codes. -/
def derive (seed : String) (at_ : Instant) : ShortCode :=
  let digest := Blake3.hash (seed ++ toString (clockCount at_)).toUTF8.toList
  ⟨Blake3.leadingNumber digest % largest, mod_largest_lt _⟩

end TextRoadmap.ShortCode
