/-
TextRoadmap/Proofs/Calendar/Rfc3339.lean

Every instant reads back from its RFC 3339 text (`Instant.ofRfc3339?_toRfc3339`).

The text is read part by part: the date, the time to the second, and the
fraction, which is written with as many digits as it needs.  The fields that
have been read then make the instant again, a leap second and a year with a
sign included.
-/
import TextRoadmap.Calendar.Rfc3339
import TextRoadmap.Proofs.Layout.Read

namespace TextRoadmap.Calendar

open TextRoadmap.Text TextRoadmap.Layout

variable {f : Fields} {rest : List Char}

/-! ### The parts of the text -/

theorem readPieces?_datePieces (d : Date) (rest : List Char) :
    readPieces? datePieces Fields.empty (writeYear d.year ++ '-' :: (zeroPadded 2 d.month ++
      '-' :: (zeroPadded 2 d.day ++ rest))) =
      some ({ Fields.empty with year := some d.year, month := some d.month, day := some d.day },
        rest) := by
  obtain ⟨hfirst, hlast, hmonth, hmonth', hday, hday'⟩ := d.valid
  have hlt := d.day_le
  have hyear : readYear? (writeYear d.year ++ '-' :: (zeroPadded 2 d.month ++
      '-' :: (zeroPadded 2 d.day ++ rest))) = some (d.year, _) :=
    readYear?_writeYear d.year (by simp)
  simp only [datePieces, readPieces?_cons, Piece.read?, Element.read?, readInto?, hyear]
  simp [Fields.setYear?, Fields.setMonth?, Fields.setDay?, agree?, Fields.empty, isBlank,
    blankRanges, skipBlank, stripPrefix?, readTwo?_zeroPadded (show d.month < 100 by omega),
    readTwo?_zeroPadded (show d.day < 100 by omega), hmonth, hmonth', hday, hlt, readPieces?]

theorem readPieces?_timePieces (t : Time) (rest : List Char) (hafternoon : f.afternoon = none)
    (hhour : f.hour12 = none) (hminute : f.minute = none) (hsecond : f.second = none) :
    readPieces? timePieces f (zeroPadded 2 t.hour ++ ':' :: (zeroPadded 2 t.minute ++
      ':' :: (zeroPadded 2 t.writtenSecond ++ rest))) =
      some ({ f with
        afternoon := some t.isAfternoon, hour12 := some (t.hour % 12), minute := some t.minute,
        second := some t.writtenSecond }, rest) := by
  have hh := t.hour_lt
  have hm := t.minute_lt
  have hs := t.writtenSecond_le
  simp [timePieces, Piece.read?, Element.read?, readInto?, Fields.setHour?,
    Fields.setAfternoon?, Fields.setMinute?, Fields.setSecond?, agree?, isBlank, blankRanges,
    skipBlank, stripPrefix?, readTwo?_zeroPadded (show t.hour < 100 by omega),
    readTwo?_zeroPadded (show t.minute < 100 by omega),
    readTwo?_zeroPadded (show t.writtenSecond < 100 by omega), hh, hm, hs, hafternoon, hhour,
    hminute, hsecond, readPieces?, Time.isAfternoon]

/-- A fraction of at most nine digits counts as many nanoseconds as it would
with nine. -/
theorem readFraction?_zeroPadded (width : Nat) {n : Nat} (hpos : 0 < width) (hwidth : width ≤ 9)
    (hn : n < Nat.pow 10 width) (hrest : NoDigit rest) (hf : f.fraction = none) :
    readFraction? f ('.' :: (zeroPadded width n ++ rest)) =
      some ({ f with fraction := some (n * Nat.pow 10 (9 - width)) }, rest) := by
  have hlen : (zeroPadded width n).length = width := length_zeroPadded hpos hn
  have hdigits : ∀ c ∈ zeroPadded width n, c.isDigit = true := fun c => isDigit_of_mem_zeroPadded
  have htake : takeDigits 9 (zeroPadded width n ++ rest) = (zeroPadded width n, rest) :=
    takeDigits_append_of hdigits (by omega) (Or.inr hrest)
  have hafter : rest.dropWhile Char.isDigit = rest := dropWhile_eq_self hrest
  have hvalue : digitsValue (zeroPadded width n ++
      List.replicate (9 - (zeroPadded width n).length) '0') = n * Nat.pow 10 (9 - width) := by
    rw [digitsValue_append_zeros, digitsValue_zeroPadded, hlen]
  rw [readFraction?, htake]
  obtain ⟨c, run, hrun⟩ := List.exists_cons_of_ne_nil (zeroPadded_ne_nil width n)
  rw [hrun] at hvalue ⊢
  simp only [hvalue, hafter, Fields.setFraction?, hf, agree?, Option.map_some]

/-- The fraction that is read is the one that was written, where none stands
for 0. -/
theorem readFraction?_writeFraction {nano : Nat} (hnano : nano < 1000000000)
    (hrest : NoDigit rest) (hpoint : rest.head? ≠ some '.') (hf : f.fraction = none) :
    ∃ fraction : Option Nat, fraction.getD 0 = nano ∧
      readFraction? f (writeFraction nano ++ rest) =
        some ({ f with fraction := fraction }, rest) := by
  unfold writeFraction
  split
  · rename_i hzero
    refine ⟨none, hzero.symm, ?_⟩
    have hsame : { f with fraction := none } = f := by rw [← hf]
    rw [List.nil_append, hsame]
    unfold readFraction?
    split
    · exact absurd rfl hpoint
    · rfl
  split
  · refine ⟨_, ?_, readFraction?_zeroPadded 3 (by decide) (by decide)
      (show nano / 1000000 < 1000 by omega) hrest hf⟩
    show nano / 1000000 * 1000000 = nano
    omega
  split
  · refine ⟨_, ?_, readFraction?_zeroPadded 6 (by decide) (by decide)
      (show nano / 1000 < 1000000 by omega) hrest hf⟩
    show nano / 1000 * 1000 = nano
    omega
  · refine ⟨_, ?_, readFraction?_zeroPadded 9 (by decide) (by decide)
      (show nano < 1000000000 by omega) hrest hf⟩
    exact Nat.mul_one nano

/-! ### The whole text -/

theorem toList_toRfc3339 (i : Instant) : i.toRfc3339.toList =
    writeYear i.date.year ++ '-' :: (zeroPadded 2 i.date.month ++
      '-' :: (zeroPadded 2 i.date.day ++ 'T' :: (zeroPadded 2 i.time.hour ++
        ':' :: (zeroPadded 2 i.time.minute ++ ':' :: (zeroPadded 2 i.time.writtenSecond ++
          (writeFraction i.time.fraction ++ ['Z'])))))) := by
  simp [Instant.toRfc3339]

/-- The hour is known from the half of the day and the twelve-hour clock. -/
theorem hour_eq (t : Time) : (if t.isAfternoon then 12 else 0) + t.hour % 12 = t.hour := by
  have hlt := t.hour_lt
  by_cases h : 12 ≤ t.hour
  · simp only [Time.isAfternoon, h, decide_true, if_true]
    omega
  · simp only [Time.isAfternoon, h, decide_false, Bool.false_eq_true, if_false]
    omega

/-- Reading the text of an instant gives the instant. -/
theorem Instant.ofRfc3339?_toRfc3339 (i : Instant) :
    Instant.ofRfc3339? i.toRfc3339 = some i := by
  have hnano : i.time.fraction < 1000000000 := Nat.mod_lt _ (by decide)
  set f₁ : Fields := { Fields.empty with
    year := some i.date.year, month := some i.date.month, day := some i.date.day } with hf₁
  set f₂ : Fields := { f₁ with
    afternoon := some i.time.isAfternoon, hour12 := some (i.time.hour % 12),
    minute := some i.time.minute, second := some i.time.writtenSecond } with hf₂
  have htime := readPieces?_timePieces (f := f₁) i.time (writeFraction i.time.fraction ++ ['Z'])
    rfl rfl rfl rfl
  obtain ⟨fraction, hfraction, hread⟩ :=
    readFraction?_writeFraction (f := f₂) hnano (show NoDigit ['Z'] by simp) (by simp) rfl
  have hinstant : ({ f₂ with fraction := fraction, offset := some 0 } : Fields).zonedInstant? =
      some i := by
    simp [Fields.zonedInstant?, Fields.date?, Fields.fullYear?, Fields.time?, hf₂, hf₁,
      Fields.empty, hfraction, hour_eq, Instant.ofLocal?_zero]
  -- date, time and fraction are read one after the other into the same fields
  rw [Instant.ofRfc3339?, toList_toRfc3339, readPieces?_datePieces]
  show (readPieces? timePieces f₁ _).bind _ = _
  rw [htime]
  show (readFraction? f₂ _).bind _ = _
  rw [hread]
  exact hinstant

end TextRoadmap.Calendar
