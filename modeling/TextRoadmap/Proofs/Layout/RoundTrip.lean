/-
TextRoadmap/Proofs/Layout/RoundTrip.lean

Which part of an instant a layout brings back.

Where the tokens of a layout stand apart and the year is written in full, a
written date always reads back (`Layout.parse?_format`).  If date, hour and
minute can be told, it is the instant up to the second or the minute.  If not,
it is the start of a day, and the month and the day are the first where the
layout names none: what is supplied for them is what the layout would have
written for a first month and a first day.
-/
import Mathlib.Data.List.Basic
import TextRoadmap.Proofs.Calendar.Rfc3339
import TextRoadmap.Proofs.Layout.Basic
import TextRoadmap.Proofs.Layout.Facts

namespace TextRoadmap

open TextRoadmap.Text TextRoadmap.Calendar

/-! ### What is kept -/

namespace Calendar

/-- The date with the first month and the first day in place of what is not
kept. -/
def Date.keep (month day : Bool) (d : Date) : Date where
  year := d.year
  month := if month then d.month else 1
  day := if day then d.day else 1
  valid := by
    obtain ⟨hfirst, hlast, hmonth, hmonth', hday, hday'⟩ := d.valid
    have hjanuary : daysInMonth d.year 1 = 31 := rfl
    have hmost := daysInMonth_le d.year d.month
    have hleast := daysInMonth_ge d.year d.month
    refine ⟨hfirst, hlast, ?_⟩
    cases month <;> cases day <;> simp <;> omega

/-- The time with the seconds, or the minutes and the seconds, reset if they
are not kept; fractions never are. -/
def Time.keep (minute second : Bool) (t : Time) : Time where
  second :=
    if second then t.second else if minute then t.second / 60 * 60 else t.second / 3600 * 3600
  nano := if second then t.nano / 1000000000 * 1000000000 else 0
  second_lt := by
    have := t.second_lt
    split
    · exact this
    · split <;> omega
  nano_lt := by
    have := t.nano_lt
    split <;> omega
  leap := by
    have := t.leap
    cases second
    · simp
    · simp only [if_true]
      omega

/-- The instant with the seconds, or the minutes and the seconds, reset if they
are not kept. -/
def Instant.keep (minute second : Bool) (i : Instant) : Instant :=
  ⟨i.date, i.time.keep minute second⟩

theorem Date.keep_true (d : Date) : d.keep true true = d := rfl

variable {t : Time}

theorem Time.hour_keep (minute second : Bool) (t : Time) :
    (t.keep minute second).hour = t.hour := by
  simp only [Time.hour, Time.keep]
  split
  · rfl
  · split <;> omega

theorem Time.minute_keep (second : Bool) (t : Time) :
    (t.keep true second).minute = t.minute := by
  simp only [Time.minute, Time.keep, if_true]
  split
  · rfl
  · omega

theorem Time.fraction_keep (minute second : Bool) (t : Time) :
    (t.keep minute second).fraction = 0 := by
  cases second <;> simp [Time.fraction, Time.keep]

theorem Time.writtenSecond_keep (second : Bool) (t : Time) :
    (t.keep true second).writtenSecond = if second then t.writtenSecond else 0 := by
  cases second <;> simp [Time.writtenSecond, Time.keep]

/-- A time is made from the parts that are kept. -/
theorem Time.make?_keep (second : Bool) (t : Time) :
    Time.make? t.hour t.minute (if second then t.writtenSecond else 0) 0 =
      some (t.keep true second) := by
  have hmake := Time.make?_self (t.keep true second)
  rwa [hour_keep, minute_keep, fraction_keep, writtenSecond_keep] at hmake

end Calendar

namespace Layout

variable {told : List Fact} {pieces : List Piece} {i : Instant} {l : Layout}

/-! ### Facts that make a date and a time -/

/-- Do the facts tell month and day? -/
abbrev TellsDay (told : List Fact) : Prop := .month ∈ told ∧ .day ∈ told

/-- Do the facts tell the hour and the minute? -/
abbrev TellsMinute (told : List Fact) : Prop :=
  .half ∈ told ∧ .hour12 ∈ told ∧ .minute ∈ told

theorem date?_ofFacts (hyear : .year ∈ told) (hshort : .shortYear ∉ told) (i : Instant) :
    (Fields.ofFacts told i).date? = if TellsDay told then some i.date else none := by
  have hfull : (Fields.ofFacts told i).fullYear? = some i.date.year := by
    simp [Fields.fullYear?, Fields.ofFacts, given_of_mem hyear, given_of_not_mem hshort]
  have hweekday : (given .weekday told i.date.weekday).all (· = i.date.weekday) = true := by
    unfold given
    split <;> simp
  by_cases hmonth : .month ∈ told
  · by_cases hday : .day ∈ told
    · rw [if_pos ⟨hmonth, hday⟩, Fields.date?, hfull]
      simp [Fields.ofFacts, given_of_mem hmonth, given_of_mem hday, hweekday]
    · rw [if_neg fun h => hday h.2, Fields.date?, hfull]
      simp [Fields.ofFacts, given_of_not_mem hday]
  · rw [if_neg fun h => hmonth h.1, Fields.date?, hfull]
    simp [Fields.ofFacts, given_of_not_mem hmonth]

theorem time?_ofFacts (told : List Fact) (i : Instant) :
    (Fields.ofFacts told i).time? =
      if TellsMinute told then some (i.time.keep true (.second ∈ told)) else none := by
  have hsecond : (given .second told i.time.writtenSecond).getD 0 =
      if decide (.second ∈ told) = true then i.time.writtenSecond else 0 := by
    by_cases h : .second ∈ told
    · simp [given, h]
    · simp [given, h]
  by_cases hhalf : .half ∈ told
  · by_cases hhour : .hour12 ∈ told
    · by_cases hminute : .minute ∈ told
      · rw [if_pos ⟨hhalf, hhour, hminute⟩, ← Time.make?_keep, ← hour_eq i.time]
        simp [Fields.time?, Fields.ofFacts, given_of_mem hhalf, given_of_mem hhour,
          given_of_mem hminute, hsecond]
      · rw [if_neg fun h => hminute h.2.2]
        simp [Fields.time?, Fields.ofFacts, given_of_not_mem hminute]
    · rw [if_neg fun h => hhour h.2.1]
      simp [Fields.time?, Fields.ofFacts, given_of_not_mem hhour]
  · rw [if_neg fun h => hhalf h.1]
    simp [Fields.time?, Fields.ofFacts, given_of_not_mem hhalf]

theorem plainInstant?_ofFacts (hyear : .year ∈ told) (hshort : .shortYear ∉ told) (i : Instant) :
    (Fields.ofFacts told i).plainInstant? =
      if TellsDay told ∧ TellsMinute told then some (i.keep true (.second ∈ told))
      else none := by
  rw [Fields.plainInstant?, date?_ofFacts hyear hshort, time?_ofFacts]
  by_cases hday : TellsDay told
  · by_cases hminute : TellsMinute told
    · rw [if_pos hday, if_pos hminute, if_pos ⟨hday, hminute⟩]
      rfl
    · rw [if_pos hday, if_neg hminute, if_neg fun h => hminute h.2]
      rfl
  · have hnot : ¬ (TellsDay told ∧ TellsMinute told) := fun h => hday h.1
    rw [if_neg hday, if_neg hnot]
    rfl

/-- The offset that is written is none at all. -/
theorem zonedInstant?_ofFacts (told : List Fact) (i : Instant) :
    (Fields.ofFacts told i).zonedInstant? =
      if .offset ∈ told then (Fields.ofFacts told i).plainInstant? else none := by
  have hoffset : (Fields.ofFacts told i).offset = given .offset told 0 := rfl
  split
  · rename_i h
    simp [Fields.zonedInstant?, Fields.plainInstant?, hoffset, given_of_mem h,
      Instant.ofLocal?_zero]
  · rename_i h
    simp [Fields.zonedInstant?, hoffset, given_of_not_mem h]

/-! ### What is supplied -/

/-- The facts that the layout tells. -/
def facts (l : Layout) : List Fact := l.pieces.flatMap Piece.facts

theorem namesMonth_iff (piece : Piece) : piece.namesMonth = true ↔ .month ∈ piece.facts := by
  cases piece with
  | token text e => cases e <;> simp [Piece.namesMonth, Piece.facts, Element.facts]
  | literal c => simp [Piece.namesMonth, Piece.facts]

theorem namesDay_iff (piece : Piece) : piece.namesDay = true ↔ .day ∈ piece.facts := by
  cases piece with
  | token text e => cases e <;> simp [Piece.namesDay, Piece.facts, Element.facts]
  | literal c => simp [Piece.namesDay, Piece.facts]

theorem supplement_eq (l : Layout) : l.supplement =
    (if .month ∈ l.facts then [] else suppliedPieces (.month .zero)) ++
      (if .day ∈ l.facts then [] else suppliedPieces (.day .zero)) := by
  have hmonth : l.pieces.any Piece.namesMonth = true ↔ .month ∈ l.facts := by
    simp only [List.any_eq_true, namesMonth_iff, facts, List.mem_flatMap]
  have hday : l.pieces.any Piece.namesDay = true ↔ .day ∈ l.facts := by
    simp only [List.any_eq_true, namesDay_iff, facts, List.mem_flatMap]
  simp only [supplement, hmonth, hday]

/-- What is supplied names the month and the day if the layout does not. -/
theorem facts_supplement (l : Layout) : l.supplement.flatMap Piece.facts =
    (if .month ∈ l.facts then [] else [.month]) ++ (if .day ∈ l.facts then [] else [.day]) := by
  rw [supplement_eq, List.flatMap_append]
  congr 1 <;> split <;> rfl

theorem apart_supplement (l : Layout) : Apart l.supplement ∧ EndsNumber l.supplement := by
  have hspace : ∀ e, EndsNumber (suppliedPieces e) := by
    rintro e piece ⟨⟩
    exact ⟨' ', rfl, by decide⟩
  have hnil : EndsNumber [] := by rintro piece ⟨⟩
  rw [supplement_eq]
  split <;> split
  · exact ⟨trivial, hnil⟩
  · exact ⟨⟨hnil, trivial⟩, hspace _⟩
  · exact ⟨⟨hnil, trivial⟩, hspace _⟩
  · exact ⟨⟨hspace (.day .zero), hnil, trivial⟩, hspace (.month .zero)⟩

/-- The instant with the first month and the first day where the layout names
none. -/
def filled (l : Layout) (i : Instant) : Instant :=
  ⟨i.date.keep (.month ∈ l.facts) (.day ∈ l.facts), i.time⟩

/-- What is supplied is what the layout would have written. -/
theorem supplementText_eq (l : Layout) (i : Instant) :
    l.supplementText = writePieces l.supplement (l.filled i) := by
  rw [supplementText, supplement_eq, List.flatMap_append, writePieces, List.flatMap_append]
  congr 1
  · split
    · rfl
    · rename_i h
      simp [suppliedPieces, Piece.text, Piece.write, Element.write, Fill.write, filled,
        Date.keep, h]
      decide
  · split
    · rfl
    · rename_i h
      simp [suppliedPieces, Piece.text, Piece.write, Element.write, Fill.write, filled,
        Date.keep, h]
      decide

/-- An element writes nothing but the facts that it tells, a weekday apart,
which depends on the whole date. -/
theorem Element.write_filled {e : Element} (hmonth : .month ∈ e.facts → .month ∈ l.facts)
    (hday : .day ∈ e.facts → .day ∈ l.facts) (hweekday : .weekday ∈ e.facts → TellsDay l.facts) :
    e.write (l.filled i) = e.write i := by
  have hall : TellsDay l.facts → l.filled i = i := by
    rintro ⟨h, h'⟩
    simp only [filled, h, h', decide_true, Date.keep_true]
  cases e with
  | month fill => simp [Element.write, filled, Date.keep, hmonth (by simp [Element.facts])]
  | monthName => simp [Element.write, filled, Date.keep, hmonth (by simp [Element.facts])]
  | monthAbbreviation =>
    simp [Element.write, filled, Date.keep, hmonth (by simp [Element.facts])]
  | day fill => simp [Element.write, filled, Date.keep, hday (by simp [Element.facts])]
  | weekdayName => rw [hall (hweekday (by simp [Element.facts]))]
  | weekdayAbbreviation => rw [hall (hweekday (by simp [Element.facts]))]
  | meridiem capital => cases capital <;> rfl
  | offset colon => cases colon <;> rfl
  | _ => rfl

theorem writePieces_filled (hweekday : .weekday ∈ l.facts → TellsDay l.facts) (i : Instant) :
    writePieces l.pieces (l.filled i) = writePieces l.pieces i := by
  refine List.flatMap_congr fun piece hpiece => ?_
  have hfacts : ∀ fact ∈ piece.facts, fact ∈ l.facts :=
    fun fact hfact => List.mem_flatMap.2 ⟨piece, hpiece, hfact⟩
  cases piece with
  | token text e =>
    exact Element.write_filled (hfacts _) (hfacts _) fun h => hweekday (hfacts _ h)
  | literal c => rfl

/-! ### Reading a written date -/

/-- A written date holds the facts that the layout tells. -/
theorem fieldsOf?_format (hapart : Apart l.pieces) (i : Instant) :
    fieldsOf? l.pieces (l.format i).toList = some (.ofFacts l.facts i) := by
  rw [format, String.toList_ofList, fieldsOf?_writePieces hapart, facts]

/-- With what is supplied it holds month and day as well. -/
theorem fieldsOf?_format_supplied (hapart : Apart l.pieces)
    (hweekday : .weekday ∈ l.facts → TellsDay l.facts) (i : Instant) :
    fieldsOf? (l.pieces ++ l.supplement) ((l.format i).toList ++ l.supplementText) =
      some (.ofFacts (l.facts ++ l.supplement.flatMap Piece.facts) (l.filled i)) := by
  obtain ⟨happart', hends⟩ := apart_supplement l
  have hwrite : (l.format i).toList ++ l.supplementText =
      writePieces (l.pieces ++ l.supplement) (l.filled i) := by
    rw [format, String.toList_ofList, ← writePieces_filled hweekday, supplementText_eq l i,
      writePieces, writePieces, writePieces, List.flatMap_append]
  rw [hwrite, fieldsOf?_writePieces (hapart.append happart' hends), List.flatMap_append, facts]

theorem startOfDay?_supplied (hyear : .year ∈ l.facts) (hshort : .shortYear ∉ l.facts)
    (i : Instant) :
    (Fields.ofFacts (l.facts ++ l.supplement.flatMap Piece.facts) (l.filled i)).startOfDay? =
      some (.startOf (l.filled i).date) := by
  have hday : TellsDay (l.facts ++ l.supplement.flatMap Piece.facts) := by
    rw [facts_supplement]
    constructor <;> by_cases h : .month ∈ l.facts <;> by_cases h' : .day ∈ l.facts <;>
      simp [h, h']
  have hshort' : .shortYear ∉ l.facts ++ l.supplement.flatMap Piece.facts := by
    rw [facts_supplement]
    by_cases h : .month ∈ l.facts <;> by_cases h' : .day ∈ l.facts <;> simp [h, h', hshort]
  rw [Fields.startOfDay?, date?_ofFacts (List.mem_append_left _ hyear) hshort', if_pos hday]
  rfl

theorem isEmpty_eq_false (h : l.facts ≠ []) : l.isEmpty = false := by
  by_contra hempty
  have htext : l.text = "" := String.isEmpty_iff.1 (by simpa [isEmpty] using hempty)
  exact h (by rw [facts, pieces, htext]; rfl)

/-- **Written dates read back.**  Where tokens stand apart and the year is
written in full, what comes back is the instant to the minute or the second if
the layout tells date, hour and minute, and else the start of the date, with
the first month and the first day where none is told. -/
theorem parse?_format (hapart : Apart l.pieces) (hyear : .year ∈ l.facts)
    (hshort : .shortYear ∉ l.facts) (hweekday : .weekday ∈ l.facts → TellsDay l.facts)
    (i : Instant) :
    l.parse? (l.format i) =
      if TellsDay l.facts ∧ TellsMinute l.facts then
        some (i.keep true (.second ∈ l.facts))
      else some (.startOf (i.date.keep (.month ∈ l.facts) (.day ∈ l.facts))) := by
  have hnonempty : ¬ l.isEmpty = true := by
    rw [isEmpty_eq_false (List.ne_nil_of_mem hyear)]
    simp
  rw [parse?, if_neg hnonempty]
  simp only [fieldsOf?_format hapart, Option.bind_some, fieldsOf?_format_supplied hapart hweekday,
    startOfDay?_supplied hyear hshort, zonedInstant?_ofFacts, plainInstant?_ofFacts hyear hshort]
  split
  · split <;> rfl
  · split <;> rfl

/-- The layout that is used where none is given reads back the start of every
day. -/
theorem standard_parse?_format (h : i.time = Time.midnight) :
    standard.parse? (standard.format i) = some i := by
  have hfacts : standard.facts = [.year, .month, .day] := by
    rw [facts, standard_pieces]
    rfl
  have hapart : Apart standard.pieces := by
    rw [standard_pieces]
    simp [Apart, EndsNumber]
  rw [parse?_format hapart (by simp [hfacts]) (by simp [hfacts]) (by simp [hfacts]), hfacts,
    if_neg (by decide)]
  simp [Date.keep_true, Instant.startOf, ← h]

end Layout

end TextRoadmap
