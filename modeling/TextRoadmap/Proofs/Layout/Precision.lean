/-
TextRoadmap/Proofs/Layout/Precision.lean

How much of an instant comes back from a layout of a date, or of a date and a
time.

A layout of a year, with or without a month and a day, brings back the date as
far as it is named (`Layout.parse?_format_date`).  A layout that goes on to the
minute or the second brings back the time as far as it is named.  One that
stops at the hour does not: no time is known without its minute, so the start
of the day is read (`Layout.parse?_format_time_iff`).
-/
import TextRoadmap.Proofs.Layout.Separated

namespace TextRoadmap

open TextRoadmap.Text TextRoadmap.Calendar

namespace Layout

/-! ### Tokens by what they name -/

/-- The token for a year in full. -/
def yearToken : Token := ("2006", .year)

/-- The tokens for a month. -/
def monthTokens : List Token :=
  [("01", .month .zero), ("1", .month .bare), ("Jan", .monthAbbreviation), ("January", .monthName)]

/-- The tokens for a day. -/
def dayTokens : List Token := [("02", .day .zero), ("2", .day .bare), ("_2", .day .blank)]

/-- The tokens for an hour: one of the full day, or one of twelve with the half
of the day. -/
def hourTokens : List (List Token) :=
  [[("15", .hour)],
   [("03", .hour12 .zero), ("PM", .meridiem true)],
   [("03", .hour12 .zero), ("pm", .meridiem false)],
   [("3", .hour12 .bare), ("PM", .meridiem true)],
   [("3", .hour12 .bare), ("pm", .meridiem false)]]

/-- The tokens for a minute. -/
def minuteTokens : List Token := [("04", .minute .zero), ("4", .minute .bare)]

/-- The tokens for a second. -/
def secondTokens : List Token := [("05", .second .zero), ("5", .second .bare)]

/-- The marks between the tokens of a date. -/
def dateMarks : List Char := ['-', '/', '.', ',', ' ']

/-- A layout of a year and perhaps a month and a day, in any order. -/
structure IsDateLayout (l : Layout) (month day : Option Token) : Prop where
  month_mem : ∀ t ∈ month, t ∈ monthTokens
  day_mem : ∀ t ∈ day, t ∈ dayTokens
  spelled : ∃ ts : List Token, ts.Perm (yearToken :: (month.toList ++ day.toList)) ∧
    Separated dateMarks ts l.text.toList

/-- A layout of a full date, an hour and perhaps a minute and a second, in any
order. -/
structure IsTimeLayout (l : Layout) (minute second : Option Token) : Prop where
  minute_mem : ∀ t ∈ minute, t ∈ minuteTokens
  second_mem : ∀ t ∈ second, t ∈ secondTokens
  minute_of_second : second.isSome → minute.isSome
  spelled : ∃ month ∈ monthTokens, ∃ day ∈ dayTokens, ∃ hour ∈ hourTokens, ∃ ts : List Token,
    ts.Perm (yearToken :: month :: day :: hour ++ (minute.toList ++ second.toList)) ∧
      Separated marks ts l.text.toList

variable {l : Layout} {month day minute second : Option Token} {entry : Token}
variable {entries named : List Token} {kinds : List Char} {fact : Fact} {i : Instant}

/-! ### The facts of such layouts -/

/-- The facts that tokens tell. -/
def factsOf (entries : List Token) : List Fact := entries.flatMap fun entry => entry.2.facts

theorem factsOf_cons (entry : Token) (entries : List Token) :
    factsOf (entry :: entries) = entry.2.facts ++ factsOf entries := rfl

theorem factsOf_append (entries entries' : List Token) :
    factsOf (entries ++ entries') = factsOf entries ++ factsOf entries' :=
  List.flatMap_append

/-- A token that may be left out tells its fact if it is there. -/
theorem factsOf_toList {token : Option Token} (h : ∀ t ∈ token, t.2.facts = [fact]) :
    factsOf token.toList = if token.isSome then [fact] else [] := by
  cases token with
  | none => rfl
  | some t => simpa [factsOf] using h t rfl

/-- A separated layout tells what its tokens tell, in whatever order. -/
theorem apart_and_facts (hsep : Separated kinds entries l.text.toList)
    (hkinds : kinds ⊆ marks) (hperm : entries.Perm named)
    (hmem : ∀ entry ∈ named, entry ∈ tokens) :
    Apart l.pieces ∧ ∀ fact, fact ∈ l.facts ↔ fact ∈ factsOf named := by
  obtain ⟨hapart, hfacts⟩ :=
    hsep.piecesOf hkinds fun entry hentry => hmem entry (hperm.mem_iff.1 hentry)
  refine ⟨hapart, fun fact => ?_⟩
  have heq : l.facts = factsOf entries := hfacts
  rw [heq]
  exact (hperm.flatMap_right _).mem_iff

/-- The facts of a layout of a date. -/
def dateFacts (month day : Bool) : List Fact :=
  [.year] ++ ((if month then [.month] else []) ++ if day then [.day] else [])

/-- The facts of a layout of a date and a time. -/
def timeFacts (minute second : Bool) : List Fact :=
  [.year, .month, .day, .half, .hour12] ++
    ((if minute then [.minute] else []) ++ if second then [.second] else [])

theorem IsDateLayout.apart_and_facts (h : IsDateLayout l month day) :
    Apart l.pieces ∧ ∀ fact, fact ∈ l.facts ↔ fact ∈ dateFacts month.isSome day.isSome := by
  have hmonths : ∀ t ∈ monthTokens, t ∈ tokens ∧ t.2.facts = [.month] := by decide
  have hdays : ∀ t ∈ dayTokens, t ∈ tokens ∧ t.2.facts = [.day] := by decide
  obtain ⟨ts, hperm, hsep⟩ := h.spelled
  have hmem : ∀ t ∈ yearToken :: (month.toList ++ day.toList), t ∈ tokens := by
    intro t ht
    simp only [List.mem_cons, List.mem_append, Option.mem_toList] at ht
    rcases ht with rfl | ht | ht
    · decide
    · exact (hmonths t (h.month_mem t ht)).1
    · exact (hdays t (h.day_mem t ht)).1
  have hmonth := factsOf_toList fun t ht => (hmonths t (h.month_mem t ht)).2
  have hday := factsOf_toList fun t ht => (hdays t (h.day_mem t ht)).2
  obtain ⟨hapart, hfacts⟩ := Layout.apart_and_facts hsep (by decide) hperm hmem
  refine ⟨hapart, fun fact => ?_⟩
  rw [hfacts, factsOf_cons, factsOf_append, hmonth, hday]
  rfl

theorem IsTimeLayout.apart_and_facts (h : IsTimeLayout l minute second) :
    Apart l.pieces ∧
      ∀ fact, fact ∈ l.facts ↔ fact ∈ timeFacts minute.isSome second.isSome := by
  have hmonths : ∀ t ∈ monthTokens, t ∈ tokens ∧ t.2.facts = [.month] := by decide
  have hdays : ∀ t ∈ dayTokens, t ∈ tokens ∧ t.2.facts = [.day] := by decide
  have hhours : ∀ hour ∈ hourTokens, (∀ t ∈ hour, t ∈ tokens) ∧
      (factsOf hour).Perm [.half, .hour12] := by
    decide
  have hminutes : ∀ t ∈ minuteTokens, t ∈ tokens ∧ t.2.facts = [.minute] := by decide
  have hseconds : ∀ t ∈ secondTokens, t ∈ tokens ∧ t.2.facts = [.second] := by decide
  obtain ⟨month, hmonth, day, hday, hour, hhour, ts, hperm, hsep⟩ := h.spelled
  have hmem : ∀ t ∈ yearToken :: month :: day :: hour ++ (minute.toList ++ second.toList),
      t ∈ tokens := by
    intro t ht
    simp only [List.mem_cons, List.cons_append, List.mem_append, Option.mem_toList] at ht
    rcases ht with rfl | rfl | rfl | ht | ht | ht
    · decide
    · exact (hmonths _ hmonth).1
    · exact (hdays _ hday).1
    · exact (hhours _ hhour).1 t ht
    · exact (hminutes t (h.minute_mem t ht)).1
    · exact (hseconds t (h.second_mem t ht)).1
  have hminute := factsOf_toList fun t ht => (hminutes t (h.minute_mem t ht)).2
  have hsecond := factsOf_toList fun t ht => (hseconds t (h.second_mem t ht)).2
  obtain ⟨hapart, hfacts⟩ := Layout.apart_and_facts hsep (by decide) hperm hmem
  refine ⟨hapart, fun fact => (hfacts fact).trans (List.Perm.mem_iff ?_)⟩
  rw [factsOf_append, factsOf_append, hminute, hsecond, factsOf_cons, factsOf_cons, factsOf_cons,
    (hmonths _ hmonth).2, (hdays _ hday).2]
  exact (((hhours _ hhour).2.append_left [.year, .month, .day]).append_right _)

/-! ### Dates -/

/-- **Dates come back as far as they are named.**  A written date is read as
its day, with the first month and the first day where the layout names none. -/
theorem parse?_format_date (h : IsDateLayout l month day) (i : Instant) :
    l.parse? (l.format i) = some (.startOf (i.date.keep month.isSome day.isSome)) := by
  have htold : ∀ month day, .year ∈ dateFacts month day ∧
      decide (.month ∈ dateFacts month day) = month ∧
      decide (.day ∈ dateFacts month day) = day ∧
      .shortYear ∉ dateFacts month day ∧ .weekday ∉ dateFacts month day ∧
      ¬ TellsMinute (dateFacts month day) := by
    decide
  obtain ⟨hapart, hfacts⟩ := h.apart_and_facts
  obtain ⟨hyear, hmonth, hday, hshort, hweekday, hminute⟩ := htold month.isSome day.isSome
  simp only [TellsMinute, ← hfacts] at hyear hmonth hday hshort hweekday hminute
  rw [parse?_format hapart hyear hshort (fun h => absurd h hweekday),
    if_neg fun h => hminute h.2, hmonth, hday]

/-- A year before the common era behind a day, which moves to January. -/
theorem parse?_format_date_without_month :
    let l : Layout := ⟨"_2, 2006"⟩
    let i : Instant := ⟨⟨-44, 3, 31, by decide⟩, ⟨3600, 0, by decide, by decide, by decide⟩⟩
    IsDateLayout l none (some ("_2", .day .blank)) ∧ l.format i = "31, -0044" ∧
      l.parse? (l.format i) = some (.startOf ⟨-44, 1, 31, by decide⟩) := by
  intro l i
  have h : IsDateLayout l none (some ("_2", .day .blank)) :=
    ⟨by decide, by decide, [("_2", .day .blank), yearToken], by decide,
      separated_of_eq ("_2", .day .blank) [([',', ' '], yearToken)] (by decide) (by decide)⟩
  exact ⟨h, by decide +kernel, parse?_format_date h i⟩

/-! ### Dates and times -/

theorem IsTimeLayout.parse?_format (h : IsTimeLayout l minute second) (i : Instant) :
    l.parse? (l.format i) =
      some (if minute.isSome then i.keep true second.isSome else .startOf i.date) := by
  have htold : ∀ minute second, .year ∈ timeFacts minute second ∧
      TellsDay (timeFacts minute second) ∧
      (TellsMinute (timeFacts minute second) ↔ minute = true) ∧
      decide (.second ∈ timeFacts minute second) = second ∧
      .shortYear ∉ timeFacts minute second := by
    decide
  obtain ⟨hapart, hfacts⟩ := h.apart_and_facts
  obtain ⟨hyear, hday, hminute, hsecond, hshort⟩ := htold minute.isSome second.isSome
  simp only [TellsDay, TellsMinute, ← hfacts] at hyear hday hminute hsecond hshort
  rw [Layout.parse?_format hapart hyear hshort (fun _ => hday), hsecond]
  by_cases hsome : minute.isSome = true
  · rw [if_pos ⟨hday, hminute.2 hsome⟩, if_pos hsome]
  · rw [if_neg fun h => hsome (hminute.1 h.2), if_neg hsome, decide_eq_true hday.1,
      decide_eq_true hday.2, Date.keep_true]

theorem keep_eq_startOf_iff : i.keep false false = .startOf i.date ↔ i.time.hour = 0 := by
  simp only [Instant.keep, Instant.startOf, Instant.mk.injEq, true_and, Time.keep, Time.midnight,
    Time.mk.injEq, Bool.false_eq_true, if_false, and_true, Time.hour]
  omega

/-- **Times come back as far as they are named, if the minute is.**  Without a
minute the start of the day comes back, so that of two instants of a day it can
not be told which was written. -/
theorem parse?_format_time_iff (h : IsTimeLayout l minute second) :
    (∀ i, l.parse? (l.format i) = some (i.keep minute.isSome second.isSome) ↔
      minute.isSome ∨ i.time.hour = 0) ∧
    (∀ i, minute = none → l.parse? (l.format i) = some (.startOf i.date)) ∧
    ((∀ i j, l.parse? (l.format i) = l.parse? (l.format j) →
      i.keep minute.isSome second.isSome = j.keep minute.isSome second.isSome) ↔
        minute.isSome) := by
  rcases hminute : minute with - | t
  · -- a second is named with a minute only
    have hsecond : second = none := by
      by_contra hsome
      have := h.minute_of_second (Option.isSome_iff_ne_none.2 hsome)
      simp [hminute] at this
    have hread : ∀ i, l.parse? (l.format i) = some (.startOf i.date) := by
      intro i
      rw [h.parse?_format, hminute]
      rfl
    subst hsecond
    refine ⟨fun i => ?_, fun i _ => hread i, ?_⟩
    · rw [hread, Option.some.injEq, eq_comm]
      simpa using keep_eq_startOf_iff
    · refine ⟨fun hinj => ?_, fun hsome => by cases hsome⟩
      -- midnight and one in the morning are read alike
      let day : Date := ⟨2020, 2, 1, by decide⟩
      let one : Time := ⟨3600, 0, by decide, by decide, by decide⟩
      have hkeep := hinj ⟨day, Time.midnight⟩ ⟨day, one⟩ (by rw [hread, hread])
      exact absurd hkeep (by decide)
  · have hread : ∀ i, l.parse? (l.format i) = some (i.keep true second.isSome) := by
      intro i
      rw [h.parse?_format, hminute]
      rfl
    refine ⟨fun i => ⟨fun _ => Or.inl rfl, fun _ => hread i⟩, fun i hnone => ?_, ?_⟩
    · cases hnone
    · refine ⟨fun _ => rfl, fun _ i j hij => ?_⟩
      rw [hread, hread] at hij
      exact Option.some.inj hij

/-- A leap second on a twelve-hour clock. -/
theorem parse?_format_time_iff_leap_second :
    let l : Layout := ⟨"3:04:5 pm, Jan _2/2006"⟩
    let minute : Option Token := some ("04", .minute .zero)
    let second : Option Token := some ("5", .second .bare)
    let i : Instant :=
      ⟨⟨2016, 12, 31, by decide⟩, ⟨86399, 1250000000, by decide, by decide, by decide⟩⟩
    IsTimeLayout l minute second ∧ l.format i = "11:59:60 pm, Dec 31/2016" ∧
      l.parse? (l.format i) =
        some ⟨i.date, ⟨86399, 1000000000, by decide, by decide, by decide⟩⟩ := by
  intro l minute second i
  have hsep : Separated marks [("3", .hour12 .bare), ("04", .minute .zero), ("5", .second .bare),
      ("pm", .meridiem false), ("Jan", .monthAbbreviation), ("_2", .day .blank), yearToken]
      l.text.toList :=
    separated_of_eq ("3", .hour12 .bare) [([':'], ("04", .minute .zero)),
      ([':'], ("5", .second .bare)), ([' '], ("pm", .meridiem false)),
      ([',', ' '], ("Jan", .monthAbbreviation)), ([' '], ("_2", .day .blank)),
      (['/'], yearToken)] (by decide) (by decide)
  have h : IsTimeLayout l minute second :=
    ⟨by decide, by decide, by decide, ("Jan", .monthAbbreviation), by decide,
      ("_2", .day .blank), by decide, [("3", .hour12 .bare), ("pm", .meridiem false)], by decide,
      _, by decide, hsep⟩
  have hkeep : i.keep minute.isSome second.isSome =
      ⟨i.date, ⟨86399, 1000000000, by decide, by decide, by decide⟩⟩ := by
    decide +kernel
  exact ⟨h, by decide +kernel,
    (((parse?_format_time_iff h).1 i).2 (Or.inl rfl)).trans (congrArg some hkeep)⟩

/-- An hour without a minute is lost. -/
theorem not_parse?_format_hour :
    let l : Layout := ⟨"2006-01-02 15"⟩
    let i : Instant := ⟨⟨2020, 2, 1, by decide⟩, ⟨46800, 0, by decide, by decide, by decide⟩⟩
    IsTimeLayout l none none ∧ l.format i = "2020-02-01 13" ∧ i.keep false false = i ∧
      l.parse? (l.format i) = some (.startOf i.date) ∧
      l.parse? (l.format i) ≠ some (i.keep false false) := by
  intro l i
  have hsep : Separated marks [yearToken, ("01", .month .zero), ("02", .day .zero), ("15", .hour)]
      l.text.toList :=
    separated_of_eq yearToken [(['-'], ("01", .month .zero)), (['-'], ("02", .day .zero)),
      ([' '], ("15", .hour))] (by decide) (by decide)
  have h : IsTimeLayout l none none :=
    ⟨by decide, by decide, by decide, ("01", .month .zero), by decide, ("02", .day .zero),
      by decide, [("15", .hour)], by decide, _, by decide, hsep⟩
  exact ⟨h, by decide +kernel, by decide, by decide +kernel, by decide +kernel⟩

end Layout

end TextRoadmap
