/-
TextRoadmap/Proofs/Layout/Facts.lean

What a written date says about its instant, and that it is read back.

Every element of a layout tells one or two facts about an instant, and the
fields that are read from a text hold such facts (`Fields.ofFacts`).  Reading
what an element has written adds the facts that it tells
(`Element.read?_write`); from this step a written date gives exactly the facts
of its pieces (`fieldsOf?_writePieces`).

The one thing that could go wrong is that a number takes the digits of its
neighbour.  It can not where tokens stand apart (`Apart`), that is where no
token is followed by another token or by a digit of the layout.
-/
import Mathlib.Tactic.IntervalCases
import TextRoadmap.Proofs.Layout.Read

namespace TextRoadmap.Layout

open TextRoadmap.Text TextRoadmap.Calendar

/-! ### Facts -/

/-- A fact about an instant for which there is a field. -/
inductive Fact where
  | year
  | shortYear
  | month
  | day
  | weekday
  | half
  | hour12
  | minute
  | second
  | offset
  deriving DecidableEq

/-- The facts that an element tells; a full hour tells two. -/
def Element.facts : Element → List Fact
  | .year => [.year]
  | .shortYear => [.shortYear]
  | .month _ | .monthName | .monthAbbreviation => [.month]
  | .weekdayName | .weekdayAbbreviation => [.weekday]
  | .day _ => [.day]
  | .hour => [.half, .hour12]
  | .hour12 _ => [.hour12]
  | .minute _ => [.minute]
  | .second _ => [.second]
  | .meridiem _ => [.half]
  | .offset _ => [.offset]

/-- The facts that a piece of a layout tells. -/
def Piece.facts : Piece → List Fact
  | .token _ element => element.facts
  | .literal _ => []

/-- The value of a fact that is among those told. -/
def given {α : Type} (fact : Fact) (facts : List Fact) (value : α) : Option α :=
  if fact ∈ facts then some value else none

/-- The fields that hold these facts about the instant. -/
def Fields.ofFacts (facts : List Fact) (i : Instant) : Fields where
  year := given .year facts i.date.year
  shortYear := given .shortYear facts (i.date.year % 100).toNat
  month := given .month facts i.date.month
  day := given .day facts i.date.day
  weekday := given .weekday facts i.date.weekday
  afternoon := given .half facts i.time.isAfternoon
  hour12 := given .hour12 facts (i.time.hour % 12)
  minute := given .minute facts i.time.minute
  second := given .second facts i.time.writtenSecond
  fraction := none
  offset := given .offset facts 0

variable {α : Type} {s t rest : List Char} {n : Nat} {i : Instant} {value : α}
variable {fact : Fact} {facts facts' : List Fact} {pieces pieces' : List Piece}

theorem given_of_mem (h : fact ∈ facts) : given fact facts value = some value := if_pos h

theorem given_of_not_mem (h : fact ∉ facts) : given fact facts value = none := if_neg h

theorem ofFacts_nil (i : Instant) : Fields.ofFacts [] i = Fields.empty := rfl

/-- A fact can be told again. -/
@[simp] theorem agree?_given [DecidableEq α] (fact : Fact) (facts : List Fact) (value : α) :
    agree? (given fact facts value) value = some (some value) := by
  unfold given
  split <;> simp [agree?]

/-- Further facts, with those that were told before. -/
@[simp] theorem given_append (fact : Fact) (facts facts' : List Fact) (value : α) :
    given fact (facts ++ facts') value =
      if fact ∈ facts' then some value else given fact facts value := by
  by_cases h : fact ∈ facts'
  · simp [given, h]
  · simp [given, h]

/-! ### Reading numbers -/

theorem skipBlank_skipBlank (s : List Char) : skipBlank (skipBlank s) = skipBlank s :=
  skipBlank_eq_self (head?_dropWhile isBlank s)

theorem readTwo?_decimal (h : n < 100) (hrest : NoDigit rest) :
    readTwo? (decimal n ++ rest) = some (n, rest) := by
  have hdigits : ∀ c ∈ decimal n, c.isDigit = true := fun c => isDigit_of_mem_decimal
  have hlength : (decimal n).length ≤ 2 := length_decimal_le (by decide) h
  rw [readTwo?, skipBlank_digits (decimal_ne_nil n) hdigits,
    readNumber?_append (decimal_ne_nil n) hdigits hlength (Or.inr hrest), digitsValue_decimal]

theorem readTwo?_skipBlank (s : List Char) : readTwo? (skipBlank s) = readTwo? s := by
  rw [readTwo?, skipBlank_skipBlank, readTwo?]

/-- A number is read however it is filled, if no digit follows it. -/
theorem readTwo?_fill (fill : Fill) (h : n < 100) (hrest : NoDigit rest) :
    readTwo? (fill.write n ++ rest) = some (n, rest) := by
  cases fill with
  | zero => exact readTwo?_zeroPadded h
  | blank =>
    have hblank : ∀ c ∈ List.replicate (2 - (decimal n).length) ' ', isBlank c = true := by
      intro c hc
      rw [List.eq_of_mem_replicate hc]
      decide
    have hskip : skipBlank (Fill.blank.write n ++ rest) = skipBlank (decimal n ++ rest) := by
      rw [Fill.write, padLeft, List.append_assoc, skipBlank, skipBlank,
        dropWhile_append_of_forall hblank]
    rw [← readTwo?_skipBlank, hskip, readTwo?_skipBlank, readTwo?_decimal h hrest]
  | bare => exact readTwo?_decimal h hrest

/-! ### Reading names -/

theorem readAbbreviation?_month (h : n < 12) (rest : List Char) :
    readAbbreviation? monthNames (abbreviate (nameAt monthNames n) ++ rest) = some (n, rest) := by
  interval_cases n <;> rfl

theorem readName?_month (h : n < 12) (rest : List Char) :
    readName? monthNames (nameAt monthNames n ++ rest) = some (n, rest) := by
  interval_cases n <;> rfl

theorem readAbbreviation?_weekday (h : n < 7) (rest : List Char) :
    readAbbreviation? weekdayNames (abbreviate (nameAt weekdayNames n) ++ rest) =
      some (n, rest) := by
  interval_cases n <;> rfl

theorem readName?_weekday (h : n < 7) (rest : List Char) :
    readName? weekdayNames (nameAt weekdayNames n ++ rest) = some (n, rest) := by
  interval_cases n <;> rfl

/-- Where all names begin with a character that is not blank, each does. -/
theorem exists_nameAt_eq_cons (names : List String)
    (hnames : (names.all fun name => name.toList.head?.any fun c => !isBlank c) = true)
    (h : n < names.length) : ∃ c more, nameAt names n = c :: more ∧ isBlank c = false := by
  have hname := List.all_eq_true.1 hnames names[n] (List.getElem_mem h)
  have hnth : nameAt names n = names[n].toList := by simp [nameAt, h]
  rw [hnth]
  rcases hlist : names[n].toList with - | ⟨c, more⟩
  · simp [hlist] at hname
  · exact ⟨c, more, rfl, by simpa [hlist] using hname⟩

/-! ### The number of a month among the names -/

theorem month_sub_one_lt (d : Date) : d.month - 1 < 12 := by
  have := d.valid.2.2.2.1
  omega

theorem month_sub_one_add_one (d : Date) : d.month - 1 + 1 = d.month :=
  Nat.sub_add_cancel d.valid.2.2.1

/-! ### Reading what an element has written -/

/-- Is a number of one digit written with a blank in front? -/
def Element.padsWithBlank : Element → Bool
  | .month .blank | .day .blank | .hour12 .blank | .minute .blank | .second .blank => true
  | _ => false

theorem exists_zeroPadded_eq_cons (width n : Nat) :
    ∃ c more, zeroPadded width n = c :: more ∧ isBlank c = false := by
  obtain ⟨c, more, hmore⟩ := List.exists_cons_of_ne_nil (zeroPadded_ne_nil width n)
  exact ⟨c, more, hmore, isBlank_of_isDigit
    (isDigit_of_mem_zeroPadded (by rw [hmore]; exact List.mem_cons_self ..))⟩

theorem exists_fill_eq_cons {fill : Fill} (h : fill ≠ .blank) (n : Nat) :
    ∃ c more, fill.write n = c :: more ∧ isBlank c = false := by
  cases fill with
  | zero => exact exists_zeroPadded_eq_cons 2 n
  | blank => exact absurd rfl h
  | bare =>
    obtain ⟨c, more, hmore, hc⟩ := exists_decimal_eq_cons n
    exact ⟨c, more, hmore, isBlank_of_isDigit hc⟩

/-- No other element begins with a blank. -/
theorem Element.exists_write_eq_cons {e : Element} (h : e.padsWithBlank = false) (i : Instant) :
    ∃ c more, e.write i = c :: more ∧ isBlank c = false := by
  have hmonth := exists_nameAt_eq_cons monthNames (by decide) (month_sub_one_lt i.date)
  have hweekday := exists_nameAt_eq_cons weekdayNames (by decide) i.date.weekday_lt
  have habbreviate : ∀ {name : List Char}, (∃ c more, name = c :: more ∧ isBlank c = false) →
      ∃ c more, abbreviate name = c :: more ∧ isBlank c = false := by
    rintro name ⟨c, more, rfl, hc⟩
    exact ⟨c, _, rfl, hc⟩
  have hfill : ∀ {fill : Fill} {n : Nat}, (fill = .blank → False) →
      ∃ c more, fill.write n = c :: more ∧ isBlank c = false := fun h => exists_fill_eq_cons h _
  cases e with
  | year =>
    simp only [Element.write, writeYear]
    split
    · exact exists_zeroPadded_eq_cons 4 _
    · refine ⟨_, _, rfl, ?_⟩
      split <;> decide
  | shortYear => exact exists_zeroPadded_eq_cons 2 _
  | hour => exact exists_zeroPadded_eq_cons 2 _
  | monthName => exact hmonth
  | monthAbbreviation => exact habbreviate hmonth
  | weekdayName => exact hweekday
  | weekdayAbbreviation => exact habbreviate hweekday
  | meridiem capital =>
    cases capital <;> simp only [Element.write] <;> cases i.time.isAfternoon <;>
      exact ⟨_, _, rfl, by decide⟩
  | offset colon => cases colon <;> exact ⟨_, _, rfl, by decide⟩
  | month fill => exact hfill (by rintro rfl; cases h)
  | day fill => exact hfill (by rintro rfl; cases h)
  | hour12 fill => exact hfill (by rintro rfl; cases h)
  | minute fill => exact hfill (by rintro rfl; cases h)
  | second fill => exact hfill (by rintro rfl; cases h)

/-- Blank space in front of what an element has written does not count. -/
theorem Element.read?_skipBlank (e : Element) (f : Fields) :
    e.read? f (skipBlank (e.write i ++ rest)) = e.read? f (e.write i ++ rest) := by
  cases hpads : e.padsWithBlank with
  | false =>
    obtain ⟨c, more, hwrite, hc⟩ := e.exists_write_eq_cons hpads i
    rw [hwrite, skipBlank_eq_self (by simpa using hc)]
  | true =>
    have hnumber : ∀ (store : Nat → Option Fields) (s : List Char),
        readInto? readTwo? store (skipBlank s) = readInto? readTwo? store s := by
      intro store s
      rw [readInto?, readTwo?_skipBlank, readInto?]
    cases e with
    | month => exact hnumber _ _
    | day => exact hnumber _ _
    | hour12 => exact hnumber _ _
    | minute => exact hnumber _ _
    | second => exact hnumber _ _
    | _ => cases hpads

/-- What is stored is what was read. -/
theorem readInto?_eq {read : List Char → Option (α × List Char)} {store : α → Option Fields}
    {f : Fields} (hread : read s = some (value, rest)) (hstore : store value = some f) :
    readInto? read store s = some (f, rest) := by
  rw [readInto?, hread]
  show (store value).map (·, rest) = _
  rw [hstore]
  rfl

theorem setAfternoon?_ofFacts (facts : List Fact) (i : Instant) :
    (Fields.ofFacts facts i).setAfternoon? i.time.isAfternoon =
      some (Fields.ofFacts (facts ++ [.half]) i) := by
  simp [Fields.setAfternoon?, Fields.ofFacts]

/-- Reading what an element has written adds the facts that it tells. -/
theorem Element.read?_write (e : Element) (facts : List Fact) (i : Instant)
    (hrest : NoDigit rest) :
    e.read? (Fields.ofFacts facts i) (e.write i ++ rest) =
      some (Fields.ofFacts (facts ++ e.facts) i, rest) := by
  obtain ⟨-, -, hmonth, hmonth', hday, -⟩ := i.date.valid
  have hday' := i.date.day_le
  have hhour := i.time.hour_lt
  have hminute := i.time.minute_lt
  have hsecond := i.time.writtenSecond_le
  have hhour12 : 1 ≤ i.time.hour12 ∧ i.time.hour12 ≤ 12 := by
    simp only [Time.hour12]
    omega
  cases e with
  | year =>
    refine readInto?_eq (readYear?_writeYear i.date.year hrest) ?_
    simp [Fields.setYear?, Fields.ofFacts, Element.facts]
  | shortYear =>
    refine readInto?_eq (readTwo?_zeroPadded (by omega)) ?_
    simp [Fields.setShortYear?, Fields.ofFacts, Element.facts]
  | month fill =>
    refine readInto?_eq (readTwo?_fill fill (by omega) hrest) ?_
    simp [Fields.setMonth?, Fields.ofFacts, Element.facts, hmonth, hmonth']
  | monthName =>
    rw [Element.read?]
    refine readInto?_eq (readName?_month (month_sub_one_lt i.date) rest) ?_
    rw [month_sub_one_add_one]
    simp [Fields.setMonth?, Fields.ofFacts, Element.facts, hmonth, hmonth']
  | monthAbbreviation =>
    rw [Element.read?]
    refine readInto?_eq (readAbbreviation?_month (month_sub_one_lt i.date) rest) ?_
    rw [month_sub_one_add_one]
    simp [Fields.setMonth?, Fields.ofFacts, Element.facts, hmonth, hmonth']
  | weekdayName =>
    refine readInto?_eq (readName?_weekday i.date.weekday_lt rest) ?_
    simp [Fields.setWeekday?, Fields.ofFacts, Element.facts]
  | weekdayAbbreviation =>
    refine readInto?_eq (readAbbreviation?_weekday i.date.weekday_lt rest) ?_
    simp [Fields.setWeekday?, Fields.ofFacts, Element.facts]
  | day fill =>
    refine readInto?_eq (readTwo?_fill fill (by omega) hrest) ?_
    simp [Fields.setDay?, Fields.ofFacts, Element.facts, hday, hday']
  | hour =>
    refine readInto?_eq (readTwo?_zeroPadded (by omega)) ?_
    rw [Fields.setHour?, if_pos hhour]
    show ((Fields.ofFacts facts i).setAfternoon? i.time.isAfternoon).bind _ = _
    rw [setAfternoon?_ofFacts]
    simp [Fields.ofFacts, Element.facts]
  | hour12 fill =>
    refine readInto?_eq (readTwo?_fill fill (by omega) hrest) ?_
    simp [Fields.setHour12?, Fields.ofFacts, Element.facts, hhour12, Time.hour12_mod]
  | minute fill =>
    refine readInto?_eq (readTwo?_fill fill (by omega) hrest) ?_
    simp [Fields.setMinute?, Fields.ofFacts, Element.facts, hminute]
  | second fill =>
    refine readInto?_eq (readTwo?_fill fill (by omega) hrest) ?_
    simp [Fields.setSecond?, Fields.ofFacts, Element.facts, hsecond]
  | meridiem capital =>
    have hread : readMeridiem? ((Element.meridiem capital).write i ++ rest) =
        some (i.time.isAfternoon, rest) := by
      cases capital <;> simp only [Element.write] <;> cases i.time.isAfternoon <;> rfl
    refine readInto?_eq hread ?_
    exact setAfternoon?_ofFacts facts i
  | offset colon =>
    have hread : readOffset? (skipBlank ((Element.offset colon).write i ++ rest)) =
        some (0, rest) := by
      cases colon <;> rfl
    refine readInto?_eq hread ?_
    simp [Fields.setOffset?, Fields.ofFacts, Element.facts]

/-! ### Reading what pieces have written -/

/-- The pieces go on with a character that is no digit, or not at all. -/
def EndsNumber (pieces : List Piece) : Prop :=
  ∀ piece ∈ pieces.head?, ∃ c, piece = .literal c ∧ c.isDigit = false

/-- No token is followed by another token or by a digit. -/
def Apart : List Piece → Prop
  | [] => True
  | .literal _ :: pieces => Apart pieces
  | .token _ _ :: pieces => EndsNumber pieces ∧ Apart pieces

theorem Apart.append (h : Apart pieces) (h' : Apart pieces') (hends : EndsNumber pieces') :
    Apart (pieces ++ pieces') := by
  induction pieces with
  | nil => exact h'
  | cons piece pieces ih =>
    cases piece with
    | literal c => exact ih h
    | token text e =>
      refine ⟨?_, ih h.2⟩
      cases pieces with
      | nil => exact hends
      | cons next pieces => exact h.1

theorem noDigit_writePieces (h : EndsNumber pieces) : NoDigit (writePieces pieces i) := by
  cases pieces with
  | nil => exact noDigit_nil
  | cons piece pieces =>
    obtain ⟨c, rfl, hc⟩ := h piece rfl
    exact noDigit_cons.2 hc

theorem writePieces_cons (piece : Piece) (pieces : List Piece) (i : Instant) :
    writePieces (piece :: pieces) i = piece.write i ++ writePieces pieces i := rfl

/-- Reading what the pieces have written adds the facts that they tell.  A
blank of the layout takes all blank space that follows, so it may be missing
in front of the next piece. -/
theorem readPieces?_writePieces (h : Apart pieces) (facts : List Fact)
    (ht : t = writePieces pieces i ∨ t = skipBlank (writePieces pieces i)) :
    readPieces? pieces (Fields.ofFacts facts i) t =
      some (Fields.ofFacts (facts ++ pieces.flatMap Piece.facts) i, []) := by
  induction pieces generalizing facts t with
  | nil =>
    obtain rfl : t = [] := ht.elim id id
    rw [List.flatMap_nil, List.append_nil]
    rfl
  | cons piece pieces ih =>
    rw [readPieces?_cons, List.flatMap_cons, ← List.append_assoc]
    cases piece with
    | token text e =>
      have hread : e.read? (Fields.ofFacts facts i) t =
          some (Fields.ofFacts (facts ++ e.facts) i, writePieces pieces i) := by
        have hwrite := e.read?_write facts i (noDigit_writePieces (i := i) h.1)
        rcases ht with rfl | rfl
        · exact hwrite
        · exact (e.read?_skipBlank _).trans hwrite
      rw [Piece.read?, hread]
      exact ih h.2 (facts ++ e.facts) (Or.inl rfl)
    | literal c =>
      have hfacts : facts ++ (Piece.literal c).facts = facts := List.append_nil facts
      rw [hfacts]
      by_cases hc : isBlank c = true
      · have hskip : skipBlank t = skipBlank (writePieces pieces i) := by
          have hcons : skipBlank (c :: writePieces pieces i) = skipBlank (writePieces pieces i) :=
            List.dropWhile_cons_of_pos hc
          rcases ht with rfl | rfl
          · exact hcons
          · exact (skipBlank_skipBlank _).trans hcons
        rw [Piece.read?, if_pos hc, hskip]
        exact ih h facts (Or.inr rfl)
      · have hcons : t = c :: writePieces pieces i :=
          ht.elim id fun ht => ht.trans (List.dropWhile_cons_of_neg hc)
        have hstrip : stripPrefix? [c] (c :: writePieces pieces i) = some (writePieces pieces i) :=
          stripPrefix?_append [c] _
        rw [Piece.read?, if_neg hc, hcons, hstrip]
        exact ih h facts (Or.inl rfl)

/-- A written date holds the facts that its pieces tell, and nothing else. -/
theorem fieldsOf?_writePieces (h : Apart pieces) (i : Instant) :
    fieldsOf? pieces (writePieces pieces i) =
      some (Fields.ofFacts (pieces.flatMap Piece.facts) i) := by
  rw [fieldsOf?, ← ofFacts_nil i, readPieces?_writePieces h [] (Or.inl rfl)]
  rfl

end TextRoadmap.Layout
