/-
TextRoadmap/Proofs/Layout/Basic.lean

What a layout reads against what it writes.

A date is written with letters, digits, signs, colons and blanks besides the
characters that the layout shows as themselves (`isDateChar_of_mem_write`).
Any other character, a bracket say, therefore occurs in a written date as
often as in the layout (`count_format`), and in every text that reads as a
date at least as often (`literals_le_count_of_parse?`).

The layout that is used where none is given writes year, month and day with
hyphens between them (`toList_standard_format`).
-/
import TextRoadmap.Proofs.Layout.Read

namespace TextRoadmap.Layout

open TextRoadmap.Text TextRoadmap.Calendar

variable {c x : Char} {i : Instant}

/-! ### The characters of a written date -/

/-- The characters with which the parts of a date are written. -/
def isDateChar (c : Char) : Bool :=
  c.isAlphanum || c = '+' || c = '-' || c = ':' || c = ' '

theorem isDateChar_of_isDigit (h : c.isDigit = true) : isDateChar c = true := by
  simp [isDateChar, Char.isAlphanum, h]

theorem isDateChar_of_mem_zeroPadded {width n : Nat} (h : c ∈ zeroPadded width n) :
    isDateChar c = true :=
  isDateChar_of_isDigit (isDigit_of_mem_zeroPadded h)

theorem isDateChar_of_mem_fill {fill : Fill} {n : Nat} (h : c ∈ fill.write n) :
    isDateChar c = true := by
  cases fill with
  | zero => exact isDateChar_of_mem_zeroPadded h
  | blank =>
    rcases List.mem_append.1 h with h | h
    · rw [List.eq_of_mem_replicate h]
      rfl
    · exact isDateChar_of_isDigit (isDigit_of_mem_decimal h)
  | bare => exact isDateChar_of_isDigit (isDigit_of_mem_decimal h)

theorem isDateChar_of_mem_writeYear {year : Int} (h : c ∈ writeYear year) :
    isDateChar c = true := by
  unfold writeYear at h
  split at h
  · exact isDateChar_of_mem_zeroPadded h
  · rcases List.mem_cons.1 h with rfl | h
    · split <;> rfl
    · exact isDateChar_of_mem_zeroPadded h

/-- The characters of a text that is known, checked one by one. -/
theorem isDateChar_of_all {s : List Char} (hs : s.all isDateChar = true) (h : c ∈ s) :
    isDateChar c = true :=
  List.all_eq_true.1 hs c h

theorem isDateChar_of_mem_nameAt {names : List String} {n : Nat}
    (hnames : (names.all fun name => name.toList.all isDateChar) = true)
    (h : c ∈ nameAt names n) : isDateChar c = true := by
  rw [nameAt, List.getD_eq_getElem?_getD] at h
  rcases hname : names[n]? with - | name
  · simp [hname] at h
  · rw [hname] at h
    exact isDateChar_of_all (List.all_eq_true.1 hnames name (List.mem_of_getElem? hname)) h

theorem all_isDateChar_monthNames :
    (monthNames.all fun name => name.toList.all isDateChar) = true := by
  decide

theorem all_isDateChar_weekdayNames :
    (weekdayNames.all fun name => name.toList.all isDateChar) = true := by
  decide

theorem isDateChar_of_mem_write (e : Element) (h : c ∈ e.write i) : isDateChar c = true := by
  cases e with
  | year => exact isDateChar_of_mem_writeYear h
  | shortYear => exact isDateChar_of_mem_zeroPadded h
  | month => exact isDateChar_of_mem_fill h
  | monthName => exact isDateChar_of_mem_nameAt all_isDateChar_monthNames h
  | monthAbbreviation =>
    exact isDateChar_of_mem_nameAt all_isDateChar_monthNames (List.mem_of_mem_take h)
  | weekdayName => exact isDateChar_of_mem_nameAt all_isDateChar_weekdayNames h
  | weekdayAbbreviation =>
    exact isDateChar_of_mem_nameAt all_isDateChar_weekdayNames (List.mem_of_mem_take h)
  | day => exact isDateChar_of_mem_fill h
  | hour => exact isDateChar_of_mem_zeroPadded h
  | hour12 => exact isDateChar_of_mem_fill h
  | minute => exact isDateChar_of_mem_fill h
  | second => exact isDateChar_of_mem_fill h
  | meridiem capital =>
    cases capital <;> simp only [Element.write] at h <;> split at h <;>
      exact isDateChar_of_all (by decide) h
  | offset colon =>
    cases colon <;> simp only [Element.write] at h <;> exact isDateChar_of_all (by decide) h

/-! ### Counting characters -/

theorem count_write (hx : isDateChar x = false) (piece : Piece) (i : Instant) :
    (piece.write i).count x = literals x [piece] := by
  cases piece with
  | token text e =>
    have hnot : x ∉ e.write i := fun hmem => by
      simp [isDateChar_of_mem_write e hmem] at hx
    simp [Piece.write, literals, List.count_eq_zero.2 hnot]
  | literal c => by_cases hc : c = x <;> simp [Piece.write, literals, hc]

theorem literals_append (x : Char) (pieces pieces' : List Piece) :
    literals x (pieces ++ pieces') = literals x pieces + literals x pieces' :=
  List.count_append

theorem count_writePieces (hx : isDateChar x = false) (pieces : List Piece) (i : Instant) :
    (writePieces pieces i).count x = literals x pieces := by
  induction pieces with
  | nil => rfl
  | cons piece pieces ih =>
    have hcons : writePieces (piece :: pieces) i = piece.write i ++ writePieces pieces i := rfl
    rw [hcons, List.count_append, count_write hx, ih, ← literals_append]
    rfl

/-- A character that no part of a date has is written as often as the layout
shows it. -/
theorem count_format (hx : isDateChar x = false) (l : Layout) (i : Instant) :
    (l.format i).toList.count x = literals x l.pieces := by
  rw [format, String.toList_ofList, count_writePieces hx]

theorem count_le_of_fieldsOf? (hx : isBlank x = false) {pieces : List Piece} {s : List Char}
    {f : Fields} (h : fieldsOf? pieces s = some f) : literals x pieces ≤ s.count x := by
  unfold fieldsOf? at h
  split at h
  · rename_i g hread
    have := count_le_of_readPieces? hx hread
    omega
  · simp at h

/-- What is supplied to a date are blanks and digits. -/
theorem count_supplementText (hblank : isBlank x = false) (hdigit : x.isDigit = false)
    (l : Layout) : l.supplementText.count x = 0 := by
  have hmem : ∀ c ∈ l.supplementText, isBlank c = true ∨ c.isDigit = true := by
    intro c hc
    have hpieces : ∀ piece ∈ l.supplement,
        (piece.text.all fun c => isBlank c || c.isDigit) = true := by
      intro piece hpiece
      simp only [supplement, suppliedPieces] at hpiece
      rcases List.mem_append.1 hpiece with h | h <;> split at h <;>
        simp only [List.not_mem_nil, List.mem_cons, or_false] at h <;>
        rcases h with rfl | rfl <;> decide
    obtain ⟨piece, hpiece, hc⟩ := List.mem_flatMap.1 hc
    exact Bool.or_eq_true_iff.1 (List.all_eq_true.1 (hpieces piece hpiece) c hc)
  refine List.count_eq_zero.2 fun hx => ?_
  rcases hmem x hx with h | h
  · simp [h] at hblank
  · simp [h] at hdigit

/-- A date holds the characters that the layout shows as themselves. -/
theorem literals_le_count_of_parse? (hblank : isBlank x = false) (hdigit : x.isDigit = false)
    {l : Layout} {s : String} (h : l.parse? s = some i) :
    literals x l.pieces ≤ s.toList.count x := by
  unfold parse? at h
  split at h
  · simp at h
  · have hsupplied : ∀ f, fieldsOf? (l.pieces ++ l.supplement) (s.toList ++ l.supplementText) =
        some f → literals x l.pieces ≤ s.toList.count x := by
      intro f hf
      have hle := count_le_of_fieldsOf? hblank hf
      rw [literals_append, List.count_append, count_supplementText hblank hdigit] at hle
      omega
    rcases hgiven : fieldsOf? l.pieces s.toList with - | f
    · rw [hgiven] at h
      obtain ⟨f, hf, -⟩ := Option.bind_eq_some_iff.1 h
      exact hsupplied f hf
    · exact count_le_of_fieldsOf? hblank hgiven

/-- A character that the text of a date does not hold is in no written date. -/
theorem not_mem_format_of_parse? (hblank : isBlank x = false) (hdate : isDateChar x = false)
    {l : Layout} {s : String} (h : l.parse? s = some i) (hmem : x ∉ s.toList) (j : Instant) :
    x ∉ (l.format j).toList := by
  have hdigit : x.isDigit = false := by
    by_contra hx
    rw [isDateChar_of_isDigit (by simpa using hx)] at hdate
    cases hdate
  have hle := literals_le_count_of_parse? hblank hdigit h
  rw [List.count_eq_zero.2 hmem, Nat.le_zero] at hle
  rw [← List.count_eq_zero, count_format hdate, hle]

/-! ### The layout used where none is given -/

theorem standard_pieces : standard.pieces =
    [.token ['2', '0', '0', '6'] .year, .literal '-', .token ['0', '1'] (.month .zero),
      .literal '-', .token ['0', '2'] (.day .zero)] := by
  decide

theorem standard_pieceCount : standard.pieceCount = 1 := by decide

theorem toList_standard_format (i : Instant) :
    (standard.format i).toList = writeYear i.date.year ++ '-' :: (zeroPadded 2 i.date.month ++
      '-' :: zeroPadded 2 i.date.day) := by
  rw [format, String.toList_ofList, standard_pieces]
  simp [writePieces, Piece.write, Element.write, Fill.write]

/-- A text without a hyphen is no date. -/
theorem standard_parse?_eq_none {s : List Char} (h : '-' ∉ s) :
    standard.parse? (String.ofList s) = none := by
  rcases hparse : standard.parse? (String.ofList s) with - | i
  · rfl
  · have hle := literals_le_count_of_parse? (by decide) (by decide) hparse (x := '-')
    rw [String.toList_ofList, List.count_eq_zero.2 h, standard_pieces] at hle
    exact absurd hle (by decide)

end TextRoadmap.Layout
