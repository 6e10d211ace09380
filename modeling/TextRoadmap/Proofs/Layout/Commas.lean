/-
TextRoadmap/Proofs/Layout/Commas.lean

How many pieces a written date falls into.

A block of a line is cut at `", "`, so a layout says by its own separators
over how many tokens a date extends.  No part of a date holds a comma, and the
commas of the layout are written as they are; a separator can therefore only
be gained, where a comma is followed by a part that begins with a blank.  The
one such part is a day of one digit behind `_2`:

    layout  Jan,_2 2006     one piece
    date    Feb, 5 2020     two pieces

A written date has one piece more for each such comma
(`length_commaSplit_writePieces`).
-/
import TextRoadmap.Proofs.Layout.Basic
import TextRoadmap.Proofs.Layout.Facts
import TextRoadmap.Proofs.Layout.Tokens

namespace TextRoadmap

open TextRoadmap.Text TextRoadmap.Calendar

namespace Layout

variable {s : List Char} {entry : Token} {pieces : List Piece}

/-! ### Days behind a comma -/

/-- A day that a blank brings to two places. -/
def blankDay : Piece := .token ['_', '2'] (.day .blank)

/-- The commas directly in front of a day that a blank brings to two places. -/
def dayCommas : List Piece → Nat
  | [] => 0
  | piece :: pieces =>
    dayCommas pieces + if piece = .literal ',' ∧ pieces.head? = some blankDay then 1 else 0

theorem dayCommas_token (text : List Char) (e : Element) (pieces : List Piece) :
    dayCommas (.token text e :: pieces) = dayCommas pieces := by
  simp [dayCommas]

theorem dayCommas_literal (c : Char) (pieces : List Piece) :
    dayCommas (.literal c :: pieces) =
      dayCommas pieces + if c = ',' ∧ pieces.head? = some blankDay then 1 else 0 := by
  simp [dayCommas]

/-- A token holds no comma and does not begin with a space. -/
theorem token_chars (h : entry ∈ tokens) : ',' ∉ entry.1.toList ∧
    ∃ c more, entry.1.toList = c :: more ∧ c ≠ ' ' := by
  have all : ∀ entry ∈ tokens, ',' ∉ entry.1.toList ∧ entry.1.toList ≠ [] ∧
      entry.1.toList.head? ≠ some ' ' := by decide
  obtain ⟨hcomma, hne, hspace⟩ := all entry h
  obtain ⟨c, more, hmore⟩ := List.exists_cons_of_ne_nil hne
  exact ⟨hcomma, c, more, hmore, fun hc => hspace (by rw [hmore, hc]; rfl)⟩

/-- Only one token pads with a blank. -/
theorem eq_blankDay_of_padsWithBlank (h : entry ∈ tokens) (hpads : entry.2.padsWithBlank = true) :
    entry = ("_2", .day .blank) := by
  have all : ∀ entry ∈ tokens, entry.2.padsWithBlank = true →
      entry = ("_2", .day .blank) := by decide
  exact all entry h hpads

theorem head?_eq_blankDay_iff (h : Spells pieces s) :
    pieces.head? = some blankDay ↔ ['_', '2'] <+: s := by
  have hday : ("_2", Element.day .blank) ∈ tokens := by decide
  have all : ∀ entry ∈ tokens, entry.1.toList <+: ['_', '2'] ∨ ['_', '2'] <+: entry.1.toList →
      entry = ("_2", .day .blank) := by decide
  cases h with
  | nil => simp
  | @token entry pieces rest hleads _ =>
    constructor
    · intro hhead
      rw [(Piece.token.inj (Option.some.inj hhead)).1]
      exact List.prefix_append ..
    · intro hprefix
      have heq := all entry hleads.mem
        (List.prefix_or_prefix_of_prefix (List.prefix_append _ rest) hprefix)
      rw [heq]
      rfl
  | literal hnone _ =>
    refine ⟨fun hhead => by simp [blankDay] at hhead, fun hprefix => ?_⟩
    obtain ⟨rest, hrest⟩ := hprefix
    exact absurd ⟨rest, hrest.symm, by simp [Element.endsWord]⟩ (hnone _ hday)

/-- A layout has such commas if `",_2"` stands in it. -/
theorem dayCommas_eq_zero_iff (h : Spells pieces s) :
    dayCommas pieces = 0 ↔ ¬ [',', '_', '2'] <:+: s := by
  induction h with
  | nil => simp [dayCommas]
  | token hleads _ ih =>
    rw [dayCommas_token, ih, cons_isInfix_append_iff (token_chars hleads.mem).1]
  | literal _ hrest ih =>
    rw [dayCommas_literal, List.infix_cons_iff, List.cons_prefix_cons, not_or, ← ih,
      ← head?_eq_blankDay_iff hrest, eq_comm (a := ',')]
    split <;> simp_all

/-! ### Pieces of a written date -/

/-- A number is filled with a blank if it has one digit. -/
theorem head?_write_blank_iff (n : Nat) (t : List Char) :
    (Fill.blank.write n ++ t).head? = some ' ' ↔ n < 10 := by
  constructor
  · intro hhead
    by_contra hn
    obtain ⟨c, more, hmore, hc⟩ := exists_decimal_eq_cons n
    have hlength : 2 ≤ (decimal n).length := by
      have := List.length_pos_iff.2 (decimal_ne_nil (n / 10))
      rw [decimal_of_ge (by omega), List.length_append, List.length_singleton]
      omega
    have hwrite : Fill.blank.write n = c :: more := by
      rw [Fill.write, padLeft, Nat.sub_eq_zero_of_le hlength, hmore]
      rfl
    rw [hwrite] at hhead
    obtain rfl : c = ' ' := by simpa using hhead
    cases hc
  · intro hn
    rw [Fill.write, padLeft, decimal_of_lt hn]
    rfl

/-- What is written begins with a space where the layout does, and where it
begins with a day of one digit that a blank brings to two places. -/
theorem head?_writePieces_iff (h : Spells pieces s) (i : Instant) :
    (writePieces pieces i).head? = some ' ' ↔
      s.head? = some ' ' ∨ i.date.day < 10 ∧ pieces.head? = some blankDay := by
  cases h with
  | nil => simp [writePieces]
  | @token entry pieces rest hleads _ =>
    obtain ⟨-, c, more, htext, hc⟩ := token_chars hleads.mem
    have hspace : (entry.1.toList ++ rest).head? ≠ some ' ' := by
      rw [htext]
      simpa using hc
    rw [writePieces_cons, or_iff_right hspace]
    cases hpads : entry.2.padsWithBlank with
    | true =>
      obtain rfl := eq_blankDay_of_padsWithBlank hleads.mem hpads
      exact (head?_write_blank_iff i.date.day _).trans (and_iff_left rfl).symm
    | false =>
      obtain ⟨d, tail, hwrite, hd⟩ := Element.exists_write_eq_cons hpads i
      have hne : d ≠ ' ' := by
        rintro rfl
        cases hd
      have hday : Piece.token entry.1.toList entry.2 ≠ blankDay := by
        intro hday
        rw [(Piece.token.inj hday).2] at hpads
        cases hpads
      rw [Piece.write, hwrite]
      simp [hne, hday]
  | literal => simp [writePieces_cons, Piece.write, blankDay]

theorem comma_not_mem_write (e : Element) (i : Instant) : ',' ∉ e.write i := fun h =>
  absurd (isDateChar_of_mem_write e h) (by decide)

/-- A written date has the pieces of its layout, and one more for each comma
in front of a day of one digit that a blank brings to two places. -/
theorem length_commaSplit_writePieces (h : Spells pieces s) (i : Instant) :
    (commaSplit (writePieces pieces i)).length =
      (commaSplit s).length + if i.date.day < 10 then dayCommas pieces else 0 := by
  induction h with
  | nil => simp [writePieces, dayCommas]
  | token hleads _ ih =>
    rw [writePieces_cons, Piece.write, length_commaSplit_append (comma_not_mem_write _ i), ih,
      length_commaSplit_append (token_chars hleads.mem).1, dayCommas_token]
  | @literal c pieces rest _ hrest ih =>
    have hsep : ∀ t : List Char, [',', ' '] <+: c :: t ↔ c = ',' ∧ t.head? = some ' ' := by
      intro t
      cases t <;> simp [eq_comm]
    have hblank : rest.head? = some ' ' → pieces.head? ≠ some blankDay := by
      rw [Ne, head?_eq_blankDay_iff hrest]
      rintro hhead ⟨more, rfl⟩
      simp at hhead
    rw [writePieces_cons, Piece.write, List.singleton_append, length_commaSplit_cons, ih,
      length_commaSplit_cons, dayCommas_literal]
    simp only [hsep, head?_writePieces_iff hrest]
    by_cases hday : i.date.day < 10
    · by_cases hhead : pieces.head? = some blankDay
      · have hspace : rest.head? ≠ some ' ' := fun h => hblank h hhead
        simp [hday, hhead, hspace, Nat.add_assoc]
      · simp [hday, hhead, Nat.add_right_comm]
    · simp [hday]

theorem length_commaSplit_format (l : Layout) (i : Instant) :
    (commaSplit (l.format i).toList).length =
      l.pieceCount + if i.date.day < 10 then dayCommas l.pieces else 0 := by
  rw [format, String.toList_ofList]
  exact length_commaSplit_writePieces (spells_piecesOf _) i

/-- The number of pieces of a layout is that of a written date, so that as
many tokens of a row that begins with the date are just the date, exactly if
the day has two digits or no comma stands directly in front of a `_2`. -/
theorem pieceCount_eq_iff (l : Layout) (i : Instant) (row : List (List Char)) :
    let date := commaSplit (l.format i).toList
    let suits := 10 ≤ i.date.day ∨ ¬ ",_2".toList <:+: l.text.toList
    (date.length = l.pieceCount ↔ suits) ∧
      ((date ++ row).take l.pieceCount = date ↔ suits) := by
  intro date suits
  have hlength : date.length = l.pieceCount + if i.date.day < 10 then dayCommas l.pieces else 0 :=
    length_commaSplit_format l i
  have hcommas : dayCommas l.pieces = 0 ↔ ¬ ",_2".toList <:+: l.text.toList :=
    dayCommas_eq_zero_iff (spells_piecesOf _)
  have hcount : date.length ≤ l.pieceCount ↔ suits := by
    simp only [suits, ← hcommas]
    split_ifs at hlength <;> omega
  have hle : l.pieceCount ≤ date.length := by omega
  refine ⟨⟨fun h => hcount.1 h.le, fun h => (hcount.2 h).antisymm hle⟩, ?_⟩
  rw [List.take_append_of_le_length hle, List.take_eq_self_iff, hcount]

/-- A blank in front of the day makes two pieces of a date whose layout has
one. -/
theorem not_pieceCount_eq_comma_day :
    let l : Layout := ⟨"Jan,_2 2006"⟩
    let i : Instant := .startOf ⟨2020, 2, 5, by decide⟩
    l.format i = "Feb, 5 2020" ∧ l.parse? (l.format i) = some i ∧ l.pieceCount = 1 ∧
      commaSplit (l.format i).toList = ["Feb".toList, "5 2020".toList] ∧
      (commaSplit (l.format i).toList).length ≠ l.pieceCount := by
  decide +kernel

end Layout

end TextRoadmap
