/-
TextRoadmap/Proofs/Json/Read.lean

Readers that read back what was written.

A reader reads a value as `a` if it does so wherever the value stands in a
text: in either style, at any depth, behind any blanks, and in front of
whatever can follow a value (`Reads`).  Strings and bytes are read in this
sense, and it passes from the items of an array to the array (`reads_array`).

The entries of an array or object are read one after the other, and only the
first has no comma in front.  `listed` is their text from the first or from a
later entry on, so that one induction over the entries does for both.
-/
import Mathlib.Order.Basic
import TextRoadmap.Proofs.Json.Scan

namespace TextRoadmap.Json

open TextRoadmap.Text

variable {α β σ : Type} {read : Reader α} {json : Json} {a : α}
variable {c : Char} {blanks rest text : List Char} {style : Style} {depth : Nat}

/-! ### Where a value stands -/

/-- What can follow a value. -/
def Stops (rest : List Char) : Prop :=
  ∀ c ∈ rest.head?, c = ',' ∨ c = '\n' ∨ c = ']' ∨ c = '\x7d'

theorem Stops.endsNumber (h : Stops rest) : EndsNumber rest := by
  intro c hc
  rcases h c hc with rfl | rfl | rfl | rfl <;> decide

theorem stops_nil : Stops [] := by rintro c ⟨⟩

/-- The first character of a value that is neither a word nor negative. -/
def isStart (c : Char) : Bool := c = '"' || c = '[' || c = '\x7b' || c.isDigit

theorem isStart_of_isDigit (h : c.isDigit = true) : isStart c = true := by
  simp [isStart, h]

theorem isStart_cases (h : isStart c = true) :
    isSpace c = false ∧ c ≠ ',' ∧ c ≠ ']' ∧ c ≠ 'n' := by
  refine ⟨?_, ?_, ?_, ?_⟩
  · by_contra hspace
    simp only [isSpace, Bool.not_eq_false, Bool.or_eq_true, decide_eq_true_eq] at hspace
    rcases hspace with ((rfl | rfl) | rfl) | rfl <;> exact absurd h (by decide)
  all_goals
    rintro rfl
    exact absurd h (by decide)

/-- All characters are blanks. -/
def IsBlanks (blanks : List Char) : Prop := ∀ c ∈ blanks, isSpace c = true

theorem isBlanks_nil : IsBlanks [] := by rintro c ⟨⟩

theorem skipSpace_append (h : IsBlanks blanks) (rest : List Char) :
    skipSpace (blanks ++ rest) = skipSpace rest := by
  rw [skipSpace, skipSpace, List.dropWhile_append_of_pos h]

theorem skipSpace_cons (h : isSpace c = false) (rest : List Char) :
    skipSpace (c :: rest) = c :: rest := by
  rw [skipSpace, List.dropWhile_cons_of_neg (by simp [h])]

/-- The reader reads the value as `a`, wherever it stands. -/
structure Reads (read : Reader α) (json : Json) (a : α) : Prop where
  start : ∀ style depth, ∃ c text, json.writeAt style depth = c :: text ∧ isStart c = true
  read : ∀ style depth blanks rest, IsBlanks blanks → Stops rest →
    read (blanks ++ (json.writeAt style depth ++ rest)) = .ok (a, rest)

/-! ### Single values -/

theorem reads_string (s : String) : Reads readString (.string s) s where
  start _ _ := ⟨'"', _, rfl, by decide⟩
  read style depth blanks rest hblanks _ := by
    have htext : (Json.string s).writeAt style depth ++ rest =
        '"' :: (s.toList.flatMap escape ++ '"' :: rest) := by
      simp [writeAt, quote]
    rw [readString, skipSpace_append hblanks, htext, skipSpace_cons (by decide)]
    show (readChars true _).map _ = _
    rw [readChars_escape]
    show Except.ok (String.ofList s.toList, rest) = _
    rw [String.ofList_toList]

theorem Reads.named {ofString : String → Except Mismatch α} {s : String}
    (h : ofString s = .ok a) : Reads (readNamed ofString) (.string s) a where
  start := (reads_string s).start
  read style depth blanks rest hblanks hrest := by
    rw [readNamed, (reads_string s).read style depth blanks rest hblanks hrest]
    simp only [bind, Except.bind]
    rw [h]

theorem reads_byte (n : UInt8) : Reads readByte (.number n.toNat) n where
  start _ _ := by
    obtain ⟨c, run, hrun, hc⟩ := exists_decimal_eq_cons n.toNat
    exact ⟨c, run, hrun, isStart_of_isDigit hc⟩
  read style depth blanks rest hblanks hrest := by
    have hn : n.toNat < 256 := n.toNat_lt
    have hbound : n.toNat < overflowBound :=
      Nat.lt_trans hn (show 256 < overflowBound by decide +kernel)
    have hread := readNumber_decimal hbound hrest.endsNumber
    have hbyte : byteOf? ⟨false, decimal n.toNat, none, none⟩ = some n := by
      simp [byteOf?, Numeral.isInteger, digitsValue_decimal, hn]
    obtain ⟨c, run, hrun, hc⟩ := exists_decimal_eq_cons n.toNat
    have hminus : c ≠ '-' := by
      rintro rfl
      exact absurd hc (by decide)
    have hspace := (isStart_cases (isStart_of_isDigit hc)).1
    -- the first digit decides that a number follows
    show readByte (blanks ++ (decimal n.toNat ++ rest)) = _
    rw [hrun] at hread ⊢
    rw [readByte, skipSpace_append hblanks, List.cons_append, skipSpace_cons hspace]
    show (if (c = '-' || c.isDigit) = true then _ else _) = _
    rw [if_pos (by simp [hc])]
    simp only [if_neg hminus]
    rw [← List.cons_append, hread]
    simp only [bind, Except.bind]
    rw [← hrun, hbyte]

/-- A value that is there is not taken for `null`. -/
theorem Reads.option (h : Reads read json a) : Reads (readOption read) json (some a) where
  start := h.start
  read style depth blanks rest hblanks hrest := by
    obtain ⟨c, text, htext, hc⟩ := h.start style depth
    obtain ⟨hspace, -, -, hnull⟩ := isStart_cases hc
    have hread := h.read style depth [] rest isBlanks_nil hrest
    rw [List.nil_append, htext, List.cons_append] at hread
    rw [readOption, skipSpace_append hblanks, htext, List.cons_append, skipSpace_cons hspace]
    split
    · rename_i heq
      exact absurd (List.cons.inj heq).1 hnull
    · rw [hread]
      rfl

/-! ### Entries in brackets -/

theorem isBlanks_newline (style : Style) (depth : Nat) : IsBlanks (style.newline depth) := by
  intro c hc
  cases style with
  | compact => cases hc
  | indented =>
    rcases List.mem_cons.1 hc with rfl | hc
    · rfl
    · rw [List.eq_of_mem_replicate hc]
      rfl

/-- The text of entries, from the first or a later one on, up to what follows
them. -/
def listed (newline : List Char) : (first : Bool) → List (List Char) → List Char → List Char
  | _, [], rest => rest
  | first, entry :: entries, rest =>
    (if first then [] else [',']) ++ (newline ++ (entry ++ listed newline false entries rest))

theorem intercalate_listed (newline : List Char) (entries : List (List Char)) (rest : List Char) :
    [','].intercalate (entries.map fun entry => newline ++ entry) ++ rest =
      listed newline true entries rest := by
  induction entries with
  | nil => rfl
  | cons entry entries ih =>
    cases entries with
    | nil => simp [listed, List.intercalate]
    | cons next entries =>
      simp only [List.map_cons, List.intercalate, List.intersperse_cons_cons, List.flatten_cons,
        List.append_assoc, listed] at ih ⊢
      rw [ih]
      rfl

/-- Every entry takes a character. -/
theorem length_le_listed (newline : List Char) (first : Bool) {entries : List (List Char)}
    (h : ∀ entry ∈ entries, entry ≠ []) (rest : List Char) :
    entries.length ≤ (listed newline first entries rest).length := by
  induction entries generalizing first with
  | nil => exact Nat.zero_le _
  | cons entry entries ih =>
    have ih := ih false fun other hother => h other (List.mem_cons_of_mem _ hother)
    have hentry := List.length_pos_iff.2 (h entry (List.mem_cons_self ..))
    simp only [listed, List.length_cons, List.length_append]
    omega

theorem stops_listed {newline : List Char} {entries : List (List Char)} (h : Stops rest) :
    Stops (listed newline false entries rest) := by
  cases entries with
  | nil => exact h
  | cons entry entries =>
    rintro c ⟨⟩
    exact Or.inl rfl

/-- What closes an array or an object can follow its last entry. -/
theorem stops_close {last : Char} (hlast : last = ']' ∨ last = '\x7d') (style : Style)
    (depth : Nat) (rest : List Char) : Stops (style.newline depth ++ last :: rest) := by
  cases style with
  | compact =>
    rintro c ⟨⟩
    exact Or.inr (Or.inr hlast)
  | indented =>
    rintro c ⟨⟩
    exact Or.inr (Or.inl rfl)

/-- Brackets with entries between them.  Without entries there is no blank
either. -/
theorem enclose_append {last : Char} (hlast : last = ']' ∨ last = '\x7d') (style : Style)
    (depth : Nat) (first : Char) (entries : List (List Char)) (rest : List Char) :
    ∃ blanks, IsBlanks blanks ∧ Stops (blanks ++ last :: rest) ∧
      style.enclose depth first last entries ++ rest =
        first :: listed (style.newline (depth + 1)) true entries (blanks ++ last :: rest) := by
  cases entries with
  | nil => exact ⟨[], isBlanks_nil, stops_close hlast .compact depth rest, rfl⟩
  | cons entry entries =>
    refine ⟨style.newline depth, isBlanks_newline style depth, stops_close hlast style depth rest,
      ?_⟩
    rw [← intercalate_listed]
    simp [Style.enclose]

theorem expect_append {mark : Char} (hblanks : IsBlanks blanks) (hmark : isSpace mark = false)
    (rest : List Char) : expect mark (blanks ++ mark :: rest) = .ok rest := by
  rw [expect, skipSpace_append hblanks, skipSpace_cons hmark]
  show (if mark = mark then _ else _) = _
  rw [if_pos rfl]

/-! ### Arrays -/

theorem nextItem?_close (first : Bool) (hblanks : IsBlanks blanks) (rest : List Char) :
    nextItem? first (blanks ++ ']' :: rest) = .ok none := by
  rw [nextItem?, skipSpace_append hblanks, skipSpace_cons (by decide)]
  rfl

/-- A comma comes before every item but the first. -/
theorem nextItem?_item (first : Bool) (hblanks : IsBlanks blanks) (hc : isStart c = true)
    (rest : List Char) :
    nextItem? first ((if first then [] else [',']) ++ (blanks ++ c :: rest)) =
      .ok (some (c :: rest)) := by
  obtain ⟨hspace, hcomma, hbracket, -⟩ := isStart_cases hc
  have hskip : skipSpace (blanks ++ c :: rest) = c :: rest := by
    rw [skipSpace_append hblanks, skipSpace_cons hspace]
  cases first with
  | true =>
    show nextItem? true (blanks ++ c :: rest) = _
    rw [nextItem?, hskip]
    split
    · rename_i heq
      cases heq
    · rename_i heq
      exact absurd (List.cons.inj heq).1 hbracket
    · rename_i heq
      exact absurd (List.cons.inj heq).1 hcomma
    · rfl
  | false =>
    show nextItem? false (',' :: (blanks ++ c :: rest)) = _
    rw [nextItem?, skipSpace_cons (by decide)]
    simp only [Bool.false_eq_true, if_false, hskip]
    split
    · rename_i heq
      cases heq
    · rename_i heq
      exact absurd (List.cons.inj heq).1 hbracket
    · rfl

variable {value : α → Json} {items : List α}

theorem writeItems_map (style : Style) (depth : Nat) (value : α → Json) (items : List α) :
    writeItems style depth (items.map value) =
      items.map fun item => (value item).writeAt style depth := by
  induction items with
  | nil => rfl
  | cons item items ih => rw [List.map_cons, writeItems, ih, List.map_cons]

/-- Items are read one after the other, up to the bracket that closes them. -/
theorem readItems_listed (h : ∀ item ∈ items, Reads read (value item) item) (style : Style)
    (depth : Nat) (first : Bool) {fuel : Nat} (hfuel : items.length < fuel)
    (hblanks : IsBlanks blanks) (hstops : Stops (blanks ++ ']' :: rest)) :
    readItems read fuel first (listed (style.newline depth) first
      (items.map fun item => (value item).writeAt style depth) (blanks ++ ']' :: rest)) =
      .ok (items, blanks ++ ']' :: rest) := by
  induction items generalizing fuel first with
  | nil =>
    obtain ⟨fuel, rfl⟩ := Nat.exists_eq_add_of_lt hfuel
    rw [List.map_nil, listed, readItems, nextItem?_close first hblanks]
    rfl
  | cons item items ih =>
    obtain ⟨fuel, rfl⟩ : ∃ n, fuel = n + 1 := Nat.exists_eq_succ_of_ne_zero (by omega)
    have hitem := h item (List.mem_cons_self ..)
    have ih := ih (fun other hother => h other (List.mem_cons_of_mem _ hother)) false
      (Nat.lt_of_succ_lt_succ hfuel)
    obtain ⟨c, text, htext, hc⟩ := hitem.start style depth
    -- blanks are skipped before the item, which is read from its first character on
    have hread := hitem.read style depth []
      (listed (style.newline depth) false (items.map fun item => (value item).writeAt style depth)
        (blanks ++ ']' :: rest)) isBlanks_nil (stops_listed hstops)
    rw [List.nil_append, htext, List.cons_append] at hread
    rw [List.map_cons, listed, htext, List.cons_append, readItems,
      nextItem?_item first (isBlanks_newline style depth) hc]
    show (read (c :: (text ++ _))).bind _ = _
    rw [hread]
    show (readItems read fuel false _).bind _ = _
    rw [ih]
    rfl

/-- An array is read if its items are. -/
theorem reads_array (h : ∀ item ∈ items, Reads read (value item) item) :
    Reads (readArray read) (.array (items.map value)) items where
  start style depth := by
    obtain ⟨blanks, -, -, htext⟩ := enclose_append (Or.inl rfl) style depth '['
      (writeItems style (depth + 1) (items.map value)) []
    rw [List.append_nil] at htext
    rw [writeAt, htext]
    exact ⟨'[', _, rfl, by decide⟩
  read style depth blanks rest hblanks hrest := by
    obtain ⟨blanks', hblanks', hstops, htext⟩ := enclose_append (Or.inl rfl) style depth '['
      (writeItems style (depth + 1) (items.map value)) rest
    rw [writeItems_map] at htext
    have hentries : ∀ entry ∈ items.map (fun item => (value item).writeAt style (depth + 1)),
        entry ≠ [] := by
      intro entry hentry
      obtain ⟨item, hitem, rfl⟩ := List.mem_map.1 hentry
      obtain ⟨c, text, htext, -⟩ := (h item hitem).start style (depth + 1)
      rw [htext]
      exact List.cons_ne_nil _ _
    -- so the length of the text bounds the number of items
    have hfuel := length_le_listed (style.newline (depth + 1)) true hentries
      (blanks' ++ ']' :: rest)
    rw [List.length_map] at hfuel
    have hread := readItems_listed h style (depth + 1) true (Nat.lt_succ_of_le hfuel) hblanks'
      hstops
    rw [writeAt, writeItems_map, htext, readArray, skipSpace_append hblanks,
      skipSpace_cons (by decide)]
    show (if '[' = '[' then (readItems read _ true _).bind _ else _) = _
    rw [if_pos rfl, hread]
    show (closeArray _).bind _ = _
    rw [closeArray, expect_append hblanks' (by decide)]
    rfl

end TextRoadmap.Json
