/-
TextRoadmap/Proofs/Toml/Strings.lean

Strings of a TOML document read back.

Every string is read from the value that is written for it, in whichever of
the four ways that is (`readString?_quote`).  In a string between three quotes
a run of one or two quotes is part of the string, and it is not yet known
which of the two while the run is read: the inductions for these strings are
over the text that is left, behind a run of at most two quotes that waits.
-/
import Mathlib.Tactic.SplitIfs
import TextRoadmap.Toml.Scan
import TextRoadmap.Toml.Write

namespace TextRoadmap.Toml

open TextRoadmap.Text

variable {c mark : Char} {letters s rest chars after : List Char} {long escapes : Bool}

/-! ### Characters -/

theorem isPlain_of_needsEscape (h : needsEscape c = false) (hline : c ≠ '\n') :
    isPlain c = true := by
  simp only [needsEscape, Bool.or_eq_false_iff, Bool.and_eq_false_iff, decide_eq_false_iff_not,
    isPlain, Bool.or_eq_true, Bool.and_eq_true, decide_eq_true_eq] at h ⊢
  by_cases htab : c = '\t'
  · exact .inl htab
  · refine .inr ⟨?_, h.2⟩
    rcases h.1 with (hlow | hnot) | hnot
    · omega
    · exact absurd htab hnot
    · exact absurd hline hnot

theorem ne_return_of_needsEscape (h : needsEscape c = false) : c ≠ '\r' := by
  rintro rfl
  exact absurd h (by decide)

/-! ### Escapes -/

/-- After a backslash the letters stand for the character, and do not begin
with a line end. -/
structure IsEscape (c : Char) (letters : List Char) : Prop where
  readEscape?_eq : ∀ rest, readEscape? (letters ++ rest) = some (c, letters.length)
  continuation?_eq : ∀ rest, continuation? (letters ++ rest) = none

theorem continuation?_cons (hgap : isGap c = false) (hline : c ≠ '\n') (hreturn : c ≠ '\r')
    (rest : List Char) : continuation? (c :: rest) = none := by
  have hskip : skipGap (c :: rest) = c :: rest :=
    List.dropWhile_cons_of_neg (by simp [hgap])
  rw [continuation?, hskip]
  unfold dropNewline?
  split
  · simp_all
  · simp_all
  · rfl

/-- The escapes of one letter. -/
theorem isEscape_short {letter : Char} (h : (letter, c) ∈ shortEscapes) :
    IsEscape c [letter] := by
  have all : ∀ e ∈ shortEscapes, shortEscapes.lookup e.1 = some e.2 ∧ e.1 ≠ 'u' ∧ e.1 ≠ 'U' ∧
      isGap e.1 = false ∧ e.1 ≠ '\n' ∧ e.1 ≠ '\r' := by decide
  obtain ⟨hlookup, hfour, height, hgap, hline, hreturn⟩ := all _ h
  refine ⟨fun rest => ?_, continuation?_cons hgap hline hreturn⟩
  rw [List.singleton_append, readEscape?, if_neg hfour, if_neg height, hlookup]
  rfl

/-- The escapes by number, which are written for control characters. -/
theorem isEscape_numbered (h : needsEscape c = true) :
    IsEscape c ('u' :: '0' :: '0' :: (hexByte c.toNat).map Char.toUpper) := by
  -- only characters below 0x80 are written by number
  have all : ∀ n < 0x80, numberedChar? ('0' :: '0' :: (hexByte n).map Char.toUpper) =
      some (Char.ofNat n) := by decide
  have hlt : c.toNat < 0x80 := by
    simp only [needsEscape, Bool.or_eq_true, Bool.and_eq_true, decide_eq_true_eq] at h
    omega
  refine ⟨fun rest => ?_, fun rest => continuation?_cons (by decide) (by decide) (by decide) _⟩
  have hnumber := all c.toNat hlt
  rw [Char.ofNat_toNat] at hnumber
  rw [List.cons_append, readEscape?, if_pos rfl, if_neg (by simp [hexByte])]
  show (numberedChar? ('0' :: '0' :: (hexByte c.toNat).map Char.toUpper)).map _ = _
  rw [hnumber]
  rfl

theorem isEscape_quote : IsEscape '"' ['"'] := isEscape_short (by decide)

/-- A character other than the double quote is written by itself or as an
escape. -/
theorem escape_cases (long : Bool) (c : Char) :
    (∃ letters, escape long c = '\\' :: letters ∧ IsEscape c letters) ∨
    escape long c = [c] ∧ c ≠ '\\' ∧ c ≠ '\r' ∧ (c = '\n' → long = true) ∧
      (c ≠ '\n' → isPlain c = true) := by
  unfold escape
  split_ifs with h₁ h₂ h₃ h₄ h₅ h₆ h₇ h₈
  · exact .inl ⟨['\\'], rfl, isEscape_short (by simp [h₁, shortEscapes])⟩
  · exact .inl ⟨['t'], rfl, isEscape_short (by simp [h₂, shortEscapes])⟩
  · subst h₃
    exact .inr ⟨rfl, by decide, by decide, fun _ => h₄, fun h => absurd rfl h⟩
  · exact .inl ⟨['n'], rfl, isEscape_short (by simp [h₃, shortEscapes])⟩
  · exact .inl ⟨['b'], rfl, isEscape_short (by simp [h₅, shortEscapes])⟩
  · exact .inl ⟨['f'], rfl, isEscape_short (by simp [h₆, shortEscapes])⟩
  · exact .inl ⟨['r'], rfl, isEscape_short (by simp [h₇, shortEscapes])⟩
  · exact .inl ⟨_, rfl, isEscape_numbered h₈⟩
  · exact .inr ⟨rfl, h₁, h₇, fun h => absurd h h₃,
      isPlain_of_needsEscape (Bool.not_eq_true _ ▸ h₈)⟩

/-! ### Double quotes -/

theorem readBasicFrom_skip (skipped rest : List Char) :
    readBasicFrom skipped.length (skipped ++ rest) = readBasicFrom 0 rest := by
  induction skipped with
  | nil => rfl
  | cons c skipped ih => exact ih

theorem readBasicFrom_isEscape (hescape : IsEscape c letters)
    (h : readBasicFrom 0 rest = some (chars, after)) :
    readBasicFrom 0 ('\\' :: (letters ++ rest)) = some (c :: chars, after) := by
  rw [readBasicFrom, if_neg (by decide), if_pos rfl, hescape.readEscape?_eq]
  show (readBasicFrom letters.length (letters ++ rest)).bind _ = _
  rw [readBasicFrom_skip, h]
  rfl

theorem readBasicFrom_escape (hquote : c ≠ '"')
    (h : readBasicFrom 0 rest = some (chars, after)) :
    readBasicFrom 0 (escape false c ++ rest) = some (c :: chars, after) := by
  rcases escape_cases false c with ⟨letters, heq, hescape⟩ | ⟨heq, hbackslash, -, hline, hplain⟩
  · rw [heq]
    exact readBasicFrom_isEscape hescape h
  · have hplain := hplain fun hc => absurd (hline hc) (by decide)
    rw [heq, List.singleton_append, readBasicFrom, if_neg hquote, if_neg hbackslash,
      if_pos hplain, h]
    rfl

theorem readBasicFrom_escapeAll (quotes : Nat) (s rest : List Char) :
    readBasicFrom 0 (escapeAll false quotes s ++ '"' :: rest) = some (s, rest) := by
  induction s generalizing quotes with
  | nil =>
    show readBasicFrom 0 ('"' :: rest) = _
    rw [readBasicFrom, if_pos rfl]
  | cons c s ih =>
    rw [escapeAll]
    split_ifs with hquote hlong
    · cases hlong.1
    · rw [hquote]
      have hread := readBasicFrom_isEscape isEscape_quote (ih 0)
      exact hread
    · rw [List.append_assoc]
      exact readBasicFrom_escape hquote (ih 0)

/-- What is written for the first character of a string begins with a
backslash, a quote of several lines, or that character. -/
theorem of_mem_head?_escapeAll {quotes : Nat} (h : c ∈ (escapeAll long quotes s).head?) :
    c = '\\' ∨ c = '"' ∧ long = true ∨ c ∈ s ∧ c ≠ '"' ∧ c ≠ '\r' := by
  rcases s with - | ⟨first, s⟩
  · cases h
  · rw [escapeAll] at h
    split_ifs at h with hquote hlong
    · cases h
      exact .inr (.inl ⟨rfl, hlong.1⟩)
    · cases h
      exact .inl rfl
    · rcases escape_cases long first with ⟨letters, heq, -⟩ | ⟨heq, -, hreturn, -⟩
      · rw [heq] at h
        cases h
        exact .inl rfl
      · rw [heq] at h
        cases h
        exact .inr (.inr ⟨List.mem_cons_self .., hquote, hreturn⟩)

/-! ### Three quotes -/

theorem readLongFrom_skip (skipped rest : List Char) :
    readLongFrom mark escapes skipped.length (skipped ++ rest) =
      readLongFrom mark escapes 0 rest := by
  induction skipped with
  | nil => rfl
  | cons c skipped ih => exact ih

theorem quoteRun_replicate (hrest : rest.head? ≠ some mark) (count : Nat) :
    quoteRun mark (List.replicate count mark ++ rest) = count := by
  have hnone : rest.takeWhile (· = mark) = [] := by
    rcases rest with - | ⟨c, rest⟩
    · rfl
    · exact List.takeWhile_cons_of_neg (by simpa using hrest)
  rw [quoteRun, List.takeWhile_append_of_pos (by simp), hnone]
  simp

/-- One or two quotes are part of the string. -/
theorem readLongFrom_run {count : Nat} (hcount : count ≤ 2) (hrest : rest.head? ≠ some mark)
    (h : readLongFrom mark escapes 0 rest = some (chars, after)) :
    readLongFrom mark escapes 0 (List.replicate count mark ++ rest) =
      some (List.replicate count mark ++ chars, after) := by
  rcases count with - | count
  · exact h
  · have hrun := quoteRun_replicate hrest (count + 1)
    rw [List.replicate_succ, List.cons_append] at hrun ⊢
    rw [readLongFrom, if_pos rfl]
    simp only [hrun]
    have hskip : readLongFrom mark escapes (List.replicate count mark).length
        (List.replicate count mark ++ rest) = some (chars, after) :=
      (readLongFrom_skip _ rest).trans h
    rw [List.length_replicate] at hskip
    rw [if_pos (by omega), Nat.add_sub_cancel, hskip]
    rfl

/-- Three quotes end the string, also behind one or two that belong to it. -/
theorem readLongFrom_close {count : Nat} (hcount : count ≤ 2) (hrest : rest.head? ≠ some mark) :
    readLongFrom mark escapes 0 (List.replicate count mark ++ (mark :: mark :: mark :: rest)) =
      some (List.replicate count mark, rest) := by
  have heq : List.replicate count mark ++ (mark :: mark :: mark :: rest) =
      mark :: (List.replicate (count + 2) mark ++ rest) := by
    rw [← List.cons_append, ← List.replicate_succ, List.replicate_succ', List.replicate_succ',
      List.replicate_succ']
    simp
  -- the quotes that wait and those that end the string are one run
  have hrun := quoteRun_replicate hrest (count + 3)
  rw [List.replicate_succ, List.cons_append] at hrun
  rw [heq, readLongFrom, if_pos rfl]
  simp only [hrun]
  rw [if_neg (by omega), if_pos (by omega), Nat.add_sub_cancel,
    List.drop_append_of_le_length (by simp), List.drop_of_length_le (by simp), List.nil_append]

theorem readLongFrom_isEscape (hescape : IsEscape c letters)
    (h : readLongFrom '"' true 0 rest = some (chars, after)) :
    readLongFrom '"' true 0 ('\\' :: (letters ++ rest)) = some (c :: chars, after) := by
  rw [readLongFrom, if_neg (by decide), if_pos (by decide), hescape.continuation?_eq,
    hescape.readEscape?_eq]
  show (readLongFrom '"' true letters.length (letters ++ rest)).bind _ = _
  rw [readLongFrom_skip, h]
  rfl

theorem readLongFrom_self (hmark : c ≠ mark) (hbackslash : (escapes && c = '\\') = false)
    (hreturn : c ≠ '\r') (hplain : c ≠ '\n' → isPlain c = true)
    (h : readLongFrom mark escapes 0 rest = some (chars, after)) :
    readLongFrom mark escapes 0 (c :: rest) = some (c :: chars, after) := by
  have hallowed : (isPlain c || c = '\n') = true := by
    by_cases hline : c = '\n'
    · simp [hline]
    · simp [hplain hline]
  rw [readLongFrom, if_neg hmark, if_neg (by simp [hbackslash]), if_neg hreturn, if_pos hallowed,
    h]
  rfl

theorem readLongFrom_escape (hquote : c ≠ '"')
    (h : readLongFrom '"' true 0 rest = some (chars, after)) :
    readLongFrom '"' true 0 (escape true c ++ rest) = some (c :: chars, after) := by
  rcases escape_cases true c with
    ⟨letters, heq, hescape⟩ | ⟨heq, hbackslash, hreturn, -, hplain⟩
  · rw [heq]
    exact readLongFrom_isEscape hescape h
  · rw [heq]
    exact readLongFrom_self hquote (by simp [hbackslash]) hreturn hplain h

theorem readLongFrom_escapeAll (hrest : rest.head? ≠ some '"') (s : List Char) {quotes : Nat}
    (hquotes : quotes ≤ 2) :
    readLongFrom '"' true 0
        (List.replicate quotes '"' ++ (escapeAll true quotes s ++ '"' :: '"' :: '"' :: rest)) =
      some (List.replicate quotes '"' ++ s, rest) := by
  induction s generalizing quotes with
  | nil => simpa [escapeAll] using readLongFrom_close hquotes hrest
  | cons c s ih =>
    have hnext := ih (Nat.zero_le 2)
    rw [List.replicate_zero, List.nil_append, List.nil_append] at hnext
    rw [escapeAll]
    split_ifs with hquote hlong
    · -- one more quote waits
      subst hquote
      have hmore := ih (show quotes + 1 ≤ 2 by omega)
      rw [List.replicate_succ', List.append_assoc, List.append_assoc] at hmore
      exact hmore
    · -- a third quote is escaped, so the ones that wait are no end of the string
      subst hquote
      have hread := readLongFrom_isEscape isEscape_quote hnext
      exact readLongFrom_run hquotes (by simp) hread
    · rw [List.append_assoc]
      refine readLongFrom_run hquotes ?_ (readLongFrom_escape hquote hnext)
      rcases escape_cases true c with ⟨letters, heq, -⟩ | ⟨heq, -⟩ <;> simp [heq, hquote]

theorem readLongFrom_literal (hrest : rest.head? ≠ some '\'') {quotes : Nat}
    (hs : ∀ c ∈ s, needsEscape c = false) (hrun : longestRun '\'' quotes s ≤ 2) :
    readLongFrom '\'' false 0
        (List.replicate quotes '\'' ++ (s ++ '\'' :: '\'' :: '\'' :: rest)) =
      some (List.replicate quotes '\'' ++ s, rest) := by
  induction s generalizing quotes with
  | nil => simpa using readLongFrom_close (show quotes ≤ 2 from hrun) hrest
  | cons c s ih =>
    obtain ⟨hc, hs⟩ := List.forall_mem_cons.1 hs
    rw [longestRun] at hrun
    split_ifs at hrun with hquote
    · -- one more quote waits
      have hmore := ih hs hrun
      subst hquote
      rw [List.replicate_succ', List.append_assoc, List.append_assoc] at hmore
      exact hmore
    · have hnext := ih hs (Nat.le_trans (Nat.le_max_right quotes _) hrun)
      exact readLongFrom_run (by omega) (by simpa using hquote)
        (readLongFrom_self hquote rfl (ne_return_of_needsEscape hc) (isPlain_of_needsEscape hc)
          hnext)

/-- The line end with which a string of several lines begins is no part of
it. -/
theorem readLong_opening {body : List Char} (hmark : mark ≠ '\n' ∧ mark ≠ '\r')
    (h : '\n' ∉ s → ∀ c ∈ body.head?, c ≠ '\n' ∧ c ≠ '\r') :
    readLong mark escapes (opening s ++ (body ++ mark :: rest)) =
      readLongFrom mark escapes 0 (body ++ mark :: rest) := by
  rw [readLong, opening]
  split_ifs with hline
  · rfl
  · have hfirst : ∀ c ∈ (body ++ mark :: rest).head?, c ≠ '\n' ∧ c ≠ '\r' := by
      rcases body with - | ⟨c, body⟩
      · simpa using hmark
      · exact h (by simpa using hline)
    have hnone : dropNewline? (body ++ mark :: rest) = none := by
      unfold dropNewline?
      split <;> simp_all
    rw [List.nil_append, hnone]
    rfl

/-! ### Values -/

/-- A way of writing that knows no escapes is only taken where it needs
none. -/
theorem fits_of_eq {q : Quoting} (h : Quoting.of s = q)
    (hq : q = .literal ∨ q = .longLiteral) : q.fits s = true := by
  rw [Quoting.of] at h
  rcases hfind : [Quoting.basic, .literal, .longBasic, .longLiteral].find? (Quoting.fits s) with
    - | found
  · rw [hfind, Option.getD_none] at h
    split_ifs at h <;> subst h <;> simp at hq
  · rw [hfind, Option.getD_some] at h
    exact h ▸ List.find?_some hfind

theorem ne_cons_cons {body : List Char} (hbody : body.head? ≠ some mark)
    (hrest : rest.head? ≠ some mark) (tail : List Char) :
    body ++ mark :: rest ≠ mark :: mark :: tail := by
  rcases body with - | ⟨c, body⟩
  · rintro heq
    exact hrest (by rw [(List.cons.inj heq).2]; rfl)
  · rintro heq
    exact hbody (congrArg some (List.cons.inj heq).1)

/-- Fewer than three quotes begin a string on one line. -/
theorem readString?_of_ne {body : List Char} (hmark : mark = '"' ∨ mark = '\'')
    (hbody : ∀ tail, body ≠ mark :: mark :: tail) :
    readString? (mark :: body) = readShortString? (mark :: body) := by
  unfold readString?
  split
  · rename_i heq
    obtain ⟨rfl, rfl⟩ := List.cons.inj heq
    exact absurd rfl (hbody _)
  · rename_i heq
    obtain ⟨rfl, rfl⟩ := List.cons.inj heq
    exact absurd rfl (hbody _)
  · rfl

theorem readLiteral_append (hs : ∀ c ∈ s, needsEscape c = false) (hquote : '\'' ∉ s)
    (hline : '\n' ∉ s) (rest : List Char) :
    readLiteral (s ++ '\'' :: rest) = some (s, rest) := by
  have hall : ∀ c ∈ s, (isPlain c && c ≠ '\'') = true := by
    intro c hc
    have hplain := isPlain_of_needsEscape (hs c hc) fun h => hline (h ▸ hc)
    simp only [hplain, Bool.true_and, decide_eq_true_eq]
    exact fun h => hquote (h ▸ hc)
  rw [readLiteral, List.dropWhile_append_of_pos hall, List.takeWhile_append_of_pos hall]
  simp

theorem readString?_basic (hrest : rest.head? ≠ some '"') (s : List Char) :
    readString? ('"' :: (escapeAll false 0 s ++ '"' :: rest)) = some (String.ofList s, rest) := by
  have hfirst : (escapeAll false 0 s).head? ≠ some '"' := by
    intro h
    rcases of_mem_head?_escapeAll h with h | ⟨-, h⟩ | ⟨-, h, -⟩
    · cases h
    · cases h
    · exact h rfl
  rw [readString?_of_ne (.inl rfl) (ne_cons_cons hfirst hrest), readShortString?,
    readBasicFrom_escapeAll]
  rfl

theorem readString?_literal (hrest : rest.head? ≠ some '\'') (hfits : Quoting.literal.fits s) :
    readString? ('\'' :: (s ++ '\'' :: rest)) = some (String.ofList s, rest) := by
  have hchars : ((∀ c ∈ s, needsEscape c = false) ∧ '\'' ∉ s) ∧ '\n' ∉ s := by
    simpa [Quoting.fits] using hfits
  obtain ⟨⟨hescape, hquote⟩, hline⟩ := hchars
  have hfirst : s.head? ≠ some '\'' := fun h => hquote (List.mem_of_mem_head? h)
  rw [readString?_of_ne (.inr rfl) (ne_cons_cons hfirst hrest), readShortString?,
    readLiteral_append hescape hquote hline]
  rfl

theorem readString?_longBasic (hrest : rest.head? ≠ some '"') (s : List Char) :
    readString? ('"' :: '"' :: '"' :: (opening s ++
      (escapeAll true 0 s ++ '"' :: '"' :: '"' :: rest))) = some (String.ofList s, rest) := by
  have hfirst : '\n' ∉ s → ∀ c ∈ (escapeAll true 0 s).head?, c ≠ '\n' ∧ c ≠ '\r' := by
    intro hline c hc
    rcases of_mem_head?_escapeAll hc with rfl | ⟨rfl, -⟩ | ⟨hmem, -, hreturn⟩
    · decide
    · decide
    · exact ⟨fun h => hline (h ▸ hmem), hreturn⟩
  have hread := readLongFrom_escapeAll hrest s (Nat.zero_le 2)
  rw [List.replicate_zero, List.nil_append, List.nil_append] at hread
  rw [readString?, readLong_opening (by decide) hfirst, hread]
  rfl

theorem readString?_longLiteral (hrest : rest.head? ≠ some '\'')
    (hfits : Quoting.longLiteral.fits s) :
    readString? ('\'' :: '\'' :: '\'' :: (opening s ++
      (s ++ '\'' :: '\'' :: '\'' :: rest))) = some (String.ofList s, rest) := by
  have hchars : (∀ c ∈ s, needsEscape c = false) ∧ longestRun '\'' 0 s ≤ 2 := by
    simpa [Quoting.fits] using hfits
  obtain ⟨hescape, hrun⟩ := hchars
  have hfirst : '\n' ∉ s → ∀ c ∈ s.head?, c ≠ '\n' ∧ c ≠ '\r' := by
    intro hline c hc
    have hmem := List.mem_of_mem_head? hc
    exact ⟨fun h => hline (h ▸ hmem), ne_return_of_needsEscape (hescape c hmem)⟩
  have hread := readLongFrom_literal hrest hescape hrun
  rw [List.replicate_zero, List.nil_append, List.nil_append] at hread
  rw [readString?, readLong_opening (by decide) hfirst, hread]
  rfl

/-- **Strings read back**: what is written for a string is read as the
string, if no quote follows. -/
theorem readString?_quote (s : List Char) (hbasic : rest.head? ≠ some '"')
    (hliteral : rest.head? ≠ some '\'') :
    readString? (quote s ++ rest) = some (String.ofList s, rest) := by
  rw [quote]
  rcases hof : Quoting.of s
  all_goals simp only [List.append_assoc, List.cons_append]
  · exact readString?_basic hbasic s
  · exact readString?_literal hliteral (fits_of_eq hof (.inl rfl))
  · exact readString?_longBasic hbasic s
  · exact readString?_longLiteral hliteral (fits_of_eq hof (.inr rfl))

end TextRoadmap.Toml
