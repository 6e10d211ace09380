/-
TextRoadmap/Proofs/Json/Scan.lean

The strings and numbers of a JSON text read back.

A character inside a string is written by itself or by one of two kinds of
escapes, and each is read as the character (`readCharsFrom_escape`).  The
number of a byte ends where no digit, point or exponent follows it, and it is
far from the largest number that can be read (`readNumber_decimal`).
-/
import Mathlib.Tactic.SplitIfs
import TextRoadmap.Json.Read
import TextRoadmap.Json.Write
import TextRoadmap.Proofs.Text.Digits

namespace TextRoadmap.Json

open TextRoadmap.Text

variable {c : Char} {rest : List Char} {strict : Bool}

/-! ### Strings -/

/-- The escapes of one letter. -/
theorem readCharsFrom_short {letter : Char} (h : shortEscapes.lookup letter = some c)
    (hletter : letter ≠ 'u') (rest : List Char) :
    readCharsFrom strict 0 ('\\' :: letter :: rest) =
      (readCharsFrom strict 0 rest).map fun (chars, after) => (c :: chars, after) := by
  have hescape : readEscape strict (letter :: rest) = .ok (c, 1) := by
    rw [readEscape]
    · rw [h]
    · exact hletter
  rw [readCharsFrom, if_neg (by decide), if_pos rfl, hescape]
  show (readCharsFrom strict 1 (letter :: rest)).bind _ = _
  rw [readCharsFrom]
  cases readCharsFrom strict 0 rest <;> rfl

theorem readHex4_hexByte (h : c.toNat < 256) (rest : List Char) :
    readHex4 ('0' :: '0' :: (hexByte c.toNat ++ rest)) = .ok c.toNat := by
  have hzero : hexValue? '0' = some 0 := by decide
  have hdigits : ['0', '0', hexDigit (c.toNat / 16), hexDigit c.toNat].mapM hexValue? =
      some [0, 0, c.toNat / 16, c.toNat % 16] := by
    have hbyte := mapM_hexByte h
    rw [hexByte] at hbyte
    rw [List.mapM_cons, List.mapM_cons, hzero, hbyte]
    rfl
  rw [hexByte, List.cons_append, List.cons_append, List.nil_append, readHex4, hdigits]
  show Except.ok _ = _
  congr 1
  show 16 * (16 * (16 * (16 * 0 + 0) + 0) + c.toNat / 16) + c.toNat % 16 = c.toNat
  omega

/-- The escapes by number, which are written for control characters. -/
theorem readCharsFrom_numbered (h : c.toNat < 0x20) (rest : List Char) :
    readCharsFrom strict 0 ('\\' :: 'u' :: '0' :: '0' :: (hexByte c.toNat ++ rest)) =
      (readCharsFrom strict 0 rest).map fun (chars, after) => (c :: chars, after) := by
  have hhigh : isHighSurrogate c.toNat = false := by
    simp [isHighSurrogate]
    omega
  have hlow : isLowSurrogate c.toNat = false := by
    simp [isLowSurrogate]
    omega
  have hnumber : readNumbered strict ('0' :: '0' :: (hexByte c.toNat ++ rest)) = .ok (c, 4) := by
    rw [readNumbered, readHex4_hexByte (by omega)]
    show (if (!strict || !(isHighSurrogate c.toNat || isLowSurrogate c.toNat)) = true then _
      else _) = _
    rw [if_pos (by rw [hhigh, hlow]; simp), Char.ofNat_toNat]
  have hescape : readEscape strict ('u' :: '0' :: '0' :: (hexByte c.toNat ++ rest)) =
      .ok (c, 5) := by
    rw [readEscape, hnumber]
    rfl
  rw [readCharsFrom, if_neg (by decide), if_pos rfl, hescape]
  show (readCharsFrom strict 5 ('u' :: '0' :: '0' :: hexDigit _ :: hexDigit _ :: rest)).bind _ = _
  rw [readCharsFrom, readCharsFrom, readCharsFrom, readCharsFrom, readCharsFrom]
  cases readCharsFrom strict 0 rest <;> rfl

/-- A character of a string is read as it was written. -/
theorem readCharsFrom_escape (c : Char) (rest : List Char) :
    readCharsFrom strict 0 (escape c ++ rest) =
      (readCharsFrom strict 0 rest).map fun (chars, after) => (c :: chars, after) := by
  unfold escape
  split_ifs with h₁ h₂ h₃ h₄ h₅ h₆ h₇ h₈
  · subst h₁
    exact readCharsFrom_short (by decide) (by decide) rest
  · subst h₂
    exact readCharsFrom_short (by decide) (by decide) rest
  · subst h₃
    exact readCharsFrom_short (by decide) (by decide) rest
  · subst h₄
    exact readCharsFrom_short (by decide) (by decide) rest
  · subst h₅
    exact readCharsFrom_short (by decide) (by decide) rest
  · subst h₆
    exact readCharsFrom_short (by decide) (by decide) rest
  · subst h₇
    exact readCharsFrom_short (by decide) (by decide) rest
  · exact readCharsFrom_numbered h₈ rest
  · rw [List.singleton_append, readCharsFrom, if_neg h₁, if_neg h₂, if_neg h₈]
    cases readCharsFrom strict 0 rest <;> rfl

/-- The characters of a string are read up to its last quote. -/
theorem readChars_escape (s rest : List Char) :
    readChars strict (s.flatMap escape ++ '"' :: rest) = .ok (s, rest) := by
  rw [readChars]
  induction s with
  | nil =>
    show readCharsFrom strict 0 ('"' :: rest) = _
    rw [readCharsFrom, if_pos rfl]
  | cons c s ih =>
    rw [List.flatMap_cons, List.append_assoc, readCharsFrom_escape, ih]
    rfl

/-! ### Numbers -/

/-- What can follow a number: nothing that would be part of it. -/
def EndsNumber (rest : List Char) : Prop :=
  ∀ c ∈ rest.head?, c.isDigit = false ∧ c ≠ '.' ∧ c ≠ 'e' ∧ c ≠ 'E'

theorem takeWhile_decimal (n : Nat) (h : EndsNumber rest) :
    (decimal n ++ rest).takeWhile Char.isDigit = decimal n ∧
      (decimal n ++ rest).dropWhile Char.isDigit = rest := by
  have hdigits : ∀ c ∈ decimal n, c.isDigit = true := fun c => isDigit_of_mem_decimal
  have hrest : rest.takeWhile Char.isDigit = [] ∧ rest.dropWhile Char.isDigit = rest := by
    cases rest with
    | nil => exact ⟨rfl, rfl⟩
    | cons c rest =>
      have hc := (h c rfl).1
      simp [hc]
  rw [List.takeWhile_append_of_pos hdigits, List.dropWhile_append_of_pos hdigits, hrest.1, hrest.2,
    List.append_nil]
  exact ⟨rfl, rfl⟩

/-- The digits of a number are read, where no zero stands in front. -/
theorem readWhole_decimal (n : Nat) (h : EndsNumber rest) :
    readWhole strict (decimal n ++ rest) = .ok (decimal n, rest) := by
  obtain ⟨htake, hdrop⟩ := takeWhile_decimal n h
  obtain ⟨c, run, hrun⟩ := List.exists_cons_of_ne_nil (decimal_ne_nil n)
  have hread : readDigits strict (decimal n ++ rest) = .ok (decimal n, rest) := by
    rw [readDigits, htake, hdrop, hrun]
  have hzero : ¬ ((decimal n).length ≠ 1 ∧ (decimal n).head? = some '0') := by
    rintro ⟨hlen, hhead⟩
    rcases Nat.eq_zero_or_pos n with rfl | hpos
    · exact hlen rfl
    · exact head?_decimal hpos hhead
  rw [readWhole, hread]
  show (if _ then _ else _) = _
  rw [if_neg hzero]

theorem readNumeral_decimal (n : Nat) (h : EndsNumber rest) :
    readNumeral strict false (decimal n ++ rest) = .ok (⟨false, decimal n, none, none⟩, rest) := by
  have hfraction : readFraction strict rest = .ok (none, rest) := by
    unfold readFraction
    split
    · exact absurd rfl (h '.' rfl).2.1
    · rfl
  have hexponent : readExponent strict rest = .ok (none, rest) := by
    unfold readExponent
    split
    · exact absurd rfl (h 'e' rfl).2.2.1
    · exact absurd rfl (h 'E' rfl).2.2.2
    · rfl
  rw [readNumeral, readWhole_decimal n h]
  show (readFraction strict rest).bind _ = _
  rw [hfraction]
  show (readExponent strict rest).bind _ = _
  rw [hexponent]
  rfl

/-- A small number is not out of range. -/
theorem isHuge_decimal {n : Nat} (h : n < overflowBound) :
    Numeral.isHuge ⟨false, decimal n, none, none⟩ = false := by
  have hwhole : Numeral.wholeDigits ⟨false, decimal n, none, none⟩ = decimal n := by
    simp [Numeral.wholeDigits, Numeral.digits, Numeral.scale]
  rw [Numeral.isHuge, hwhole, digitsValue_decimal]
  simp [Numeral.scale, Nat.not_le.2 h]

theorem readNumber_decimal {n : Nat} (hn : n < overflowBound) (h : EndsNumber rest) :
    readNumber false (decimal n ++ rest) = .ok (⟨false, decimal n, none, none⟩, rest) := by
  rw [readNumber, readNumeral_decimal n h]
  show (if _ then _ else _) = _
  rw [if_neg (by rw [isHuge_decimal hn]; simp)]

end TextRoadmap.Json
