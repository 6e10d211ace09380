/-
TextRoadmap/Proofs/ShortCode/Faults.lean

What is reported of texts that are no short codes.

A text can have two faults: characters outside the alphabet, and a value out
of bounds.  The second one should be reported only if the first is absent,
since a text with other characters has no value (`Discerns`).  But reading
begins at the end, and stops at a symbol that counts more than any code; what
stands in front of it is not looked at any more.  So it is the symbols behind
the last foreign character that decide (`read_eq`): if they are worth 64⁸ or
more, one of them stands too far to the left, and the text is called out of
bounds.
-/
import Mathlib.Data.List.TakeWhile
import TextRoadmap.Proofs.ShortCode.Basic

namespace TextRoadmap.ShortCode

variable {code text : String} {acc : Nat} {s rest : List Char} {c : Char} {e : CodeError}

/-! ### Errors -/

/-- Whatever is reported names the whole text, and a character that is
reported is a foreign one of the text. -/
theorem readSymbols_eq_error {weight : Nat} (h : readSymbols code weight acc s = .error e) :
    e = .outOfBounds code ∨ ∃ c ∈ s, c ∉ alphabet ∧ e = .character c code := by
  induction s generalizing weight acc with
  | nil => cases h
  | cons c s ih =>
    have hlater : (∃ d ∈ s, d ∉ alphabet ∧ e = .character d code) →
        ∃ d ∈ c :: s, d ∉ alphabet ∧ e = .character d code :=
      fun ⟨d, hd, hforeign⟩ => ⟨d, List.mem_cons_of_mem c hd, hforeign⟩
    rw [readSymbols] at h
    rcases hc : symbolValue? c with - | - | value
    · rw [hc] at h
      have hforeign : c ∉ alphabet := fun hmem => by
        rw [symbolValue?_of_mem hmem] at hc
        cases hc
      exact .inr ⟨c, List.mem_cons_self .., hforeign, (Except.error.inj h).symm⟩
    · rw [hc] at h
      exact (ih h).imp_right hlater
    · rw [hc] at h
      change (if largest < weight then _ else _) = _ at h
      split at h
      · exact .inl (Except.error.inj h).symm
      · exact (ih h).imp_right hlater

/-- A text over the alphabet is a code or out of bounds. -/
theorem read_eq_of_symbols (hall : ∀ c ∈ text.toList, c ∈ alphabet) :
    read text = if h : value text.toList < 0x100000000000 then .ok ⟨value text.toList, h⟩
      else .error (.outOfBounds text) := by
  split
  · exact read_eq_ok_iff.2 ⟨hall, rfl⟩
  · rename_i hbound
    rw [read]
    rcases hread : readSymbols text 1 0 text.toList.reverse with e | id
    · rcases readSymbols_eq_error hread with rfl | ⟨c, hc, hforeign, -⟩
      · rfl
      · exact absurd (hall c (List.mem_reverse.1 hc)) hforeign
    · -- all symbols have been read, so their value is out of bounds at the end
      obtain ⟨-, hid⟩ := of_readSymbols_eq_ok hread
      rw [Nat.zero_add, Nat.one_mul, ← value_eq_ofDigits] at hid
      exact dif_neg (hid ▸ hbound)

/-! ### Foreign characters -/

/-- A symbol in one of the last eight places leaves the rest of the value
where it was. -/
theorem weighed_lt_iff {position value rest : Nat} (hposition : position < 8)
    (hvalue : value < 64) :
    64 ^ position * (value + 64 * rest) < 64 ^ 8 ↔ 64 ^ (position + 1) * rest < 64 ^ 8 := by
  have hsplit : 64 ^ 8 = 64 ^ position * (64 * 64 ^ (7 - position)) := by
    rw [← Nat.pow_succ', ← Nat.pow_add]
    congr 1
    omega
  have hpos : 0 < 64 ^ position := Nat.pow_pos (by decide)
  rw [hsplit, Nat.pow_succ, Nat.mul_assoc, Nat.mul_lt_mul_left hpos, Nat.mul_lt_mul_left hpos]
  omega

/-- Reading comes to a foreign character if the symbols behind it are worth
less than 64⁸. -/
theorem readSymbols_append_foreign (hs : ∀ d ∈ s, d ∈ alphabet) (hc : c ∉ alphabet)
    (position : Nat) :
    readSymbols code (64 ^ position) acc (s ++ c :: rest) =
      if 64 ^ position * Nat.ofDigits 64 (s.map digit) < 64 ^ 8 then .error (.character c code)
      else .error (.outOfBounds code) := by
  induction s generalizing acc position with
  | nil =>
    have hnone : symbolValue? c = none := List.idxOf?_eq_none_iff.2 hc
    simp [readSymbols, hnone]
  | cons d s ih =>
    have hs' : ∀ d ∈ s, d ∈ alphabet := fun x hx => hs x (List.mem_cons_of_mem _ hx)
    rw [List.cons_append, readSymbols, symbolValue?_of_mem (hs d (List.mem_cons_self ..)),
      ← Nat.pow_succ', List.map_cons, Nat.ofDigits_cons]
    have hdigit := digit_lt d
    rcases hd : digit d with - | value
    · rw [Nat.zero_add, ← Nat.mul_assoc, ← Nat.pow_succ]
      exact ih hs' (position + 1)
    · rw [hd] at hdigit
      show (if largest < 64 ^ position then _ else _) = _
      by_cases hposition : position < 8
      · have hle : 64 ^ position ≤ 64 ^ 7 := Nat.pow_le_pow_right (by decide) (by omega)
        have hin : ¬ largest < 64 ^ position := not_lt.2 (hle.trans (by decide))
        rw [if_neg hin, ih hs' (position + 1)]
        exact if_congr (weighed_lt_iff hposition hdigit).symm rfl rfl
      · -- the symbol stands too far to the left
        have hle : 64 ^ 8 ≤ 64 ^ position := Nat.pow_le_pow_right (by decide) (by omega)
        have hout : largest < 64 ^ position := lt_of_lt_of_le (by decide) hle
        have hlarge : ¬ 64 ^ position * (value + 1 + 64 * Nat.ofDigits 64 (s.map digit)) < 64 ^ 8 :=
          not_lt.2 (hle.trans (Nat.le_mul_of_pos_right _ (by omega)))
        rw [if_pos hout, if_neg hlarge]

/-! ### Texts -/

/-- The last character of the text that is no symbol. -/
def lastForeign? (text : String) : Option Char := text.toList.reverse.find? (· ∉ alphabet)

/-- The symbols at the end of the text, behind the last character that is
none. -/
def ending (text : String) : List Char := (text.toList.reverse.takeWhile (· ∈ alphabet)).reverse

theorem lastForeign?_eq_none_iff :
    lastForeign? text = none ↔ ∀ c ∈ text.toList, c ∈ alphabet := by
  simp [lastForeign?]

theorem mem_of_lastForeign? (h : lastForeign? text = some c) :
    c ∈ text.toList ∧ c ∉ alphabet := by
  refine ⟨List.mem_reverse.1 (List.mem_of_find?_eq_some h), ?_⟩
  simpa using List.find?_some h

/-- Behind the last foreign character comes the end of the text. -/
theorem exists_reverse_eq (h : lastForeign? text = some c) :
    ∃ before, text.toList.reverse = (ending text).reverse ++ c :: before := by
  rw [lastForeign?] at h
  rw [ending, List.reverse_reverse]
  obtain ⟨hforeign, symbols, before, heq, hsymbols⟩ := List.find?_eq_some_iff_append.1 h
  refine ⟨before, ?_⟩
  rw [heq, List.takeWhile_append_of_pos (by simpa using hsymbols),
    List.takeWhile_cons_of_neg (by simpa using hforeign), List.append_nil]

/-- What comes of reading, for every text. -/
theorem read_eq (text : String) :
    read text =
      match lastForeign? text with
      | none =>
        if h : value text.toList < 0x100000000000 then .ok ⟨value text.toList, h⟩
        else .error (.outOfBounds text)
      | some c =>
        if value (ending text) < 64 ^ 8 then .error (.character c text)
        else .error (.outOfBounds text) := by
  rcases hlast : lastForeign? text with - | c
  · exact read_eq_of_symbols (lastForeign?_eq_none_iff.1 hlast)
  · obtain ⟨before, heq⟩ := exists_reverse_eq hlast
    have hsymbols : ∀ d ∈ (ending text).reverse, d ∈ alphabet := by
      intro d hd
      rw [ending, List.reverse_reverse] at hd
      simpa using List.mem_takeWhile_imp hd
    have hread : readSymbols text (64 ^ 0) 0 ((ending text).reverse ++ c :: before) =
        if 64 ^ 0 * Nat.ofDigits 64 ((ending text).reverse.map digit) < 64 ^ 8 then
          .error (.character c text)
        else .error (.outOfBounds text) :=
      readSymbols_append_foreign hsymbols (mem_of_lastForeign? hlast).2 0
    rw [Nat.pow_zero, Nat.one_mul, ← value_eq_ofDigits] at hread
    rw [read, heq, hread]
    dsimp only
    split <;> rfl

/-! ### The theorem -/

/-- What is reported of a text is what is wrong with it: a foreign character
if it has one, and otherwise a value out of bounds. -/
structure Discerns (text : String) : Prop where
  foreign : (∃ c ∈ text.toList, c ∉ alphabet) →
    ∃ c ∈ text.toList, c ∉ alphabet ∧ read text = .error (.character c text)
  outOfBounds : (∀ c ∈ text.toList, c ∈ alphabet) → largest < value text.toList →
    read text = .error (.outOfBounds text)

/-- **When faults are told apart**: exactly for the texts over the alphabet
and those whose symbols behind the last foreign character are worth less than
64⁸.  All others have a foreign character and are called out of bounds. -/
theorem discerns_iff (text : String) :
    (Discerns text ↔ (∀ c ∈ text.toList, c ∈ alphabet) ∨ value (ending text) < 64 ^ 8) ∧
    (¬ Discerns text → (∃ c ∈ text.toList, c ∉ alphabet) ∧
      read text = .error (.outOfBounds text)) := by
  have hread := read_eq text
  rcases hlast : lastForeign? text with - | c
  · have hall := lastForeign?_eq_none_iff.1 hlast
    rw [hlast] at hread
    have hdiscerns : Discerns text :=
      ⟨fun ⟨c, hc, hforeign⟩ => absurd (hall c hc) hforeign,
        fun _ hlarge => hread.trans (dif_neg (by rw [largest] at hlarge; omega))⟩
    exact ⟨iff_of_true hdiscerns (.inl hall), fun h => absurd hdiscerns h⟩
  · obtain ⟨hmem, hforeign⟩ := mem_of_lastForeign? hlast
    rw [hlast] at hread
    by_cases hsmall : value (ending text) < 64 ^ 8
    · replace hread := hread.trans (if_pos hsmall)
      have hdiscerns : Discerns text :=
        ⟨fun _ => ⟨c, hmem, hforeign, hread⟩, fun hall => absurd (hall c hmem) hforeign⟩
      exact ⟨iff_of_true hdiscerns (.inr hsmall), fun h => absurd hdiscerns h⟩
    · replace hread := hread.trans (if_neg hsmall)
      have hnot : ¬ Discerns text := by
        intro h
        obtain ⟨d, -, -, hd⟩ := h.foreign ⟨c, hmem, hforeign⟩
        rw [hread] at hd
        cases hd
      refine ⟨iff_of_false hnot ?_, fun _ => ⟨⟨c, hmem, hforeign⟩, hread⟩⟩
      rintro (hall | hlt)
      · exact hforeign (hall c hmem)
      · exact hsmall hlt

/-- A foreign character in front of a one that counts 64⁸. -/
theorem not_discerns_foreign_first : ¬ Discerns "-100000000" := by
  intro h
  obtain ⟨c, -, -, hread⟩ := h.foreign ⟨'-', by decide, by decide⟩
  have hout : read "-100000000" = .error (.outOfBounds "-100000000") := by decide +kernel
  rw [hout] at hread
  cases hread

end TextRoadmap.ShortCode
