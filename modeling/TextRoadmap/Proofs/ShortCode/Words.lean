/-
TextRoadmap/Proofs/ShortCode/Words.lean

Short codes are read and written as numbers in base 64, by words that never
overflow.

The ten windows of a word are its ten last symbols (`windowSymbols_ofNat`).
While a text is read, the sum stays below the weight that has been reached,
and a symbol that would be shifted by 44 bits or more is refused, so the sum
stays below 2⁴⁸ (`readWord?_eq`).  With the facts about values this says what
the texts of codes are and which texts are read (`text_exact_in_words`).
-/
import TextRoadmap.Document.Read
import TextRoadmap.Proofs.ShortCode.Basic
import TextRoadmap.ShortCode.Derive
import TextRoadmap.ShortCode.Words

namespace TextRoadmap.ShortCode

variable {code : String} {n : UInt64} {position : Nat} {s : List Char}

/-! ### Writing -/

theorem windowSymbol_ofNat {n shift : Nat} (hn : n < 2 ^ 64) (hshift : shift < 64) :
    windowSymbol (UInt64.ofNat n) shift = symbol (n / 2 ^ shift) := by
  have hwindow : ((UInt64.ofNat n >>> UInt64.ofNat shift) &&& 0x3f).toNat =
      n / 2 ^ shift % 64 := by
    have hmask : (0x3f : UInt64).toNat = 2 ^ 6 - 1 := rfl
    rw [UInt64.toNat_and, UInt64.toNat_shiftRight, UInt64.toNat_ofNat', UInt64.toNat_ofNat',
      Nat.mod_eq_of_lt hn, Nat.mod_eq_of_lt (hshift.trans (by decide)), Nat.mod_eq_of_lt hshift,
      Nat.shiftRight_eq_div_pow, hmask, Nat.and_two_pow_sub_one_eq_mod]
  rw [windowSymbol, hwindow, symbol]

/-- The symbols of a number, cut out of it one by one. -/
theorem symbols_eq_map (width n : Nat) :
    symbols width n = (List.range width).map fun i => symbol (n / 64 ^ (width - 1 - i)) := by
  induction width generalizing n with
  | zero => rfl
  | succ width ih =>
    rw [symbols, ih, List.range_succ, List.map_append]
    congr 1
    · refine List.map_congr_left fun i hi => ?_
      have hi := List.mem_range.1 hi
      rw [Nat.div_div_eq_div_mul, ← Nat.pow_succ']
      congr 3
      omega
    · simp

theorem windowSymbols_ofNat {n : Nat} (hn : n < 2 ^ 64) :
    windowSymbols (UInt64.ofNat n) = symbols 10 n := by
  rw [windowSymbols, symbols_eq_map]
  refine List.map_congr_left fun i hi => ?_
  have hi := List.mem_range.1 hi
  rw [windowSymbol_ofNat hn (by omega), Nat.mul_comm, Nat.pow_mul]

/-- A code can always be written. -/
theorem textOfWord?_id (c : ShortCode) : textOfWord? (UInt64.ofNat c.id) = some c.text := by
  have hid : c.id < 2 ^ 64 := c.id_lt.trans (by decide)
  have hle : UInt64.ofNat c.id ≤ 0xfffffffffff := by
    rw [UInt64.le_iff_toNat_le, UInt64.toNat_ofNat', Nat.mod_eq_of_lt hid]
    exact Nat.le_of_lt_succ c.id_lt
  rw [textOfWord?, if_pos hle, windowSymbols_ofNat hid]
  rfl

/-! ### Reading -/

theorem addWords?_of_lt {a b : UInt64} (h : a.toNat + b.toNat < 2 ^ 64) :
    ∃ c, addWords? a b = some c ∧ c.toNat = a.toNat + b.toNat :=
  ⟨a + b, if_pos h, by rw [UInt64.toNat_add, Nat.mod_eq_of_lt h]⟩

theorem shiftWord?_of_lt {a : UInt64} {shift : Nat} (hshift : shift < 64)
    (h : a.toNat * 2 ^ shift < 2 ^ 64) :
    ∃ c, shiftWord? a shift = some c ∧ c.toNat = a.toNat * 2 ^ shift := by
  rw [← Nat.shiftLeft_eq] at h ⊢
  refine ⟨a <<< UInt64.ofNat shift, if_pos ⟨hshift, h⟩, ?_⟩
  rw [UInt64.toNat_shiftLeft, UInt64.toNat_ofNat', Nat.mod_eq_of_lt (hshift.trans (by decide)),
    Nat.mod_eq_of_lt hshift, Nat.mod_eq_of_lt h]

/-- A shift by 44 bits is reached where a one is out of bounds. -/
theorem le_shift_iff (position : Nat) : 44 ≤ position * 6 ↔ largest < 64 ^ position := by
  constructor
  · intro h
    have hle : 64 ^ 8 ≤ 64 ^ position := Nat.pow_le_pow_right (by decide) (by omega)
    exact Nat.lt_of_lt_of_le (by decide) hle
  · intro h
    by_contra hlt
    have hle : 64 ^ position ≤ 64 ^ 7 := Nat.pow_le_pow_right (by decide) (by omega)
    exact absurd (h.trans_le hle) (by decide)

/-- One of the last eight symbols is shifted and added without overflow, and
the sum stays below the weight that is reached. -/
theorem exists_addWords?_eq {value : Nat} (hposition : position < 8) (hvalue : value < 64)
    (hn : n.toNat < 64 ^ position) :
    ∃ shifted m, shiftWord? (UInt64.ofNat value) (position * 6) = some shifted ∧
      addWords? n shifted = some m ∧ m.toNat = n.toNat + value * 64 ^ position ∧
      m.toNat < 64 ^ (position + 1) := by
  have hword : (UInt64.ofNat value).toNat = value := by
    rw [UInt64.toNat_ofNat', Nat.mod_eq_of_lt (by omega)]
  have hweight : 2 ^ (position * 6) = 64 ^ position := by rw [Nat.mul_comm, Nat.pow_mul]
  have hsum : n.toNat + value * 64 ^ position < 64 ^ (position + 1) := by
    have hle : value * 64 ^ position ≤ 63 * 64 ^ position := Nat.mul_le_mul_right _ (by omega)
    rw [Nat.pow_succ]
    omega
  have hbound : 64 ^ (position + 1) < 2 ^ 64 :=
    (Nat.pow_le_pow_right (by decide) (by omega : position + 1 ≤ 8)).trans_lt (by decide)
  have hfits : (UInt64.ofNat value).toNat * 2 ^ (position * 6) < 2 ^ 64 := by
    rw [hword, hweight]
    omega
  obtain ⟨shifted, hshifted, hshifted'⟩ := shiftWord?_of_lt (by omega) hfits
  rw [hword, hweight] at hshifted'
  obtain ⟨m, hm, hm'⟩ := addWords?_of_lt (a := n) (b := shifted) (by omega)
  rw [hshifted'] at hm'
  exact ⟨shifted, m, hshifted, hm, hm', hm' ▸ hsum⟩

/-- Words are enough: the sum of the symbols read so far stays below the
weight that is reached, and below 2⁴⁸. -/
theorem readWord?_eq (hn : n.toNat < 64 ^ min position 8) :
    ∃ result, readWord? code position n s = some result ∧
      result.map UInt64.toNat = readSymbols code (64 ^ position) n.toNat s := by
  induction s generalizing position n with
  | nil => exact ⟨.ok n, rfl, rfl⟩
  | cons c s ih =>
    rw [readWord?, readSymbols, ← Nat.pow_succ']
    rcases hc : symbolValue? c with - | value
    · exact ⟨_, rfl, rfl⟩
    have hvalue : value < 64 := by
      have := digit_lt c
      rwa [digit, hc, Option.getD_some] at this
    rcases value with - | value
    · have hle : 64 ^ min position 8 ≤ 64 ^ min (position + 1) 8 :=
        Nat.pow_le_pow_right (by decide) (by omega)
      exact ih (hn.trans_le hle)
    -- a symbol other than zero counts, unless it would be shifted too far
    by_cases hshift : 44 ≤ position * 6
    · refine ⟨.error (.outOfBounds code), if_pos hshift, ?_⟩
      exact (if_pos ((le_shift_iff position).1 hshift)).symm
    · have hmin : min position 8 = position ∧ min (position + 1) 8 = position + 1 := by omega
      rw [hmin.1] at hn
      obtain ⟨shifted, m, hshifted, hm, hm', hsmall⟩ :=
        exists_addWords?_eq (by omega) hvalue hn
      rw [← hmin.2] at hsmall
      obtain ⟨result, hresult, heq⟩ := ih hsmall
      refine ⟨result, ?_, ?_⟩
      · show (if 44 ≤ position * 6 then _ else _) = _
        rw [if_neg hshift, hshifted, Option.bind_eq_bind, Option.bind_some, hm]
        exact hresult
      · rw [heq, hm']
        exact (if_neg fun h => hshift ((le_shift_iff position).2 h)).symm

/-- Reading in words never overflows, and reads what there is to read. -/
theorem readInWords?_eq (text : String) : readInWords? text = some (read text) := by
  have hzero : (0 : UInt64).toNat < 64 ^ min 0 8 := by decide
  obtain ⟨result, hresult, heq⟩ : ∃ result,
      readWord? text 0 0 text.toList.reverse = some result ∧
        result.map UInt64.toNat = readSymbols text (64 ^ 0) 0 text.toList.reverse :=
    readWord?_eq hzero
  have hread : readSymbols text 1 0 text.toList.reverse = result.map UInt64.toNat := heq.symm
  rw [readInWords?, hresult, read, hread]
  cases result <;> rfl

/-! ### Sources -/

theorem ofId_eq_ok_iff {id : Nat} {c : ShortCode} :
    ofId id = .ok c ↔ id ≤ largest ∧ c.id = id := by
  rw [ofId]
  constructor
  · intro h
    split at h
    · rename_i hlt
      cases h
      exact ⟨Nat.le_of_lt_succ hlt, rfl⟩
    · cases h
  · rintro ⟨hle, rfl⟩
    exact dif_pos c.id_lt

/-- A code in a document is the one that its string writes. -/
theorem exists_read_of_readJson {input after : List Char} {c : ShortCode}
    (h : readJson input = .ok (c, after)) :
    ∃ text, Json.readString input = .ok (text, after) ∧ read text = .ok c := by
  rw [readJson, Json.readNamed] at h
  rcases hstring : Json.readString input with e | ⟨text, rest⟩
  · rw [hstring] at h
    cases h
  · rcases hread : read text with e | c'
    · simp [hstring, hread, bind, Except.bind, Except.mapError] at h
    · obtain ⟨rfl, rfl⟩ : c' = c ∧ rest = after := by
        simpa [hstring, hread, bind, Except.bind, Except.mapError] using h
      exact ⟨text, rfl, hread⟩

/-! ### The theorem -/

/-- **Short codes are the numbers of 44 bits in base 64**.

- The number of a code has at most eight symbols, of which the first is no
  zero, and they are read as that number.
- A text is read as a number exactly if it is over the alphabet, the number is
  its value, and that is in bounds; written again, it loses the zeros in front.
- Words of 64 bits do all of this without an overflow, whatever the text, and
  write every code, be it made from a number, read from a text or from a
  document, or derived from a seed: all of them are in bounds. -/
theorem text_exact_in_words :
    (∀ n ≤ largest, ∃ c, ofId n = .ok c ∧ c.id = n ∧ (∀ x ∈ c.text.toList, x ∈ alphabet) ∧
      c.text.toList.length ≤ 8 ∧ c.text.toList.head? ≠ some '0' ∧ read c.text = .ok c) ∧
    (∀ text n, (∃ c, read text = .ok c ∧ c.id = n) ↔
      (∀ x ∈ text.toList, x ∈ alphabet) ∧ value text.toList = n ∧ n ≤ largest) ∧
    (∀ text c, read text = .ok c → c.text.toList = text.toList.dropWhile (· = '0')) ∧
    (∀ text, readInWords? text = some (read text)) ∧
    (∀ c : ShortCode, textOfWord? (UInt64.ofNat c.id) = some c.text) ∧
    (∀ id c, ofId id = .ok c ↔ id ≤ largest ∧ c.id = id) ∧
    (∀ input c after, readJson input = .ok (c, after) →
      ∃ text, Json.readString input = .ok (text, after) ∧ read text = .ok c) ∧
    ∀ seed instant, (derive seed instant).id < largest := by
  refine ⟨fun n hn => ?_, fun text n => ?_, fun text c h => ?_, readInWords?_eq, textOfWord?_id,
    fun id c => ofId_eq_ok_iff, fun input c after => exists_read_of_readJson, ?_⟩
  · have hlt : n < 0x100000000000 := Nat.lt_succ_of_le hn
    exact ⟨⟨n, hlt⟩, ofId_eq_ok_iff.2 ⟨hn, rfl⟩, rfl, fun _ => mem_alphabet_of_mem_text,
      length_text_le _, head?_text _, read_text _⟩
  · constructor
    · rintro ⟨c, hread, rfl⟩
      obtain ⟨hall, hvalue⟩ := read_eq_ok_iff.1 hread
      exact ⟨hall, hvalue, Nat.le_of_lt_succ c.id_lt⟩
    · rintro ⟨hall, hvalue, hle⟩
      exact ⟨⟨n, Nat.lt_succ_of_le hle⟩, read_eq_ok_iff.2 ⟨hall, hvalue⟩, rfl⟩
  · obtain ⟨hall, hvalue⟩ := read_eq_ok_iff.1 h
    exact toList_text_eq_of_value hall hvalue
  · intro seed instant
    exact Nat.mod_lt _ (by decide)

end TextRoadmap.ShortCode
