/-
TextRoadmap/Proofs/ShortCode/Basic.lean

Which texts are short codes, and of which numbers.

A text over the alphabet writes a number in base 64 (`value`), and zeros in
front count nothing.  Reading goes through the symbols from the last to the
first, so what has been read is the value of the end of the text, weighed.
It succeeds exactly for the texts over the alphabet whose value is in bounds
(`read_eq_ok_iff`): a symbol that stands where a one would be out of bounds
puts the whole value out of bounds.

Without zeros in front, the symbols are the digits of their value, so a
number has one text of this kind (`toList_text_eq_of_value`).
-/
import TextRoadmap.ShortCode.Basic
import Mathlib.Data.Nat.Digits.Lemmas

namespace TextRoadmap.ShortCode

variable {code : String} {weight acc n : Nat} {s t : List Char} {c d : Char}

/-! ### Symbols -/

/-- The value of a symbol; any other character is worth nothing. -/
def digit (c : Char) : Nat := (symbolValue? c).getD 0

theorem symbolValue?_of_mem (h : c ∈ alphabet) : symbolValue? c = some (digit c) := by
  rcases hc : symbolValue? c with - | value
  · exact absurd h (List.idxOf?_eq_none_iff.1 hc)
  · rw [digit, hc, Option.getD_some]

theorem mem_of_symbolValue? {value : Nat} (h : symbolValue? c = some value) : c ∈ alphabet := by
  obtain ⟨hlt, rfl, -⟩ := List.idxOf?_eq_some_iff.1 h
  exact List.getElem_mem hlt

theorem digit_lt (c : Char) : digit c < 64 := by
  rcases hc : symbolValue? c with - | value
  · rw [digit, hc]
    decide
  · obtain ⟨hlt, -⟩ := List.idxOf?_eq_some_iff.1 hc
    have hlength : alphabet.length = 64 := by decide +kernel
    rwa [digit, hc, Option.getD_some, ← hlength]

/-- A symbol is the one for its value. -/
theorem symbol_digit (h : c ∈ alphabet) : symbol (digit c) = c := by
  have hall : (alphabet.all fun c => symbol (digit c) = c) = true := by decide +kernel
  simpa using List.all_eq_true.1 hall c h

theorem digit_symbol (n : Nat) : digit (symbol n) = n % 64 := by
  have all : ∀ value < 64, digit (symbol value) = value := by decide +kernel
  have hmod : symbol n = symbol (n % 64) := by simp [symbol]
  rw [hmod]
  exact all (n % 64) (Nat.mod_lt _ (by decide))

theorem symbol_mem (n : Nat) : symbol n ∈ alphabet := by
  have all : ∀ value < 64, symbol value ∈ alphabet := by decide +kernel
  have hmod : symbol n = symbol (n % 64) := by simp [symbol]
  rw [hmod]
  exact all (n % 64) (Nat.mod_lt _ (by decide))

theorem digit_inj (hc : c ∈ alphabet) (hd : d ∈ alphabet) (h : digit c = digit d) : c = d := by
  rw [← symbol_digit hc, h, symbol_digit hd]

theorem digit_eq_zero_iff (h : c ∈ alphabet) : digit c = 0 ↔ c = '0' := by
  have hzero : digit '0' = 0 := by decide
  constructor
  · intro hc
    exact digit_inj h (by decide) (hc.trans hzero.symm)
  · rintro rfl
    exact hzero

/-! ### Values -/

/-- The number that the symbols write in base 64, the last one being worth
least. -/
def value (s : List Char) : Nat := s.foldl (fun n c => 64 * n + digit c) 0

theorem value_eq_ofDigits (s : List Char) :
    value s = Nat.ofDigits 64 (s.reverse.map digit) := by
  rw [value, List.foldl_eq_foldr_reverse, Nat.ofDigits_eq_foldr, List.foldr_map]
  simp only [Nat.cast_id, Nat.add_comm]

theorem value_concat (s : List Char) (c : Char) : value (s ++ [c]) = 64 * value s + digit c := by
  rw [value, List.foldl_append]
  rfl

theorem value_dropWhile_zero (s : List Char) : value (s.dropWhile (· = '0')) = value s := by
  induction s with
  | nil => rfl
  | cons c s ih =>
    rw [List.dropWhile_cons]
    split
    · rename_i h
      obtain rfl : c = '0' := by simpa using h
      exact ih
    · rfl

/-- Without zeros in front the symbols are the digits of their value. -/
theorem map_digit_reverse_dropWhile (hs : ∀ c ∈ s, c ∈ alphabet) :
    (s.dropWhile (· = '0')).reverse.map digit = Nat.digits 64 (value s) := by
  rw [← value_dropWhile_zero, value_eq_ofDigits]
  refine (Nat.digits_ofDigits 64 (by decide) _ ?_ ?_).symm
  · intro d hd
    obtain ⟨c, -, rfl⟩ := List.mem_map.1 hd
    exact digit_lt c
  · intro hne
    have hne' : s.dropWhile (· = '0') ≠ [] := by simpa using hne
    have hmem := List.head_mem hne'
    have hhead : (s.dropWhile (· = '0')).head hne' ≠ '0' := by
      simpa using List.head_dropWhile_not (· = '0') hne'
    rw [List.getLast_map, List.getLast_reverse, Ne,
      digit_eq_zero_iff (hs _ ((List.dropWhile_sublist _).subset hmem))]
    exact hhead

/-- Two texts of the same value differ in the zeros in front. -/
theorem dropWhile_eq_of_value (hs : ∀ c ∈ s, c ∈ alphabet) (ht : ∀ c ∈ t, c ∈ alphabet)
    (h : value s = value t) : s.dropWhile (· = '0') = t.dropWhile (· = '0') := by
  -- the symbols can be told from the digits
  have hback : ∀ {u : List Char}, (∀ c ∈ u, c ∈ alphabet) →
      u.dropWhile (· = '0') = ((Nat.digits 64 (value u)).map symbol).reverse := by
    intro u hu
    have hsymbol : ∀ c ∈ (u.dropWhile (· = '0')).reverse, symbol (digit c) = c := fun c hc =>
      symbol_digit (hu c ((List.dropWhile_sublist _).subset (List.mem_reverse.1 hc)))
    rw [← map_digit_reverse_dropWhile hu, List.map_map, Function.comp_def,
      List.map_congr_left hsymbol, List.map_id', List.reverse_reverse]
  rw [hback hs, hback ht, h]

/-! ### Writing -/

theorem mem_alphabet_of_mem_symbols {width : Nat} (h : c ∈ symbols width n) : c ∈ alphabet := by
  induction width generalizing n with
  | zero => simp [symbols] at h
  | succ width ih =>
    rcases List.mem_append.1 h with h | h
    · exact ih h
    · rw [List.mem_singleton.1 h]
      exact symbol_mem n

theorem value_symbols {width : Nat} (h : n < 64 ^ width) : value (symbols width n) = n := by
  induction width generalizing n with
  | zero => exact (Nat.lt_one_iff.1 h).symm
  | succ width ih =>
    have hdiv : n / 64 < 64 ^ width := Nat.div_lt_of_lt_mul (by rwa [Nat.pow_succ'] at h)
    rw [symbols, value_concat, ih hdiv, digit_symbol]
    exact Nat.div_add_mod n 64

theorem toList_text (c : ShortCode) : c.text.toList = (symbols 10 c.id).dropWhile (· = '0') :=
  String.toList_ofList

theorem mem_alphabet_of_mem_text {c : ShortCode} {x : Char} (h : x ∈ c.text.toList) :
    x ∈ alphabet := by
  rw [toList_text] at h
  exact mem_alphabet_of_mem_symbols ((List.dropWhile_sublist _).subset h)

theorem value_symbols_id (c : ShortCode) : value (symbols 10 c.id) = c.id :=
  value_symbols (c.id_lt.trans (by decide))

theorem value_text (c : ShortCode) : value c.text.toList = c.id := by
  rw [toList_text, value_dropWhile_zero, value_symbols_id]

/-- Of the texts with the value of a code its own one has no zeros in front. -/
theorem toList_text_eq_of_value {c : ShortCode} (hs : ∀ x ∈ s, x ∈ alphabet)
    (h : value s = c.id) : c.text.toList = s.dropWhile (· = '0') := by
  rw [toList_text]
  exact dropWhile_eq_of_value (fun _ => mem_alphabet_of_mem_symbols) hs
    ((value_symbols_id c).trans h.symm)

theorem head?_text (c : ShortCode) : c.text.toList.head? ≠ some '0' := by
  rw [toList_text]
  intro h
  have := List.head?_dropWhile_not (· = '0') (symbols 10 c.id)
  simp [h] at this

/-- A number of 44 bits has at most eight digits. -/
theorem length_text_le (c : ShortCode) : c.text.toList.length ≤ 8 := by
  have hdigits := congrArg List.length (map_digit_reverse_dropWhile (s := symbols 10 c.id)
    fun _ => mem_alphabet_of_mem_symbols)
  rw [List.length_map, List.length_reverse, ← toList_text, value_symbols_id] at hdigits
  rw [hdigits, Nat.digits_length_le_iff (by decide)]
  exact c.id_lt.trans (by decide)

/-! ### Reading -/

/-- The symbols of a number that stays in bounds are read as that number. -/
theorem readSymbols_eq_ok (hs : ∀ c ∈ s, c ∈ alphabet)
    (hbound : acc + weight * Nat.ofDigits 64 (s.map digit) ≤ largest) :
    readSymbols code weight acc s = .ok (acc + weight * Nat.ofDigits 64 (s.map digit)) := by
  induction s generalizing weight acc with
  | nil => rfl
  | cons c s ih =>
    have hs' : ∀ c ∈ s, c ∈ alphabet := fun d hd => hs d (List.mem_cons_of_mem _ hd)
    -- the rest of the number counts from the next weight on
    have hsplit : acc + weight * Nat.ofDigits 64 ((c :: s).map digit) =
        acc + digit c * weight + 64 * weight * Nat.ofDigits 64 (s.map digit) := by
      rw [List.map_cons, Nat.ofDigits_cons]
      ring
    rw [hsplit] at hbound ⊢
    rw [readSymbols, symbolValue?_of_mem (hs c (List.mem_cons_self ..))]
    rcases hdigit : digit c with - | value
    · rw [hdigit, Nat.zero_mul, Nat.add_zero] at hbound
      rw [Nat.zero_mul, Nat.add_zero]
      exact ih hs' hbound
    · rw [hdigit] at hbound
      have hweight : weight ≤ (value + 1) * weight := Nat.le_mul_of_pos_left _ (Nat.succ_pos _)
      have hin : ¬ largest < weight := by omega
      show (if largest < weight then _ else _) = _
      rw [if_neg hin]
      exact ih hs' hbound

/-- What is read are symbols, and their number. -/
theorem of_readSymbols_eq_ok (h : readSymbols code weight acc s = .ok n) :
    (∀ c ∈ s, c ∈ alphabet) ∧ acc + weight * Nat.ofDigits 64 (s.map digit) = n := by
  induction s generalizing weight acc with
  | nil =>
    have hn : acc = n := Except.ok.inj h
    simpa using hn
  | cons c s ih =>
    rw [readSymbols] at h
    rcases hc : symbolValue? c with - | value
    · rw [hc] at h
      cases h
    · have hdigit : digit c = value := by rw [digit, hc, Option.getD_some]
      have hrest : readSymbols code (64 * weight) (acc + digit c * weight) s = .ok n := by
        rw [hc] at h
        rw [hdigit]
        rcases value with - | value
        · rw [Nat.zero_mul, Nat.add_zero]
          exact h
        · change (if largest < weight then _ else _) = _ at h
          split at h
          · cases h
          · exact h
      obtain ⟨hall, hn⟩ := ih hrest
      refine ⟨List.forall_mem_cons.2 ⟨mem_of_symbolValue? hc, hall⟩, ?_⟩
      rw [← hn, List.map_cons, Nat.ofDigits_cons]
      ring

/-- **What is a code**: the texts over the alphabet whose value is in bounds,
and they are read as that value. -/
theorem read_eq_ok_iff {text : String} {c : ShortCode} :
    read text = .ok c ↔ (∀ x ∈ text.toList, x ∈ alphabet) ∧ value text.toList = c.id := by
  rw [value_eq_ofDigits, read]
  constructor
  · intro h
    rcases hread : readSymbols text 1 0 text.toList.reverse with e | id
    · rw [hread] at h
      cases h
    · rw [hread] at h
      obtain ⟨hall, hid⟩ := of_readSymbols_eq_ok hread
      rw [Nat.zero_add, Nat.one_mul] at hid
      refine ⟨fun x hx => hall x (List.mem_reverse.2 hx), ?_⟩
      change (if h : id < 0x100000000000 then Except.ok (ShortCode.mk id h) else _) = _ at h
      split at h
      · cases h
        exact hid
      · cases h
  · rintro ⟨hall, hid⟩
    have hbound : 0 + 1 * Nat.ofDigits 64 (text.toList.reverse.map digit) ≤ largest := by
      rw [Nat.zero_add, Nat.one_mul, hid]
      exact Nat.le_of_lt_succ c.id_lt
    have hsymbols : ∀ x ∈ text.toList.reverse, x ∈ alphabet := fun x hx =>
      hall x (List.mem_reverse.1 hx)
    rw [readSymbols_eq_ok hsymbols hbound, Nat.zero_add, Nat.one_mul, hid]
    show (if h : c.id < 0x100000000000 then Except.ok (ShortCode.mk c.id h) else _) = _
    rw [dif_pos c.id_lt]

/-- Reading the text of a code gives the code. -/
theorem read_text (code : ShortCode) : read code.text = .ok code :=
  read_eq_ok_iff.2 ⟨fun _ => mem_alphabet_of_mem_text, value_text code⟩

end TextRoadmap.ShortCode
