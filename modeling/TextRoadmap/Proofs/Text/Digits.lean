/-
TextRoadmap/Proofs/Text/Digits.lean

Decimal numbers read back.

The value of the digits of a number is the number (`digitsValue_decimal`),
zeros in front do not count (`digitsValue_zeroPadded`), and a run of digits
is read up to its end, or up to the number of digits that are asked for
(`readNumber?_append`).
-/
import Mathlib.Data.Nat.Init
import TextRoadmap.Text.Digits

namespace TextRoadmap.Text

variable {s run rest : List Char} {c : Char} {n : Nat}

/-- The text does not go on with a digit. -/
def NoDigit (s : List Char) : Prop := ∀ c ∈ s.head?, c.isDigit = false

@[simp] theorem noDigit_nil : NoDigit [] := by simp [NoDigit]

@[simp] theorem noDigit_cons : NoDigit (c :: s) ↔ c.isDigit = false := by simp [NoDigit]

/-! ### The digits of a number -/

theorem isDigit_of_mem_decimal (h : c ∈ decimal n) : c.isDigit = true :=
  Nat.isDigit_of_mem_toDigits (by decide) (by decide) h

@[simp] theorem decimal_ne_nil (n : Nat) : decimal n ≠ [] := Nat.toDigits_ne_nil

theorem exists_decimal_eq_cons (n : Nat) :
    ∃ c run, decimal n = c :: run ∧ c.isDigit = true := by
  obtain ⟨c, run, hrun⟩ := List.exists_cons_of_ne_nil (decimal_ne_nil n)
  exact ⟨c, run, hrun, isDigit_of_mem_decimal (by rw [hrun]; exact List.mem_cons_self ..)⟩

theorem decimal_of_lt (h : n < 10) : decimal n = [Nat.digitChar n] :=
  Nat.toDigits_of_lt_base h

theorem decimal_of_ge (h : 10 ≤ n) :
    decimal n = decimal (n / 10) ++ [Nat.digitChar (n % 10)] :=
  Nat.toDigits_of_base_le (by decide) h

theorem digitValue_digitChar (h : n < 10) : digitValue (Nat.digitChar n) = n := by
  have all : ∀ k < 10, digitValue (Nat.digitChar k) = k := by decide
  exact all n h

theorem length_decimal_le {width : Nat} (hw : 0 < width) (h : n < Nat.pow 10 width) :
    (decimal n).length ≤ width :=
  (Nat.length_toDigits_le_iff (by decide) hw).2 h

/-- Only 0 is written with a zero in front. -/
theorem head?_decimal (h : 0 < n) : (decimal n).head? ≠ some '0' := by
  induction n using Nat.strong_induction_on with
  | _ n ih =>
    rcases Nat.lt_or_ge n 10 with hlt | hge
    · have all : ∀ k < 10, 0 < k → [Nat.digitChar k].head? ≠ some '0' := by decide
      rw [decimal_of_lt hlt]
      exact all n hlt h
    · obtain ⟨c, s, hs⟩ := List.exists_cons_of_ne_nil (decimal_ne_nil (n / 10))
      have ih := ih (n / 10) (by omega) (by omega)
      rw [decimal_of_ge hge, hs, List.cons_append, List.head?_cons]
      rwa [hs, List.head?_cons] at ih

/-! ### The value of digits -/

theorem digitsValue_append (s t : List Char) :
    digitsValue (s ++ t) = t.foldl (fun n c => 10 * n + digitValue c) (digitsValue s) := by
  simp [digitsValue]

theorem digitsValue_decimal (n : Nat) : digitsValue (decimal n) = n := by
  induction n using Nat.strong_induction_on with
  | _ n ih =>
    rcases Nat.lt_or_ge n 10 with hlt | hge
    · rw [decimal_of_lt hlt]
      simp [digitsValue, digitValue_digitChar hlt]
    · rw [decimal_of_ge hge, digitsValue_append, ih (n / 10) (by omega)]
      simp only [List.foldl_cons, List.foldl_nil, digitValue_digitChar (Nat.mod_lt n (by decide))]
      omega

theorem digitsValue_zeros_append (k : Nat) (s : List Char) :
    digitsValue (List.replicate k '0' ++ s) = digitsValue s := by
  induction k with
  | zero => rfl
  | succ k ih =>
    rw [← ih]
    rfl

/-- Zeros at the end count for powers of ten. -/
theorem digitsValue_append_zeros (s : List Char) (k : Nat) :
    digitsValue (s ++ List.replicate k '0') = digitsValue s * Nat.pow 10 k := by
  induction k with
  | zero => simp
  | succ k ih =>
    have hstep : digitsValue (s ++ List.replicate k '0' ++ ['0']) =
        10 * digitsValue (s ++ List.replicate k '0') := digitsValue_append _ _
    rw [List.replicate_succ', ← List.append_assoc, hstep, ih, Nat.mul_left_comm, Nat.mul_comm 10]
    rfl

@[simp] theorem digitsValue_zeroPadded (width n : Nat) :
    digitsValue (zeroPadded width n) = n := by
  rw [zeroPadded, padLeft, digitsValue_zeros_append, digitsValue_decimal]

theorem isDigit_of_mem_zeroPadded {width : Nat} (h : c ∈ zeroPadded width n) :
    c.isDigit = true := by
  rcases List.mem_append.1 h with h | h
  · rw [List.eq_of_mem_replicate h]
    rfl
  · exact isDigit_of_mem_decimal h

theorem length_zeroPadded {width : Nat} (hw : 0 < width) (h : n < Nat.pow 10 width) :
    (zeroPadded width n).length = width := by
  have := length_decimal_le hw h
  simp [zeroPadded, padLeft]
  omega

@[simp] theorem zeroPadded_ne_nil (width n : Nat) : zeroPadded width n ≠ [] := by
  simp [zeroPadded, padLeft]

/-! ### Reading -/

/-- A run of digits is taken if it is as long as asked for, or if no digit
follows. -/
theorem takeDigits_append_of {most : Nat} (hrun : ∀ c ∈ run, c.isDigit = true)
    (hlen : run.length ≤ most) (hrest : run.length = most ∨ NoDigit rest) :
    takeDigits most (run ++ rest) = (run, rest) := by
  induction run generalizing most with
  | nil =>
    cases most with
    | zero => rfl
    | succ most =>
      have hno : NoDigit rest := hrest.resolve_left (by simp)
      cases rest with
      | nil => rfl
      | cons c rest => simp [takeDigits, noDigit_cons.1 hno]
  | cons c run ih =>
    cases most with
    | zero => simp at hlen
    | succ most =>
      have ih := ih (fun d hd => hrun d (List.mem_cons_of_mem c hd))
        (by simpa using hlen) (hrest.imp (by simp) id)
      simp [takeDigits, hrun c (List.mem_cons_self ..), ih]

/-- A number is read from its digits. -/
theorem readNumber?_append {most : Nat} (hne : run ≠ []) (hrun : ∀ c ∈ run, c.isDigit = true)
    (hlen : run.length ≤ most) (hrest : run.length = most ∨ NoDigit rest) :
    readNumber? most (run ++ rest) = some (digitsValue run, rest) := by
  obtain ⟨c, run, rfl⟩ := List.exists_cons_of_ne_nil hne
  rw [readNumber?, takeDigits_append_of hrun hlen hrest]

theorem takeDigits_snd_suffix (most : Nat) (s : List Char) : (takeDigits most s).2 <:+ s :=
  ⟨_, takeDigits_append most s⟩

theorem isNumber_of_forall (hne : s ≠ []) (h : ∀ c ∈ s, c.isDigit = true) :
    isNumber s = true := by
  simp [isNumber, hne]
  exact h

/-! ### Hexadecimal digits -/

/-- Only the low four bits count. -/
theorem hexDigit_mod (n : Nat) : hexDigit (n % 16) = hexDigit n := by simp [hexDigit]

theorem hexDigit_mem (n : Nat) : hexDigit n ∈ hexDigits := by
  have hlt : n % 16 < hexDigits.length := Nat.mod_lt _ (by decide)
  rw [hexDigit, List.getD_eq_getElem?_getD, List.getElem?_eq_getElem hlt]
  exact List.getElem_mem hlt

theorem mem_hexDigits_of_mem_hexByte (h : c ∈ hexByte n) : c ∈ hexDigits := by
  simp only [hexByte, List.mem_cons, List.not_mem_nil, or_false] at h
  rcases h with rfl | rfl <;> exact hexDigit_mem _

/-- The two digits of a byte read back as its two halves. -/
theorem mapM_hexByte {n : Nat} (h : n < 256) :
    (hexByte n).mapM hexValue? = some [n / 16, n % 16] := by
  rw [hexByte, ← hexDigit_mod n]
  simp [hexValue?_hexDigit (show n / 16 < 16 by omega),
    hexValue?_hexDigit (Nat.mod_lt n (show 0 < 16 by decide))]

/-- Outside ASCII no character changes its case. -/
theorem toLower_eq_self (h : 0x80 ≤ c.toNat) : c.toLower = c := by
  refine dif_neg ?_
  rintro ⟨-, hle⟩
  have hz : c.toNat ≤ 'Z'.toNat := UInt32.le_iff_toNat_le.1 hle
  exact absurd (Nat.le_trans h hz) (by decide)

/-- The value of a digit is the place of its lower-case form among the digits. -/
theorem hexValue?_eq_idxOf? (c : Char) : hexValue? c = hexDigits.idxOf? c.toLower := by
  have ascii : ∀ k < 0x80, hexValue? (Char.ofNat k) = hexDigits.idxOf? (Char.ofNat k).toLower := by
    decide
  rcases Nat.lt_or_ge c.toNat 0x80 with hc | hc
  · simpa using ascii c.toNat hc
  · have hbeyond : ∀ d : Char, d.toNat < 0x80 → ¬ c ≤ d := fun d hd hle =>
      absurd (Nat.le_trans hc (UInt32.le_iff_toNat_le.1 hle)) (Nat.not_le.2 hd)
    have hall : hexDigits.all (·.toNat < 0x80) = true := by decide
    have hnot : c ∉ hexDigits := fun hmem =>
      absurd hc (Nat.not_le.2 (of_decide_eq_true (List.all_eq_true.1 hall c hmem)))
    rw [toLower_eq_self hc, List.idxOf?_eq_none_iff.2 hnot, hexValue?,
      if_neg fun h => hbeyond '9' (by decide) h.2, if_neg fun h => hbeyond 'f' (by decide) h.2,
      if_neg fun h => hbeyond 'F' (by decide) h.2]

/-- The character is the hexadecimal digit with this value, in either case. -/
def IsHexDigit (c : Char) (value : Nat) : Prop := hexDigits[value]? = some c.toLower

theorem hexValue?_eq_some_iff : hexValue? c = some n ↔ IsHexDigit c n := by
  have hnodup : hexDigits.Nodup := by decide
  rw [hexValue?_eq_idxOf?, List.idxOf?_eq_some_iff, IsHexDigit, List.getElem?_eq_some_iff]
  constructor
  · rintro ⟨hlt, heq, -⟩
    exact ⟨hlt, heq⟩
  · rintro ⟨hlt, heq⟩
    refine ⟨hlt, heq, fun j hj hj' => ?_⟩
    exact List.pairwise_iff_getElem.1 hnodup j n (Nat.lt_trans hj hlt) hlt hj (hj'.trans heq.symm)

theorem IsHexDigit.lt (h : IsHexDigit c n) : n < 16 := (List.getElem?_eq_some_iff.1 h).1

theorem IsHexDigit.unique {m : Nat} (h : IsHexDigit c m) (h' : IsHexDigit c n) : m = n :=
  Option.some.inj ((hexValue?_eq_some_iff.2 h).symm.trans (hexValue?_eq_some_iff.2 h'))

/-- A digit is written again in lower case. -/
theorem IsHexDigit.hexDigit_eq (h : IsHexDigit c n) : hexDigit n = c.toLower := by
  rw [hexDigit, Nat.mod_eq_of_lt h.lt, List.getD_eq_getElem?_getD, h]
  rfl

end TextRoadmap.Text
