/-
TextRoadmap/Proofs/Color/Grammar.lean

Which texts are read as colors, and what is reported of the others.

The grammar is a relation between a text and what reading it gives
(`Reading`): a rule for each of the three faults, which says when it is the
one that is reported, and a rule for each of the two forms of a color.
Reading a text gives what the relation allows and nothing else
(`read_eq_iff_reading`), so of every text exactly one rule speaks.  What is
written again is the text that was read, in lower case and in the form with
six digits (`Reading.toList_text`).
-/
import Mathlib.Data.List.Basic
import TextRoadmap.Proofs.Color.Basic

namespace TextRoadmap.Color

open TextRoadmap.Text

variable {text : String} {s digits before after : List Char} {c high low : Char}
  {x y : Nat} {byte : UInt8} {color : Color} {result : Except ColorError Color}

/-! ### The grammar -/

/-- The numbers of characters that the two forms have. -/
def HasLength (s : List Char) : Prop := s.length = 4 ∨ s.length = 7

/-- The two digits write the byte. -/
def WritesByte (high low : Char) (byte : UInt8) : Prop :=
  ∃ x y, IsHexDigit high x ∧ IsHexDigit low y ∧ byte.toNat = 16 * x + y

/-- What comes of reading a text as a color.  A fault is reported if those
that come before it are absent. -/
inductive Reading : List Char → Except ColorError Color → Prop
  | length {s : List Char} (hlength : ¬ HasLength s) : Reading s (.error (.length s.length))
  | start {c : Char} {s : List Char} (hlength : HasLength (c :: s)) (hc : c ≠ '#') :
      Reading (c :: s) (.error (.start c))
  | digit {c : Char} {before after : List Char}
      (hlength : HasLength ('#' :: (before ++ c :: after)))
      (hbefore : ∀ d ∈ before, ∃ value, IsHexDigit d value) (hc : ∀ value, ¬ IsHexDigit c value) :
      Reading ('#' :: (before ++ c :: after)) (.error (.digit c))
  | short {r g b : Char} {color : Color} (hr : WritesByte r r color.red)
      (hg : WritesByte g g color.green) (hb : WritesByte b b color.blue) :
      Reading ['#', r, g, b] (.ok color)
  | long {r r' g g' b b' : Char} {color : Color} (hr : WritesByte r r' color.red)
      (hg : WritesByte g g' color.green) (hb : WritesByte b b' color.blue) :
      Reading ['#', r, r', g, g', b, b'] (.ok color)

/-! ### Bytes -/

theorem writesByte_channel (hx : IsHexDigit high x) (hy : IsHexDigit low y) :
    WritesByte high low (channel x y) := by
  have hx16 := hx.lt
  have hy16 := hy.lt
  refine ⟨x, y, hx, hy, ?_⟩
  rw [channel, UInt8.toNat_ofNat']
  exact Nat.mod_eq_of_lt (by omega)

theorem WritesByte.exists_channel (h : WritesByte high low byte) :
    ∃ x y, IsHexDigit high x ∧ IsHexDigit low y ∧ byte = channel x y := by
  obtain ⟨x, y, hx, hy, hbyte⟩ := h
  exact ⟨x, y, hx, hy, by rw [channel, ← hbyte, UInt8.ofNat_toNat]⟩

/-- A byte is written with the same two digits, in lower case. -/
theorem WritesByte.hexByte_eq (h : WritesByte high low byte) :
    hexByte byte.toNat = [high.toLower, low.toLower] := by
  obtain ⟨x, y, hx, hy, hbyte⟩ := h
  have hx16 := hx.lt
  have hy16 := hy.lt
  have hhigh : byte.toNat / 16 = x := by omega
  have hlow : byte.toNat % 16 = y := by omega
  rw [hexByte, hhigh, hx.hexDigit_eq, ← hexDigit_mod, hlow, hy.hexDigit_eq]

/-! ### The rules leave no text out -/

/-- Three or six digits behind a hash are one of the two forms. -/
theorem exists_reading_of_digits (hlength : HasLength ('#' :: digits))
    (hdigits : ∀ c ∈ digits, ∃ value, IsHexDigit c value) :
    ∃ color, Reading ('#' :: digits) (.ok color) := by
  rcases hlength with hlength | hlength
  · obtain ⟨r, g, b, rfl⟩ := List.length_eq_three.1 (Nat.succ.inj hlength)
    simp only [List.forall_mem_cons] at hdigits
    obtain ⟨⟨x, hx⟩, ⟨y, hy⟩, ⟨z, hz⟩, -⟩ := hdigits
    exact ⟨⟨channel x x, channel y y, channel z z⟩, .short (writesByte_channel hx hx)
      (writesByte_channel hy hy) (writesByte_channel hz hz)⟩
  · match digits, hlength with
    | [r, r', g, g', b, b'], _ =>
      simp only [List.forall_mem_cons] at hdigits
      obtain ⟨⟨x, hx⟩, ⟨x', hx'⟩, ⟨y, hy⟩, ⟨y', hy'⟩, ⟨z, hz⟩, ⟨z', hz'⟩, -⟩ := hdigits
      exact ⟨⟨channel x x', channel y y', channel z z'⟩, .long (writesByte_channel hx hx')
        (writesByte_channel hy hy') (writesByte_channel hz hz')⟩

/-- Behind a hash there are digits only, or a leftmost character that is
none. -/
theorem exists_reading_of_hash (hlength : HasLength ('#' :: digits)) :
    ∃ result, Reading ('#' :: digits) result := by
  rcases hfirst : digits.find? (fun d => (hexValue? d).isNone) with - | c
  · have hdigits : ∀ d ∈ digits, ∃ value, IsHexDigit d value := by
      simpa [Option.ne_none_iff_exists', hexValue?_eq_some_iff] using hfirst
    obtain ⟨color, hcolor⟩ := exists_reading_of_digits hlength hdigits
    exact ⟨_, hcolor⟩
  · obtain ⟨hc, before, after, rfl, hbefore⟩ := List.find?_eq_some_iff_append.1 hfirst
    have hnone : ∀ value, ¬ IsHexDigit c value := by
      intro value hvalue
      rw [hexValue?_eq_some_iff.2 hvalue] at hc
      cases hc
    refine ⟨_, .digit hlength ?_ hnone⟩
    simpa [Option.isSome_iff_exists, hexValue?_eq_some_iff] using hbefore

/-- Every text is a color or has a fault. -/
theorem exists_reading (s : List Char) : ∃ result, Reading s result := by
  by_cases hlength : HasLength s
  · rcases s with - | ⟨c, digits⟩
    · simp [HasLength] at hlength
    · by_cases hc : c = '#'
      · subst hc
        exact exists_reading_of_hash hlength
      · exact ⟨_, .start hlength hc⟩
  · exact ⟨_, .length hlength⟩

/-! ### Reading follows the rules -/

theorem digitValues_cons (h : IsHexDigit c x) (s : List Char) :
    digitValues (c :: s) = (digitValues s).map (x :: ·) := by
  rw [digitValues, hexValue?_eq_some_iff.2 h]

theorem digitValues_append_cons (hbefore : ∀ d ∈ before, ∃ value, IsHexDigit d value)
    (hc : ∀ value, ¬ IsHexDigit c value) :
    digitValues (before ++ c :: after) = .error (.digit c) := by
  induction before with
  | nil =>
    have hnone : hexValue? c = none :=
      Option.eq_none_iff_forall_ne_some.2 fun value h => hc value (hexValue?_eq_some_iff.1 h)
    rw [List.nil_append, digitValues, hnone]
  | cons d before ih =>
    obtain ⟨⟨x, hx⟩, hbefore⟩ := List.forall_mem_cons.1 hbefore
    rw [List.cons_append, digitValues_cons hx, ih hbefore]
    rfl

/-- Behind a hash in a text of the right length the digits decide. -/
theorem read_of_hash (htext : text.toList = '#' :: digits) (hlength : HasLength ('#' :: digits)) :
    read text = (digitValues digits).bind fun values =>
      match ofDigits? values with
      | some color => .ok color
      | none => .error (.length text.toList.length) := by
  rw [← htext] at hlength
  rw [read, if_neg fun h => hlength.elim h.1 h.2, htext]
  rfl

/-- What the rules allow is what comes of reading. -/
theorem Reading.read_eq (h : Reading text.toList result) : read text = result := by
  generalize htext : text.toList = s at h
  cases h with
  | length hlength => rw [read, htext, if_pos (not_or.1 hlength)]
  | start hlength hc =>
    rw [read, htext, if_neg fun h => hlength.elim h.1 h.2]
    exact if_pos hc
  | digit hlength hbefore hc =>
    rw [read_of_hash htext hlength, digitValues_append_cons hbefore hc]
    rfl
  | short hr hg hb =>
    obtain ⟨x, x', hx, hx', hred⟩ := hr.exists_channel
    obtain ⟨y, y', hy, hy', hgreen⟩ := hg.exists_channel
    obtain ⟨z, z', hz, hz', hblue⟩ := hb.exists_channel
    -- a digit that stands for both halves of a byte has one value
    obtain rfl := hx.unique hx'
    obtain rfl := hy.unique hy'
    obtain rfl := hz.unique hz'
    rw [read_of_hash htext (.inl rfl), digitValues_cons hx, digitValues_cons hy,
      digitValues_cons hz]
    show Except.ok (Color.mk (channel x x) (channel y y) (channel z z)) = _
    rw [← hred, ← hgreen, ← hblue]
  | long hr hg hb =>
    obtain ⟨x, x', hx, hx', hred⟩ := hr.exists_channel
    obtain ⟨y, y', hy, hy', hgreen⟩ := hg.exists_channel
    obtain ⟨z, z', hz, hz', hblue⟩ := hb.exists_channel
    rw [read_of_hash htext (.inr rfl), digitValues_cons hx, digitValues_cons hx',
      digitValues_cons hy, digitValues_cons hy', digitValues_cons hz, digitValues_cons hz']
    show Except.ok (Color.mk (channel x x') (channel y y') (channel z z')) = _
    rw [← hred, ← hgreen, ← hblue]

theorem read_eq_iff_reading : read text = result ↔ Reading text.toList result := by
  constructor
  · -- some rule speaks of the text, and what it says is what was read
    rintro rfl
    obtain ⟨result, hresult⟩ := exists_reading text.toList
    rwa [hresult.read_eq]
  · exact Reading.read_eq

/-- Characters are counted, not bytes, and the first one comes before the
digits. -/
example : read "äbcg" = .error (.start 'ä') := by decide +kernel

/-! ### Writing again -/

/-- The form with six digits, in which each digit of the short form stands
twice. -/
def longForm : List Char → List Char
  | [hash, r, g, b] => [hash, r, r, g, g, b, b]
  | s => s

/-- A color is written in lower case and with six digits, in whichever form
and case it was read. -/
theorem Reading.toList_text (h : Reading s (.ok color)) :
    color.text.toList = (longForm s).map Char.toLower := by
  rw [Color.toList_text]
  cases h with
  | short hr hg hb => rw [hr.hexByte_eq, hg.hexByte_eq, hb.hexByte_eq]; rfl
  | long hr hg hb => rw [hr.hexByte_eq, hg.hexByte_eq, hb.hexByte_eq]; rfl

/-- **Reading and writing colors**: a text is read by the rules, with the
faults in their order; every color is written as a hash and six lower-case
digits, which are read as the color again; and the text of a color that has
been read is the text that was read in its normal form, which reading and
writing leave alone. -/
theorem read_eq_iff_and_text_eq :
    (∀ text result, read text = result ↔ Reading text.toList result) ∧
    (∀ color : Color, (∃ digits, color.text.toList = '#' :: digits ∧ digits.length = 6 ∧
      ∀ c ∈ digits, c ∈ hexDigits) ∧ read color.text = .ok color) ∧
    ∀ text color, read text = .ok color →
      color.text.toList = (longForm text.toList).map Char.toLower ∧
      (read color.text).map Color.text = .ok color.text := by
  refine ⟨fun text result => read_eq_iff_reading, fun color => ⟨?_, read_text color⟩,
    fun text color h => ⟨(read_eq_iff_reading.1 h).toList_text, ?_⟩⟩
  · refine ⟨_, toList_text color, rfl, fun c hc => ?_⟩
    rw [List.mem_append, List.mem_append] at hc
    rcases hc with hc | hc | hc <;> exact mem_hexDigits_of_mem_hexByte hc
  · rw [read_text]
    rfl

/-- A color in the short form and upper case. -/
theorem read_eq_iff_and_text_eq_short : read "#A4F" = .ok ⟨170, 68, 255⟩ ∧
    (⟨170, 68, 255⟩ : Color).text.toList = "#aa44ff".toList ∧
    (read (⟨170, 68, 255⟩ : Color).text).map Color.text = .ok "#aa44ff" := by
  have hread : read "#A4F" = .ok ⟨170, 68, 255⟩ := by decide +kernel
  exact ⟨hread, read_eq_iff_and_text_eq.2.2 "#A4F" ⟨170, 68, 255⟩ hread⟩

end TextRoadmap.Color
