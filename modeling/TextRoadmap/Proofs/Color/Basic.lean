/-
TextRoadmap/Proofs/Color/Basic.lean

Colors read back from their text (`Color.read_text`).
-/
import TextRoadmap.Color.Basic
import TextRoadmap.Proofs.Text.Digits

namespace TextRoadmap.Color

open TextRoadmap.Text

/-- The two digits of a byte are read as its two halves. -/
theorem digitValues_hexByte {n : Nat} (h : n < 256) (rest : List Char) :
    digitValues (hexByte n ++ rest) =
      (digitValues rest).map fun values => n / 16 :: n % 16 :: values := by
  have hhigh : hexValue? (hexDigit (n / 16)) = some (n / 16) := hexValue?_hexDigit (by omega)
  have hlow : hexValue? (hexDigit n) = some (n % 16) := by
    rw [← hexDigit_mod n]
    exact hexValue?_hexDigit (Nat.mod_lt _ (by decide))
  rw [hexByte, List.cons_append, List.cons_append, List.nil_append]
  simp only [digitValues, hhigh, hlow]
  cases digitValues rest <;> rfl

theorem channel_halves (b : UInt8) : channel (b.toNat / 16) (b.toNat % 16) = b := by
  rw [channel, Nat.div_add_mod, UInt8.ofNat_toNat]

/-- The text of a color is a hash and the digits of its three bytes. -/
theorem toList_text (c : Color) : c.text.toList = '#' :: (hexByte c.red.toNat ++
    (hexByte c.green.toNat ++ hexByte c.blue.toNat)) := String.toList_ofList

/-- Reading the text of a color gives the color. -/
theorem read_text (c : Color) : read c.text = .ok c := by
  have hdigits : digitValues (hexByte c.red.toNat ++ (hexByte c.green.toNat ++
      hexByte c.blue.toNat)) = .ok [c.red.toNat / 16, c.red.toNat % 16, c.green.toNat / 16,
        c.green.toNat % 16, c.blue.toNat / 16, c.blue.toNat % 16] := by
    rw [digitValues_hexByte c.red.toNat_lt, digitValues_hexByte c.green.toNat_lt,
      ← List.append_nil (hexByte c.blue.toNat), digitValues_hexByte c.blue.toNat_lt]
    rfl
  have hlength : c.text.toList.length = 7 := by rw [toList_text]; rfl
  rw [read, if_neg (by rw [hlength]; decide), toList_text]
  show (if '#' ≠ '#' then _ else _) = _
  rw [if_neg (by simp), hdigits]
  show Except.ok _ = _
  rw [channel_halves, channel_halves, channel_halves]

/-- The text of a color consists of a hash and hexadecimal digits. -/
theorem mem_text {c : Color} {x : Char} (h : x ∈ c.text.toList) : x = '#' ∨ x ∈ hexDigits := by
  rw [toList_text, List.mem_cons, List.mem_append, List.mem_append] at h
  rcases h with rfl | h | h | h
  · exact Or.inl rfl
  all_goals exact Or.inr (mem_hexDigits_of_mem_hexByte h)

end TextRoadmap.Color
