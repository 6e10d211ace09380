/-
TextRoadmap/Proofs/Layout/Read.lean

Reading by the pieces of a layout, step by step.

Three facts carry the later modules.  Every reader leaves an end of the text
it was given (`Element.read?_suffix`).  So a text that is a date by a layout
holds every character that the layout shows as itself, as often as the layout
does (`count_literals_le_of_parse?`).  And the numbers that are written with
two places, or as a year, read back (`readTwo?_zeroPadded`,
`readYear?_writeYear`).
-/
import TextRoadmap.Layout.Basic
import TextRoadmap.Proofs.Text.Cut
import TextRoadmap.Proofs.Text.Digits

namespace TextRoadmap.Layout

open TextRoadmap.Text TextRoadmap.Calendar

variable {s rest : List Char} {c x : Char} {n : Nat} {f f' : Fields}

/-! ### Blank space -/

theorem isBlank_of_isDigit (h : c.isDigit = true) : isBlank c = false := by
  have hc : 48 ≤ c.toNat ∧ c.toNat ≤ 57 := by
    simpa [Char.isDigit, UInt32.le_iff_toNat_le] using h
  simp only [isBlank, blankRanges, List.any_cons, List.any_nil, Bool.or_false]
  simp only [Bool.or_eq_false_iff, Bool.and_eq_false_iff, decide_eq_false_iff_not]
  omega

theorem skipBlank_suffix (s : List Char) : skipBlank s <:+ s := List.dropWhile_suffix _

theorem skipBlank_eq_self (h : ∀ c ∈ s.head?, isBlank c = false) : skipBlank s = s :=
  dropWhile_eq_self h

/-- No blank space is passed over in front of digits. -/
theorem skipBlank_digits {run : List Char} (hne : run ≠ [])
    (hrun : ∀ c ∈ run, c.isDigit = true) : skipBlank (run ++ rest) = run ++ rest := by
  obtain ⟨c, run, rfl⟩ := List.exists_cons_of_ne_nil hne
  exact skipBlank_eq_self (by simpa using isBlank_of_isDigit (hrun c (List.mem_cons_self ..)))

/-! ### Numbers that read back -/

/-- A number of two places is read whatever follows it. -/
theorem readTwo?_zeroPadded (h : n < 100) :
    readTwo? (zeroPadded 2 n ++ rest) = some (n, rest) := by
  have hdigits : ∀ c ∈ zeroPadded 2 n, c.isDigit = true := fun c => isDigit_of_mem_zeroPadded
  have hlen : (zeroPadded 2 n).length = 2 := length_zeroPadded (by decide) h
  rw [readTwo?, skipBlank_digits (by simp) hdigits,
    readNumber?_append (by simp) hdigits hlen.le (Or.inl hlen), digitsValue_zeroPadded]

/-- A year is read if no digit follows it. -/
theorem readYear?_writeYear (year : Int) (h : NoDigit rest) :
    readYear? (writeYear year ++ rest) = some (year, rest) := by
  have hdigits : ∀ c ∈ zeroPadded 4 year.natAbs, c.isDigit = true :=
    fun c => isDigit_of_mem_zeroPadded
  have hread : ∀ most, (zeroPadded 4 year.natAbs).length ≤ most →
      readNumber? most (zeroPadded 4 year.natAbs ++ rest) = some (year.natAbs, rest) := by
    intro most hlen
    rw [readNumber?_append (by simp) hdigits hlen (Or.inr h), digitsValue_zeroPadded]
  unfold writeYear
  split
  · rename_i hyear
    have hlen : (zeroPadded 4 year.natAbs).length = 4 :=
      length_zeroPadded (by decide) (show year.natAbs < 10000 by omega)
    obtain ⟨c, run, hrun⟩ := List.exists_cons_of_ne_nil (zeroPadded_ne_nil 4 year.natAbs)
    have hc : c.isDigit = true := hdigits c (by rw [hrun]; exact List.mem_cons_self ..)
    have hread := hread 4 hlen.le
    rw [readYear?, skipBlank_digits (by simp) hdigits]
    rw [hrun, List.cons_append] at hread ⊢
    -- a digit is no sign, so at most four digits are read
    split
    · rename_i heq
      obtain ⟨rfl, -⟩ := List.cons.inj heq
      exact absurd hc (by decide)
    · rename_i heq
      obtain ⟨rfl, -⟩ := List.cons.inj heq
      exact absurd hc (by decide)
    · rw [hread]
      simp only [Option.map_some, Option.some.injEq, Prod.mk.injEq, and_true]
      omega
  · rename_i hyear
    -- behind a sign any number of digits is read
    have hread := hread (zeroPadded 4 year.natAbs ++ rest).length (by simp)
    rcases Int.lt_or_le year 0 with hneg | hpos
    · rw [if_pos hneg, List.cons_append, readYear?, skipBlank_eq_self (by simp; decide)]
      simp only [hread, Option.map_some, Option.some.injEq, Prod.mk.injEq, and_true]
      omega
    · rw [if_neg (by omega), List.cons_append, readYear?, skipBlank_eq_self (by simp; decide)]
      simp only [hread, Option.map_some, Option.some.injEq, Prod.mk.injEq, and_true]
      omega

/-! ### What a reader leaves -/

theorem readNumber?_suffix {most : Nat} (h : readNumber? most s = some (n, rest)) : rest <:+ s := by
  have hsuffix := takeDigits_snd_suffix most s
  rw [readNumber?] at h
  rcases htake : takeDigits most s with ⟨run, after⟩
  rw [htake] at h hsuffix
  cases run with
  | nil => simp at h
  | cons c run =>
    obtain ⟨-, rfl⟩ := Prod.mk.inj (Option.some.inj h)
    exact hsuffix

theorem readTwo?_suffix (h : readTwo? s = some (n, rest)) : rest <:+ s :=
  (readNumber?_suffix h).trans (skipBlank_suffix s)

theorem readYear?_suffix {year : Int} (h : readYear? s = some (year, rest)) : rest <:+ s := by
  refine List.IsSuffix.trans ?_ (skipBlank_suffix s)
  unfold readYear? at h
  split at h <;> obtain ⟨⟨m, after⟩, hread, heq⟩ := Option.map_eq_some_iff.1 h <;>
    obtain ⟨-, rfl⟩ := Prod.mk.inj heq
  · rename_i t hs
    rw [hs]
    exact (readNumber?_suffix hread).trans (List.suffix_cons ..)
  · rename_i t hs
    rw [hs]
    exact (readNumber?_suffix hread).trans (List.suffix_cons ..)
  · exact readNumber?_suffix hread

theorem stripName?_suffix {name : List Char} (h : stripName? name s = some rest) : rest <:+ s := by
  fun_induction stripName? name s with
  | case1 s =>
    obtain rfl := Option.some.inj h
    exact List.suffix_rfl
  | case2 => simp at h
  | case3 a name c s hac ih => exact (ih h).trans (List.suffix_cons c s)
  | case4 => simp at h

theorem readAbbreviation?_suffix {names : List String}
    (h : readAbbreviation? names s = some (n, rest)) : rest <:+ s := by
  obtain ⟨⟨name, i⟩, -, hi⟩ := List.exists_of_findSome?_eq_some h
  obtain ⟨after, hafter, heq⟩ := Option.map_eq_some_iff.1 hi
  obtain ⟨-, rfl⟩ := Prod.mk.inj heq
  exact stripName?_suffix hafter

theorem readName?_suffix {names : List String}
    (h : readName? names s = some (n, rest)) : rest <:+ s := by
  obtain ⟨⟨i, after⟩, habbr, heq⟩ := Option.map_eq_some_iff.1 h
  obtain ⟨-, rfl⟩ := Prod.mk.inj heq
  refine List.IsSuffix.trans ?_ (readAbbreviation?_suffix habbr)
  rcases hstrip : stripName? ((names.getD i "").toList.drop 3) after with - | t
  · exact List.suffix_rfl
  · exact stripName?_suffix hstrip

theorem readMeridiem?_suffix {afternoon : Bool}
    (h : readMeridiem? s = some (afternoon, rest)) : rest <:+ s := by
  unfold readMeridiem? at h
  split at h
  · rename_i t ht
    obtain ⟨-, rfl⟩ := Prod.mk.inj (Option.some.inj h)
    exact stripName?_suffix ht
  · obtain ⟨t, ht, heq⟩ := Option.map_eq_some_iff.1 h
    obtain ⟨-, rfl⟩ := Prod.mk.inj heq
    exact stripName?_suffix ht

theorem readSign?_suffix {sign : Int} (h : readSign? s = some (sign, rest)) : rest <:+ s := by
  unfold readSign? at h
  split at h
  all_goals first
    | obtain ⟨-, rfl⟩ := Prod.mk.inj (Option.some.inj h)
      exact List.suffix_cons ..
    | simp at h

theorem readPair?_suffix (h : readPair? s = some (n, rest)) : rest <:+ s := by
  unfold readPair? at h
  split at h
  · split at h
    · obtain ⟨-, rfl⟩ := Prod.mk.inj (Option.some.inj h)
      exact (List.suffix_cons ..).trans (List.suffix_cons ..)
    · simp at h
  · simp at h

theorem readOffset?_suffix {minutes : Int} (h : readOffset? s = some (minutes, rest)) :
    rest <:+ s := by
  obtain ⟨⟨sign, t⟩, hsign, h⟩ := Option.bind_eq_some_iff.1 h
  obtain ⟨⟨hours, t'⟩, hhours, h⟩ := Option.bind_eq_some_iff.1 h
  obtain ⟨⟨m, t''⟩, hm, h⟩ := Option.bind_eq_some_iff.1 h
  dsimp only at h
  split at h
  · obtain ⟨-, rfl⟩ := Prod.mk.inj (Option.some.inj h)
    exact (readPair?_suffix hm).trans
      ((List.dropWhile_suffix _).trans ((readPair?_suffix hhours).trans (readSign?_suffix hsign)))
  · simp at h

theorem readInto?_suffix {α : Type} {read : List Char → Option (α × List Char)}
    {store : α → Option Fields} (hread : ∀ {a rest}, read s = some (a, rest) → rest <:+ s)
    (h : readInto? read store s = some (f, rest)) : rest <:+ s := by
  obtain ⟨⟨a, t⟩, ha, h⟩ := Option.bind_eq_some_iff.1 h
  obtain ⟨g, -, heq⟩ := Option.map_eq_some_iff.1 h
  obtain ⟨-, rfl⟩ := Prod.mk.inj heq
  exact hread ha

theorem Element.read?_suffix (e : Element) (h : e.read? f s = some (f', rest)) : rest <:+ s := by
  cases e with
  | year => exact readInto?_suffix readYear?_suffix h
  | shortYear => exact readInto?_suffix readTwo?_suffix h
  | month => exact readInto?_suffix readTwo?_suffix h
  | monthName =>
    simp only [Element.read?] at h
    exact readInto?_suffix readName?_suffix h
  | monthAbbreviation =>
    simp only [Element.read?] at h
    exact readInto?_suffix readAbbreviation?_suffix h
  | weekdayName => exact readInto?_suffix readName?_suffix h
  | weekdayAbbreviation => exact readInto?_suffix readAbbreviation?_suffix h
  | day => exact readInto?_suffix readTwo?_suffix h
  | hour => exact readInto?_suffix readTwo?_suffix h
  | hour12 => exact readInto?_suffix readTwo?_suffix h
  | minute => exact readInto?_suffix readTwo?_suffix h
  | second => exact readInto?_suffix readTwo?_suffix h
  | meridiem => exact readInto?_suffix readMeridiem?_suffix h
  | offset =>
    simp only [Element.read?] at h
    refine readInto?_suffix (fun hread => ?_) h
    exact (readOffset?_suffix hread).trans (skipBlank_suffix s)

/-! ### The characters of a date -/

/-- How often the pieces show the character as itself. -/
def literals (c : Char) (pieces : List Piece) : Nat := pieces.count (.literal c)

/-- A piece takes from the text what it shows. -/
theorem Piece.count_le_of_read? (hx : isBlank x = false) {piece : Piece}
    (h : piece.read? f s = some (f', rest)) : literals x [piece] + rest.count x ≤ s.count x := by
  cases piece with
  | token text e =>
    have hzero : literals x [.token text e] = 0 := by simp [literals]
    rw [hzero, Nat.zero_add]
    exact (Element.read?_suffix e h).sublist.count_le x
  | literal c =>
    simp only [Piece.read?] at h
    split at h
    · -- a blank takes any number of blanks, and so none of the characters that count
      rename_i hblank
      obtain ⟨-, rfl⟩ := Prod.mk.inj (Option.some.inj h)
      have hne : c ≠ x := by
        rintro rfl
        simp [hx] at hblank
      have hzero : literals x [.literal c] = 0 := by simp [literals, hne]
      rw [hzero, Nat.zero_add]
      exact (skipBlank_suffix s).sublist.count_le x
    · obtain ⟨t, ht, heq⟩ := Option.map_eq_some_iff.1 h
      obtain ⟨-, rfl⟩ := Prod.mk.inj heq
      rw [stripPrefix?_eq_some_iff.1 ht]
      by_cases hc : c = x
      · simp [literals, hc]
        omega
      · simp [literals, hc]

theorem readPieces?_cons (piece : Piece) (pieces : List Piece) (f : Fields) (s : List Char) :
    readPieces? (piece :: pieces) f s =
      (piece.read? f s).bind fun fs => readPieces? pieces fs.1 fs.2 := rfl

theorem count_le_of_readPieces? (hx : isBlank x = false) {pieces : List Piece}
    (h : readPieces? pieces f s = some (f', rest)) :
    literals x pieces + rest.count x ≤ s.count x := by
  induction pieces generalizing f s with
  | nil =>
    obtain ⟨-, rfl⟩ := Prod.mk.inj (Option.some.inj h)
    simp [literals]
  | cons piece pieces ih =>
    rw [readPieces?_cons] at h
    obtain ⟨⟨g, t⟩, hpiece, h⟩ := Option.bind_eq_some_iff.1 h
    have h₁ := Piece.count_le_of_read? hx hpiece
    have h₂ := ih h
    dsimp only at h₂
    have hadd : literals x (piece :: pieces) = literals x [piece] + literals x pieces := by
      simp only [literals, List.count_cons, List.count_nil]
      omega
    omega

end TextRoadmap.Layout
