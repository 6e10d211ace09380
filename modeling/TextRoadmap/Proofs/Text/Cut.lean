/-
TextRoadmap/Proofs/Text/Cut.lean

Laws of cutting and trimming.

Trimming takes from the ends what is to be trimmed and nothing else, so it
keeps the number of all other characters (`count_trim`).  Cutting at the
last mark and at `", "` undoes putting the mark or the separator there, as
long as the parts themselves do not hold it (`splitLast?_append`,
`commaSplit_commaJoin`).
-/
import Mathlib.Data.List.TakeWhile
import TextRoadmap.Text.Cut

namespace TextRoadmap.Text

variable {p : Char → Bool} {s t : List Char} {c mark : Char}

/-! ### Trimming -/

/-- Neither end of the text is to be trimmed. -/
structure Trimmed (p : Char → Bool) (s : List Char) : Prop where
  head : ∀ c ∈ s.head?, p c = false
  last : ∀ c ∈ s.getLast?, p c = false

theorem trimmed_iff_all : Trimmed p s ↔
    (s.head?.all fun c => !p c) = true ∧ (s.getLast?.all fun c => !p c) = true := by
  simp only [Option.all_eq_true, Bool.not_eq_true']
  exact ⟨fun h => ⟨h.head, h.last⟩, fun h => ⟨h.1, h.2⟩⟩

instance : Decidable (Trimmed p s) := decidable_of_iff _ trimmed_iff_all.symm

@[simp] theorem trimmed_nil : Trimmed p [] := ⟨by simp, by simp⟩

theorem dropWhile_eq_self (h : ∀ c ∈ s.head?, p c = false) : s.dropWhile p = s := by
  cases s with
  | nil => rfl
  | cons c s => simp [h c rfl]

theorem head?_dropWhile (p : Char → Bool) (s : List Char) :
    ∀ c ∈ (s.dropWhile p).head?, p c = false := by
  intro c hc
  have := List.head?_dropWhile_not p s
  simp only [Option.mem_def] at hc
  simpa [hc] using this

theorem dropWhile_append_of_forall (h : ∀ c ∈ s, p c = true) :
    (s ++ t).dropWhile p = t.dropWhile p := by
  rw [List.dropWhile_append_of_pos h]

theorem trimEnd_eq_self (h : ∀ c ∈ s.getLast?, p c = false) : trimEnd p s = s := by
  rw [trimEnd, dropWhile_eq_self (by simpa using h), List.reverse_reverse]

theorem trim_eq_self (h : Trimmed p s) : trim p s = s := by
  rw [trim, dropWhile_eq_self h.head, trimEnd_eq_self h.last]

/-- What is left after trimming in front ends like the whole. -/
theorem mem_getLast?_of_dropWhile (h : c ∈ (s.dropWhile p).getLast?) : c ∈ s.getLast? := by
  obtain ⟨start, hs⟩ := List.dropWhile_suffix (l := s) p
  rw [← hs, List.getLast?_append, Option.mem_def.1 h]
  rfl

/-- What is to be trimmed in front disappears. -/
theorem trimEnd_append_right (h : ∀ c ∈ t, p c = true) : trimEnd p (s ++ t) = trimEnd p s := by
  rw [trimEnd, List.reverse_append, dropWhile_append_of_forall (by simpa using h), trimEnd]

/-- What is to be trimmed at the end disappears. -/
theorem trim_append_right (h : ∀ c ∈ t, p c = true) : trim p (s ++ t) = trim p s := by
  rw [trim, List.dropWhile_append]
  split
  · rename_i hs
    have hs : s.dropWhile p = [] := by simpa using hs
    have ht : t.dropWhile p = [] := List.dropWhile_eq_nil_iff.2 h
    rw [trim, hs, ht]
  · rw [trimEnd_append_right h, trim]

/-- What is trimmed at the end is to be trimmed. -/
theorem exists_trimEnd_append (p : Char → Bool) (s : List Char) :
    ∃ t, s = trimEnd p s ++ t ∧ ∀ c ∈ t, p c = true := by
  refine ⟨(s.reverse.takeWhile p).reverse, ?_, ?_⟩
  · rw [trimEnd, ← List.reverse_append, List.takeWhile_append_dropWhile, List.reverse_reverse]
  · intro c hc
    exact List.mem_takeWhile_imp (List.mem_reverse.1 hc)

/-- A character that is not trimmed protects everything before it. -/
theorem trimEnd_append_cons (h : p c = false) (s t : List Char) :
    trimEnd p (s ++ c :: t) = s ++ c :: trimEnd p t := by
  rw [trimEnd, List.reverse_append, List.reverse_cons, List.append_assoc, List.dropWhile_append]
  split
  · rename_i ht
    have ht : t.reverse.dropWhile p = [] := List.isEmpty_iff.1 ht
    simp [trimEnd, ht, h]
  · simp [trimEnd]

theorem trimEnd_append (h : ∃ c ∈ t, p c = false) (s : List Char) :
    trimEnd p (s ++ t) = s ++ trimEnd p t := by
  obtain ⟨c, hmem, hc⟩ := h
  obtain ⟨before, after, rfl⟩ := List.append_of_mem hmem
  rw [← List.append_assoc, trimEnd_append_cons hc, trimEnd_append_cons hc, List.append_assoc]

theorem trim_isPrefix (p : Char → Bool) (s : List Char) : trim p s <+: s.dropWhile p := by
  rw [trim, trimEnd, ← List.reverse_suffix, List.reverse_reverse]
  exact List.dropWhile_suffix p

theorem trimmed_trim (p : Char → Bool) (s : List Char) : Trimmed p (trim p s) := by
  refine ⟨fun c hc => ?_, fun c hc => ?_⟩
  · -- the head of the trimmed text is the head of what is left after trimming in front
    obtain ⟨u, hu⟩ := trim_isPrefix p s
    refine head?_dropWhile p s c ?_
    rw [← hu]
    simp only [Option.mem_def] at hc
    simp [List.head?_append, hc]
  · refine head?_dropWhile p (s.dropWhile p).reverse c ?_
    simpa [trim, trimEnd] using hc

theorem mem_of_mem_trim (h : c ∈ trim p s) : c ∈ s := by
  have h' : c ∈ (s.dropWhile p).reverse :=
    (List.dropWhile_suffix p).subset (by simpa [trim, trimEnd] using h)
  exact (List.dropWhile_suffix p).subset (by simpa using h')

theorem count_dropWhile (h : p c = false) (s : List Char) :
    (s.dropWhile p).count c = s.count c := by
  induction s with
  | nil => rfl
  | cons d s ih =>
    cases hd : p d with
    | false => simp [hd]
    | true =>
      have hdc : d ≠ c := by
        rintro rfl
        simp [h] at hd
      simp [hd, ih, hdc]

/-- All other characters stay. -/
theorem count_trim (h : p c = false) (s : List Char) : (trim p s).count c = s.count c := by
  rw [trim, trimEnd, List.count_reverse, count_dropWhile h, List.count_reverse,
    count_dropWhile h]

/-! ### Runs -/

/-- A run ends where the next text begins with a character outside of it. -/
theorem takeWhile_append_of_head? (h : ∀ c ∈ t.head?, p c = false) :
    (s ++ t).takeWhile p = s.takeWhile p := by
  induction s with
  | nil =>
    cases t with
    | nil => rfl
    | cons c t => simp [h c rfl]
  | cons c s ih =>
    cases hc : p c with
    | false => simp [hc]
    | true => simpa [hc] using ih

theorem dropWhile_append_of_head? (h : ∀ c ∈ t.head?, p c = false) :
    (s ++ t).dropWhile p = s.dropWhile p ++ t := by
  induction s with
  | nil => exact dropWhile_eq_self h
  | cons c s ih =>
    cases hc : p c with
    | false => simp [hc]
    | true => simpa [hc] using ih

/-! ### Cutting at the last mark -/

theorem splitLast?_eq_none (h : mark ∉ s) : splitLast? mark s = none := by
  induction s with
  | nil => rfl
  | cons c s ih =>
    simp only [List.mem_cons, not_or] at h
    simp [splitLast?, ih h.2, Ne.symm h.1]

/-- The last mark is the one after which there is none. -/
theorem splitLast?_append (h : mark ∉ t) (s : List Char) :
    splitLast? mark (s ++ mark :: t) = some (s, t) := by
  induction s with
  | nil => simp [splitLast?, splitLast?_eq_none h]
  | cons c s ih => simp [splitLast?, ih]

theorem splitLast?_eq_none_iff : splitLast? mark s = none ↔ mark ∉ s :=
  ⟨fun h hmem => splitLast?_ne_none hmem h, splitLast?_eq_none⟩

/-! ### Fixed beginnings and ends -/

theorem stripPrefix?_append (s t : List Char) : stripPrefix? s (s ++ t) = some t :=
  stripPrefix?_eq_some_iff.2 rfl

theorem stripPrefix?_eq_none_iff : stripPrefix? s t = none ↔ ¬ s <+: t := by
  rw [Option.eq_none_iff_forall_ne_some]
  constructor
  · rintro h ⟨rest, rfl⟩
    exact h rest (stripPrefix?_append s rest)
  · intro h rest hr
    exact h ⟨rest, (stripPrefix?_eq_some_iff.1 hr).symm⟩

theorem stripSuffix?_append (s t : List Char) : stripSuffix? t (s ++ t) = some s := by
  rw [stripSuffix?, List.reverse_append, stripPrefix?_append]
  simp

theorem stripSuffix?_eq_some_iff {rest : List Char} :
    stripSuffix? t s = some rest ↔ s = rest ++ t := by
  constructor
  · intro h
    obtain ⟨u, hu, rfl⟩ := Option.map_eq_some_iff.1 h
    have hrev := stripPrefix?_eq_some_iff.1 hu
    rw [← List.reverse_inj, hrev]
    simp
  · rintro rfl
    exact stripSuffix?_append rest t

/-- A text that begins with a character which the first part lacks stands in
the second. -/
theorem cons_isInfix_append_iff {rest : List Char} (h : c ∉ s) :
    c :: t <:+: s ++ rest ↔ c :: t <:+: rest := by
  induction s with
  | nil => rfl
  | cons d s ih =>
    rw [List.mem_cons, not_or] at h
    rw [List.cons_append, List.infix_cons_iff, ih h.2, List.cons_prefix_cons]
    simp [h.1]

/-! ### Cutting at a comma and a space -/

theorem commaJoin_cons {piece : List Char} {pieces : List (List Char)} (h : pieces ≠ []) :
    commaJoin (piece :: pieces) = piece ++ ',' :: ' ' :: commaJoin pieces := by
  obtain ⟨q, qs, rfl⟩ := List.exists_cons_of_ne_nil h
  simp [commaJoin, List.intercalate]

@[simp] theorem commaJoin_singleton (piece : List Char) : commaJoin [piece] = piece := by
  simp [commaJoin, List.intercalate]

theorem commaJoin_pair (piece other : List Char) :
    commaJoin [piece, other] = piece ++ ',' :: ' ' :: other := by
  rw [commaJoin_cons (by simp), commaJoin_singleton]

theorem commaJoin_append {pieces others : List (List Char)} (hne : pieces ≠ [])
    (hothers : others ≠ []) :
    commaJoin (pieces ++ others) = commaJoin pieces ++ ',' :: ' ' :: commaJoin others := by
  induction pieces with
  | nil => exact absurd rfl hne
  | cons piece pieces ih =>
    by_cases hp : pieces = []
    · rw [hp, List.singleton_append, commaJoin_cons hothers, commaJoin_singleton]
    · rw [List.cons_append, commaJoin_cons (by simp [hp]), ih hp, commaJoin_cons hp]
      simp

theorem commaJoin_ne_nil {pieces : List (List Char)} (hne : pieces ≠ [])
    (h : ∀ piece ∈ pieces, piece ≠ []) : commaJoin pieces ≠ [] := by
  obtain ⟨piece, pieces, rfl⟩ := List.exists_cons_of_ne_nil hne
  by_cases hp : pieces = []
  · rw [hp, commaJoin_singleton]
    exact h piece (List.mem_cons_self ..)
  · rw [commaJoin_cons hp]
    simp

theorem mem_commaJoin {pieces : List (List Char)} (h : c ∈ commaJoin pieces) :
    c = ',' ∨ c = ' ' ∨ ∃ piece ∈ pieces, c ∈ piece := by
  induction pieces with
  | nil => cases h
  | cons piece pieces ih =>
    by_cases hne : pieces = []
    · subst hne
      rw [commaJoin_singleton] at h
      exact Or.inr (Or.inr ⟨piece, List.mem_cons_self .., h⟩)
    · rw [commaJoin_cons hne] at h
      simp only [List.mem_append, List.mem_cons] at h
      rcases h with h | h | h | h
      · exact Or.inr (Or.inr ⟨piece, List.mem_cons_self .., h⟩)
      · exact Or.inl h
      · exact Or.inr (Or.inl h)
      · rcases ih h with h | h | ⟨q, hq, hc⟩
        · exact Or.inl h
        · exact Or.inr (Or.inl h)
        · exact Or.inr (Or.inr ⟨q, List.mem_cons_of_mem _ hq, hc⟩)

/-- What stands in a piece stands in the pieces put together. -/
theorem mem_intercalate_of_mem (separator : List Char) {piece : List Char}
    {pieces : List (List Char)} (hp : piece ∈ pieces) (hc : c ∈ piece) :
    c ∈ separator.intercalate pieces := by
  induction pieces with
  | nil => cases hp
  | cons q pieces ih =>
    rcases pieces with - | ⟨next, rest⟩
    · rw [List.mem_singleton] at hp
      rwa [List.intercalate_singleton, ← hp]
    · rw [List.intercalate_cons_cons, List.mem_append, List.mem_append]
      rcases List.mem_cons.1 hp with rfl | hp
      · exact Or.inl (Or.inl hc)
      · exact Or.inr (ih hp)

theorem mem_commaJoin_of_mem {piece : List Char} {pieces : List (List Char)}
    (hp : piece ∈ pieces) (hc : c ∈ piece) : c ∈ commaJoin pieces :=
  mem_intercalate_of_mem [',', ' '] hp hc

theorem not_mem_commaJoin {pieces : List (List Char)} (hcomma : c ≠ ',') (hspace : c ≠ ' ')
    (h : ∀ piece ∈ pieces, c ∉ piece) : c ∉ commaJoin pieces := by
  intro hmem
  rcases mem_commaJoin hmem with rfl | rfl | ⟨piece, hp, hc⟩
  · exact hcomma rfl
  · exact hspace rfl
  · exact h piece hp hc

/-- A character that does not begin a separator belongs to the first piece. -/
theorem commaSplit_cons_of_not (h : ¬ [',', ' '] <+: c :: s) :
    ∃ piece pieces, commaSplit s = piece :: pieces ∧
      commaSplit (c :: s) = (c :: piece) :: pieces := by
  obtain ⟨piece, pieces, hs⟩ := List.exists_cons_of_ne_nil (commaSplit_ne_nil s)
  refine ⟨piece, pieces, hs, ?_⟩
  rw [commaSplit.eq_def]
  split
  · rename_i heq
    simp at heq
  · rename_i rest heq
    obtain ⟨rfl, rfl⟩ := List.cons.inj heq
    exact absurd ⟨rest, rfl⟩ h
  · rename_i d rest _ heq
    obtain ⟨rfl, rfl⟩ := List.cons.inj heq
    rw [hs]

/-- A separator begins a further piece. -/
theorem length_commaSplit_cons (c : Char) (s : List Char) :
    (commaSplit (c :: s)).length =
      (commaSplit s).length + if [',', ' '] <+: c :: s then 1 else 0 := by
  split
  · rename_i hsep
    obtain ⟨rest, hrest⟩ := hsep
    obtain ⟨rfl, rfl⟩ := List.cons.inj hrest
    -- the blank of the separator begins no separator itself
    have hblank : ¬ [',', ' '] <+: ' ' :: rest := by simp
    obtain ⟨piece, pieces, hpiece, hcons⟩ := commaSplit_cons_of_not hblank
    show (commaSplit (',' :: ' ' :: rest)).length = (commaSplit (' ' :: rest)).length + 1
    rw [hcons, commaSplit, hpiece]
    rfl
  · rename_i hsep
    obtain ⟨piece, pieces, hpiece, hcons⟩ := commaSplit_cons_of_not hsep
    rw [hcons, hpiece]
    rfl

/-- A text without a comma begins no piece. -/
theorem length_commaSplit_append (h : ',' ∉ s) (t : List Char) :
    (commaSplit (s ++ t)).length = (commaSplit t).length := by
  induction s with
  | nil => rfl
  | cons c s ih =>
    rw [List.mem_cons, not_or] at h
    rw [List.cons_append, length_commaSplit_cons, if_neg (by simp [h.1]), ih h.2, Nat.add_zero]

/-- A text without the separator is one piece. -/
theorem commaSplit_eq_singleton (h : ¬ [',', ' '] <:+: s) : commaSplit s = [s] := by
  induction s with
  | nil => rfl
  | cons c s ih =>
    have hs : ¬ [',', ' '] <:+: s := fun hs => h (hs.trans (List.suffix_cons c s).isInfix)
    obtain ⟨piece, pieces, hpiece, hcons⟩ :=
      commaSplit_cons_of_not (fun hpre => h hpre.isInfix : ¬ [',', ' '] <+: c :: s)
    rw [ih hs] at hpiece
    obtain ⟨rfl, rfl⟩ := List.cons.inj hpiece
    exact hcons

/-- A separator ends the pieces in front of it. -/
theorem commaSplit_append_separator (s t : List Char) :
    commaSplit (s ++ ',' :: ' ' :: t) = commaSplit s ++ commaSplit t := by
  fun_induction commaSplit s with
  | case1 => rfl
  | case2 rest ih => exact congrArg ([] :: ·) ih
  | case3 c rest _ hn => exact absurd hn (commaSplit_ne_nil rest)
  | case4 c rest hc piece pieces hp ih =>
    -- the comma of the separator could only be taken for one after the last character
    have hnot : ¬ [',', ' '] <+: c :: (rest ++ ',' :: ' ' :: t) := by
      rintro ⟨more, hmore⟩
      rcases rest with - | ⟨d, rest⟩
      · simp at hmore
      · simp only [List.cons_append, List.nil_append, List.cons.injEq] at hmore
        exact hc rest hmore.1.symm (by rw [← hmore.2.1])
    obtain ⟨first, others, hfirst, hcons⟩ := commaSplit_cons_of_not hnot
    rw [ih, hp, List.cons_append] at hfirst
    obtain ⟨rfl, rfl⟩ := List.cons.inj hfirst
    exact hcons

/-- Each of several texts is cut on its own. -/
theorem commaSplit_commaJoin_flatMap {pieces : List (List Char)} (hne : pieces ≠ []) :
    commaSplit (commaJoin pieces) = pieces.flatMap commaSplit := by
  induction pieces with
  | nil => exact absurd rfl hne
  | cons piece pieces ih =>
    rcases eq_or_ne pieces [] with rfl | hp
    · rw [commaJoin_singleton, List.flatMap_singleton]
    · rw [commaJoin_cons hp, commaSplit_append_separator, ih hp, List.flatMap_cons]

theorem flatMap_commaSplit {pieces : List (List Char)}
    (h : ∀ piece ∈ pieces, ¬ [',', ' '] <:+: piece) : pieces.flatMap commaSplit = pieces := by
  induction pieces with
  | nil => rfl
  | cons piece pieces ih =>
    rw [List.flatMap_cons, commaSplit_eq_singleton (h piece (List.mem_cons_self ..)),
      ih fun q hq => h q (List.mem_cons_of_mem _ hq), List.singleton_append]

/-- Pieces without the separator are found again. -/
theorem commaSplit_commaJoin {pieces : List (List Char)} (hne : pieces ≠ [])
    (h : ∀ piece ∈ pieces, ¬ [',', ' '] <:+: piece) : commaSplit (commaJoin pieces) = pieces := by
  rw [commaSplit_commaJoin_flatMap hne, flatMap_commaSplit h]

end TextRoadmap.Text
