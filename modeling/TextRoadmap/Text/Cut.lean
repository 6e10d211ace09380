/-
TextRoadmap/Text/Cut.lean

Cutting and trimming runs of characters.  Everything that this library reads
is cut up with the few functions below: a roadmap into lines, a line into its
title and its extra block, an extra block into tokens, a web address into its
parts.

Each function is a structural recursion on the characters, and each comes
with the small facts that later modules cite instead of unfolding it.  The
one worth naming here is `commaJoin_commaSplit`: cutting at `", "` loses
nothing.
-/

namespace TextRoadmap.Text

/-! ### Trimming -/

/-- The characters without the run at the end that satisfies `p`. -/
def trimEnd (p : Char → Bool) (s : List Char) : List Char :=
  (s.reverse.dropWhile p).reverse

/-- The characters without the runs at both ends that satisfy `p`. -/
def trim (p : Char → Bool) (s : List Char) : List Char :=
  trimEnd p (s.dropWhile p)

/-- A character that is not trimmed protects everything before it. -/
theorem trimEnd_concat_of_not {p : Char → Bool} {c : Char} (h : p c = false)
    (s : List Char) : trimEnd p (s ++ [c]) = s ++ [c] := by
  simp [trimEnd, h]

/-! ### Fixed beginnings -/

/-- What follows `start` in `s`, if `s` begins with it. -/
def stripPrefix? : (start s : List Char) → Option (List Char)
  | [], s => some s
  | _ :: _, [] => none
  | a :: start, c :: s => if a = c then stripPrefix? start s else none

/-- `stripPrefix?` succeeds exactly on the texts that begin with `start`. -/
theorem stripPrefix?_eq_some_iff {start s rest : List Char} :
    stripPrefix? start s = some rest ↔ s = start ++ rest := by
  induction start generalizing s with
  | nil => simp [stripPrefix?]
  | cons a start ih =>
    cases s with
    | nil => simp [stripPrefix?]
    | cons c s =>
      by_cases h : a = c
      · simp [stripPrefix?, h, ih]
      · simp [stripPrefix?, h, Ne.symm h]

/-- What precedes `ending` in `s`, if `s` ends with it. -/
def stripSuffix? (ending s : List Char) : Option (List Char) :=
  (stripPrefix? ending.reverse s.reverse).map List.reverse

/-! ### Cutting at a character -/

/-- The parts of `s` before and after the last `mark`, if there is one. -/
def splitLast? (mark : Char) : List Char → Option (List Char × List Char)
  | [] => none
  | c :: rest =>
    match splitLast? mark rest with
    | some (before, after) => some (c :: before, after)
    | none => if c = mark then some ([], rest) else none

/-- A text that holds the mark is cut. -/
theorem splitLast?_ne_none {mark : Char} {s : List Char} (h : mark ∈ s) :
    splitLast? mark s ≠ none := by
  induction s with
  | nil => simp at h
  | cons c rest ih =>
    intro hn
    cases hr : splitLast? mark rest with
    | some parts => simp [splitLast?, hr] at hn
    | none =>
      rcases List.mem_cons.1 h with rfl | hmem
      · simp [splitLast?, hr] at hn
      · exact ih hmem hr

/-- The two parts and the mark between them are the whole text, and the
second part holds no further mark. -/
theorem eq_of_splitLast? {mark : Char} {s before after : List Char}
    (h : splitLast? mark s = some (before, after)) :
    s = before ++ mark :: after ∧ mark ∉ after := by
  induction s generalizing before after with
  | nil => simp [splitLast?] at h
  | cons c rest ih =>
    rcases hr : splitLast? mark rest with - | ⟨b, a⟩
    · simp only [splitLast?, hr] at h
      split at h
      · rename_i hc
        simp only [Option.some.injEq, Prod.mk.injEq] at h
        obtain ⟨rfl, rfl⟩ := h
        exact ⟨by simp [hc], fun hmem => splitLast?_ne_none hmem hr⟩
      · simp at h
    · simp only [splitLast?, hr, Option.some.injEq, Prod.mk.injEq] at h
      obtain ⟨rfl, rfl⟩ := h
      obtain ⟨rfl, ha⟩ := ih hr
      exact ⟨rfl, ha⟩

/-! ### Cutting at a comma and a space -/

/-- The pieces of `s` between the separators `", "`, left to right.  There is
always at least one piece. -/
def commaSplit : List Char → List (List Char)
  | [] => [[]]
  | ',' :: ' ' :: rest => [] :: commaSplit rest
  | c :: rest =>
    match commaSplit rest with
    | [] => [[c]]
    | piece :: pieces => (c :: piece) :: pieces

/-- The pieces written one after the other with `", "` between them. -/
def commaJoin (pieces : List (List Char)) : List Char :=
  [',', ' '].intercalate pieces

theorem commaSplit_ne_nil (s : List Char) : commaSplit s ≠ [] := by
  fun_cases commaSplit s <;> simp_all

/-- Cutting at `", "` loses nothing. -/
theorem commaJoin_commaSplit (s : List Char) : commaJoin (commaSplit s) = s := by
  fun_induction commaSplit s with
  | case1 => rfl
  | case2 rest ih =>
    obtain ⟨p, ps, hp⟩ := List.exists_cons_of_ne_nil (commaSplit_ne_nil rest)
    rw [hp] at ih ⊢
    simp only [commaJoin, List.intercalate, List.intersperse_cons_cons, List.flatten_cons,
      List.nil_append, List.cons_append] at ih ⊢
    rw [ih]
  | case3 c rest _ hn => exact absurd hn (commaSplit_ne_nil rest)
  | case4 c rest _ piece pieces hp ih =>
    rw [hp] at ih
    cases pieces with
    | nil => simpa [commaJoin, List.intercalate] using ih
    | cons q qs =>
      simp only [commaJoin, List.intercalate, List.intersperse_cons_cons, List.flatten_cons,
        List.cons_append] at ih ⊢
      rw [ih]

end TextRoadmap.Text
