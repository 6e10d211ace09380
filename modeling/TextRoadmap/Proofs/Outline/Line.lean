/-
TextRoadmap/Proofs/Outline/Line.lean

The lines of an outline, one cut at a time.

Lines that hold no line feed are found again in the text that they make up
(`linesOf_intercalate`).  Indentation comes off as it was put on
(`splitUnits_append`, `eq_of_splitUnits`).  A body is cut at its last
brackets, and `splitExtra_cases` says all that can happen there: either no
`]` follows the last `[`, or the block stands between them and holds no
further `[`.
-/
import Mathlib.Data.Nat.Init
import TextRoadmap.Outline.Line
import TextRoadmap.Proofs.Text.Cut

namespace TextRoadmap.Outline

open TextRoadmap.Text

variable {line body title block unit : List Char} {lines : List (List Char)} {n : Nat}

/-! ### Cutting a text into lines -/

theorem dropReturn_concat (line : List Char) : dropReturn (line ++ ['\r']) = line := by
  rw [dropReturn, stripSuffix?_append]
  rfl

/-- Only a carriage return is dropped. -/
theorem dropReturn_eq_self (h : line.getLast? ≠ some '\r') : dropReturn line = line := by
  rw [dropReturn]
  rcases hstrip : stripSuffix? ['\r'] line with - | rest
  · rfl
  · rw [stripSuffix?_eq_some_iff.1 hstrip] at h
    simp at h

/-- Nothing is dropped from a line, or it ends with a carriage return. -/
theorem dropReturn_cases (line : List Char) :
    dropReturn line = line ∨ ∃ rest, line = rest ++ ['\r'] := by
  by_cases h : line.getLast? = some '\r'
  · exact Or.inr (List.getLast?_eq_some_iff.1 h)
  · exact Or.inl (dropReturn_eq_self h)

theorem intercalate_cons (line : List Char) (hne : lines ≠ []) :
    ['\n'].intercalate (line :: lines) = line ++ '\n' :: ['\n'].intercalate lines := by
  obtain ⟨next, rest, rfl⟩ := List.exists_cons_of_ne_nil hne
  simp [List.intercalate]

theorem intercalate_eq_nil_iff : ['\n'].intercalate lines = [] ↔ lines = [] ∨ lines = [[]] := by
  rcases lines with - | ⟨line, - | ⟨next, rest⟩⟩
  · simp [List.intercalate]
  · simp [List.intercalate]
  · rw [intercalate_cons line (by simp)]
    simp

/-- The lines of a text that was made of lines. -/
theorem linesOf_intercalate (h : ∀ line ∈ lines, '\n' ∉ line) (hne : lines ≠ [[]]) :
    linesOf (['\n'].intercalate lines) = lines.map dropReturn := by
  by_cases hlines : lines = []
  · subst hlines
    rfl
  · have htext : ['\n'].intercalate lines ≠ [] := by
      rw [Ne, intercalate_eq_nil_iff]
      rintro (h | h)
      exacts [hlines h, hne h]
    rw [linesOf, if_neg (by simpa using htext), List.splitOn_intercalate '\n' h hlines]

/-- What stands between line feeds holds none. -/
theorem feed_not_mem_of_mem_splitOn {s : List Char} (h : line ∈ s.splitOn '\n') :
    '\n' ∉ line := by
  induction hn : s.length using Nat.strong_induction_on generalizing s with
  | _ n ih =>
    by_cases hmem : '\n' ∈ s
    · obtain ⟨before, after, rfl⟩ := List.append_of_mem hmem
      rw [List.splitOn_append_cons_self, List.mem_append] at h
      rw [List.length_append, List.length_cons] at hn
      rcases h with h | h
      · exact ih before.length (by omega) h rfl
      · exact ih after.length (by omega) h rfl
    · rw [List.splitOn_eq_singleton hmem, List.mem_singleton] at h
      rwa [h]

theorem feed_not_mem_of_mem_linesOf {text : List Char} (h : line ∈ linesOf text) :
    '\n' ∉ line := by
  unfold linesOf at h
  split at h
  · cases h
  · obtain ⟨whole, hwhole, rfl⟩ := List.mem_map.1 h
    have hfeed := feed_not_mem_of_mem_splitOn hwhole
    rcases dropReturn_cases whole with hsame | ⟨rest, rfl⟩
    · rwa [hsame]
    · rw [dropReturn_concat]
      exact fun hmem => hfeed (List.mem_append_left _ hmem)

/-! ### Kinds of lines -/

theorem isMargin_of_isIndent {c : Char} (h : isIndent c = true) : isMargin c = true := by
  simp only [isIndent, Bool.or_eq_true, decide_eq_true_eq] at h
  rcases h with rfl | rfl <;> rfl

theorem isIndent_eq_false {c : Char} (h : isMargin c = false) : isIndent c = false := by
  by_contra hc
  rw [isMargin_of_isIndent (by simpa using hc)] at h
  cases h

theorem isMilestoneLine_cons (body : List Char) : isMilestoneLine ('|' :: body) = true := rfl

theorem isMilestoneLine_iff : isMilestoneLine line = true ↔
    ∃ margin body, line = margin ++ '|' :: body ∧ ∀ c ∈ margin, isMargin c = true := by
  rw [isMilestoneLine, decide_eq_true_iff]
  constructor
  · intro h
    rcases hdrop : line.dropWhile isMargin with - | ⟨c, body⟩
    · rw [hdrop] at h
      cases h
    · rw [hdrop] at h
      obtain rfl : c = '|' := by simpa using h
      refine ⟨line.takeWhile isMargin, body, ?_, fun c => List.mem_takeWhile_imp⟩
      rw [← hdrop, List.takeWhile_append_dropWhile]
  · rintro ⟨margin, body, rfl, hmargin⟩
    rw [dropWhile_append_of_forall hmargin]
    rfl

theorem isProjectLine_iff : isProjectLine line = true ↔
    isBlankLine line = false ∧ isMilestoneLine line = false := by
  simp [isProjectLine]

/-- A margin in front does not matter for the kind of a line. -/
theorem isMilestoneLine_append {margin : List Char} (h : ∀ c ∈ margin, isMargin c = true)
    (line : List Char) : isMilestoneLine (margin ++ line) = isMilestoneLine line := by
  rw [isMilestoneLine, isMilestoneLine, dropWhile_append_of_forall h]

theorem isProjectLine_append {margin : List Char} (h : ∀ c ∈ margin, isMargin c = true)
    (line : List Char) : isProjectLine (margin ++ line) = isProjectLine line := by
  have hblank : isBlankLine (margin ++ line) = isBlankLine line := by
    rw [isBlankLine, List.all_append, List.all_eq_true.2 h, Bool.true_and]
    rfl
  rw [isProjectLine, isProjectLine, hblank, isMilestoneLine_append h]

/-- A carriage return at the end does not matter for the kind of a line. -/
theorem isBlankLine_dropReturn (line : List Char) :
    isBlankLine (dropReturn line) = isBlankLine line := by
  rcases dropReturn_cases line with h | ⟨rest, rfl⟩
  · rw [h]
  · rw [dropReturn_concat]
    simp [isBlankLine, isMargin]

theorem isMilestoneLine_dropReturn (line : List Char) :
    isMilestoneLine (dropReturn line) = isMilestoneLine line := by
  rcases dropReturn_cases line with h | ⟨rest, rfl⟩
  · rw [h]
  · rw [dropReturn_concat, isMilestoneLine, isMilestoneLine, List.dropWhile_append]
    split
    · rename_i hempty
      rw [List.isEmpty_iff.1 hempty]
      rfl
    · rename_i hempty
      rw [List.isEmpty_iff] at hempty
      obtain ⟨c, tail, hdrop⟩ := List.exists_cons_of_ne_nil hempty
      rw [hdrop]
      rfl

theorem isProjectLine_dropReturn (line : List Char) :
    isProjectLine (dropReturn line) = isProjectLine line := by
  rw [isProjectLine, isProjectLine, isBlankLine_dropReturn, isMilestoneLine_dropReturn]

/-! ### Projects above milestones -/

/-- The lines of the projects and those of the milestones, with an empty line
between them if there are both. -/
def paragraphs (ps ms : List (List Char)) : List (List Char) :=
  ps ++ (if ps.isEmpty || ms.isEmpty then [] else [[]]) ++ ms

variable {ps ms : List (List Char)}

theorem mem_separator (h : line ∈ if ps.isEmpty || ms.isEmpty then [] else [[]]) : line = [] := by
  split at h
  · cases h
  · exact List.mem_singleton.1 h

theorem mem_paragraphs (h : line ∈ paragraphs ps ms) : line ∈ ps ++ ms ∨ line = [] := by
  rw [paragraphs, List.mem_append, List.mem_append] at h
  rcases h with (h | h) | h
  · exact Or.inl (List.mem_append_left _ h)
  · exact Or.inr (mem_separator h)
  · exact Or.inl (List.mem_append_right _ h)

theorem isProjectLine_of_isMilestoneLine (h : isMilestoneLine line = true) :
    isProjectLine line = false := by
  simp [isProjectLine, h]

theorem filter_isProjectLine_paragraphs (hp : ∀ line ∈ ps, isProjectLine line = true)
    (hm : ∀ line ∈ ms, isMilestoneLine line = true) :
    (paragraphs ps ms).filter isProjectLine = ps := by
  have hseparator : (if ps.isEmpty || ms.isEmpty then [] else [[]]).filter isProjectLine = [] :=
    List.filter_eq_nil_iff.2 fun line hline => by
      rw [mem_separator hline]
      decide
  have hmilestones : ms.filter isProjectLine = [] :=
    List.filter_eq_nil_iff.2 fun line hline => by
      rw [isProjectLine_of_isMilestoneLine (hm line hline)]
      decide
  rw [paragraphs, List.filter_append, List.filter_append, List.filter_eq_self.2 hp, hseparator,
    hmilestones, List.append_nil, List.append_nil]

theorem filter_isMilestoneLine_paragraphs (hp : ∀ line ∈ ps, isProjectLine line = true)
    (hm : ∀ line ∈ ms, isMilestoneLine line = true) :
    (paragraphs ps ms).filter isMilestoneLine = ms := by
  have hseparator : (if ps.isEmpty || ms.isEmpty then [] else [[]]).filter isMilestoneLine = [] :=
    List.filter_eq_nil_iff.2 fun line hline => by
      rw [mem_separator hline]
      decide
  have hprojects : ps.filter isMilestoneLine = [] :=
    List.filter_eq_nil_iff.2 fun line hline => by
      rw [(isProjectLine_iff.1 (hp line hline)).2]
      decide
  rw [paragraphs, List.filter_append, List.filter_append, List.filter_eq_self.2 hm, hseparator,
    hprojects, List.nil_append, List.nil_append]

theorem paragraphs_ne (h : ∀ line ∈ ps ++ ms, line ≠ []) : paragraphs ps ms ≠ [[]] := by
  intro heq
  rcases ps with - | ⟨p, ps⟩
  · have hms : ms = [[]] := by simpa [paragraphs] using heq
    exact h [] (by simp [hms]) rfl
  · have hp : p = [] := by
      rw [paragraphs, List.append_assoc, List.cons_append] at heq
      exact (List.cons.inj heq).1
    exact h p (by simp) hp

/-- The two paragraphs are found again in their text. -/
theorem linesOf_paragraphs (hne : ∀ line ∈ ps ++ ms, line ≠ [])
    (hfeed : ∀ line ∈ ps ++ ms, '\n' ∉ line)
    (hreturn : ∀ line ∈ ps ++ ms, line.getLast? ≠ some '\r') :
    linesOf (['\n'].intercalate (paragraphs ps ms)) = paragraphs ps ms := by
  have hmap : (paragraphs ps ms).map dropReturn = (paragraphs ps ms).map id := by
    refine List.map_congr_left fun line hline => ?_
    rcases mem_paragraphs hline with h | rfl
    · exact dropReturn_eq_self (hreturn line h)
    · rfl
  have hlines : ∀ line ∈ paragraphs ps ms, '\n' ∉ line := by
    intro line hline
    rcases mem_paragraphs hline with h | rfl
    · exact hfeed line h
    · simp
  rw [linesOf_intercalate hlines (paragraphs_ne hne), hmap, List.map_id]

/-! ### Indentation -/

theorem splitUnits_eq_zero (h : ¬ unit <+: line) : splitUnits unit line = (0, line) := by
  rw [splitUnits]
  split
  · rfl
  · rename_i rest hstrip
    exact absurd ⟨rest, (stripPrefix?_eq_some_iff.1 hstrip).symm⟩ h

theorem splitUnits_unit_append (hunit : unit ≠ []) (line : List Char) :
    splitUnits unit (unit ++ line) = ((splitUnits unit line).1 + 1, (splitUnits unit line).2) := by
  rw [splitUnits]
  split
  · rename_i hstrip
    rw [stripPrefix?_append] at hstrip
    cases hstrip
  · rename_i rest hstrip
    rw [stripPrefix?_append] at hstrip
    obtain rfl := Option.some.inj hstrip
    rw [dif_neg hunit]

/-- Units in front of a body that begins with none are counted. -/
theorem splitUnits_append (hunit : unit ≠ []) (hbody : ¬ unit <+: body) (n : Nat) :
    splitUnits unit ((List.replicate n unit).flatten ++ body) = (n, body) := by
  induction n with
  | zero => exact splitUnits_eq_zero hbody
  | succ n ih =>
    rw [List.replicate_succ, List.flatten_cons, List.append_assoc, splitUnits_unit_append hunit, ih]

/-- What is split off are units, and all of them. -/
theorem eq_of_splitUnits (hunit : unit ≠ []) (h : splitUnits unit line = (n, body)) :
    line = (List.replicate n unit).flatten ++ body ∧ ¬ unit <+: body := by
  induction n generalizing line with
  | zero =>
    by_cases hpre : unit <+: line
    · obtain ⟨rest, rfl⟩ := hpre
      rw [splitUnits_unit_append hunit] at h
      cases h
    · rw [splitUnits_eq_zero hpre] at h
      obtain ⟨-, rfl⟩ := Prod.mk.inj h
      exact ⟨rfl, hpre⟩
  | succ n ih =>
    by_cases hpre : unit <+: line
    · obtain ⟨rest, rfl⟩ := hpre
      rw [splitUnits_unit_append hunit] at h
      obtain ⟨hcount, hbody⟩ := Prod.mk.inj h
      obtain ⟨hrest, hnot⟩ := ih (Prod.ext (Nat.succ.inj hcount) hbody)
      refine ⟨?_, hnot⟩
      rw [List.replicate_succ, List.flatten_cons, List.append_assoc, ← hrest]
    · rw [splitUnits_eq_zero hpre] at h
      cases h

/-- A line shows all the indentation in front of its body, if there is any. -/
theorem shownUnit?_append {margin : List Char} (hmargin : ∀ c ∈ margin, isIndent c = true)
    (hne : body ≠ []) (hbody : ∀ c ∈ body.head?, isIndent c = false) :
    shownUnit? (margin ++ body) = if margin = [] then none else some margin := by
  obtain ⟨c, rest, rfl⟩ := List.exists_cons_of_ne_nil hne
  have hc : isIndent c = false := hbody c rfl
  have htake : (margin ++ c :: rest).takeWhile isIndent = margin := by
    rw [takeWhile_append_of_head? hbody]
    exact List.takeWhile_eq_self_iff.2 hmargin
  have hall : (margin ++ c :: rest).all isIndent = false := by simp [hc]
  simp [shownUnit?, htake, hall]

theorem shownUnit?_milestone (body : List Char) : shownUnit? ('|' :: body) = none :=
  shownUnit?_append (List.forall_mem_nil _) (by simp) (by simp [isIndent])

theorem flatten_replicate_tab (n : Nat) :
    (List.replicate n ['\t']).flatten = List.replicate n '\t' := by
  simp

/-- Tabs are counted where the tab is the unit. -/
theorem splitUnits_tabs (hbody : body.head? ≠ some '\t') (n : Nat) :
    splitUnits ['\t'] (List.replicate n '\t' ++ body) = (n, body) := by
  rw [← flatten_replicate_tab]
  refine splitUnits_append (by simp) ?_ n
  rintro ⟨rest, rfl⟩
  exact hbody rfl

/-! ### Title and extra block -/

/-- No closing bracket follows the last opening one. -/
def NoBlock (s : List Char) : Prop :=
  ∀ before after, s = before ++ '[' :: after → '[' ∉ after → ']' ∉ after

theorem noBlock_iff {s : List Char} :
    NoBlock s ↔ ∀ parts ∈ splitLast? '[' s, ']' ∉ parts.2 := by
  constructor
  · rintro h ⟨before, after⟩ hsplit
    obtain ⟨hs, hafter⟩ := eq_of_splitLast? hsplit
    exact h before after hs hafter
  · rintro h before after rfl hafter
    exact h (before, after) (splitLast?_append hafter before)

instance : DecidablePred NoBlock := fun _ => decidable_of_iff _ noBlock_iff.symm

/-- A body without a block is all title. -/
theorem splitExtra_of_noBlock (h : NoBlock body) : splitExtra body = (body, []) := by
  unfold splitExtra
  split
  · rfl
  · rename_i before after hsplit
    rw [splitLast?_eq_none (noBlock_iff.1 h _ hsplit)]

/-- The block ends at the last closing bracket, and the rest is not read. -/
theorem splitExtra_block_rest {rest : List Char} (hblock : '[' ∉ block) (hopen : '[' ∉ rest)
    (hclose : ']' ∉ rest) (title : List Char) :
    splitExtra (title ++ '[' :: (block ++ ']' :: rest)) =
      (trim isMargin title, trim isMargin block) := by
  have htail : '[' ∉ block ++ ']' :: rest := by simp [hblock, hopen]
  rw [splitExtra, splitLast?_append htail]
  simp only
  rw [splitLast?_append hclose]

/-- The block ends with the body. -/
theorem splitExtra_block (h : '[' ∉ block) (title : List Char) :
    splitExtra (title ++ '[' :: (block ++ [']'])) = (trim isMargin title, trim isMargin block) :=
  splitExtra_block_rest h (by simp) (by simp) title

/-- A body has no block and is all title, or it is cut at its last brackets. -/
theorem splitExtra_cases (body : List Char) :
    NoBlock body ∧ splitExtra body = (body, []) ∨
      ∃ title block rest, body = title ++ '[' :: (block ++ ']' :: rest) ∧ '[' ∉ block ∧
        '[' ∉ rest ∧ splitExtra body = (trim isMargin title, trim isMargin block) := by
  rcases hopen : splitLast? '[' body with - | ⟨title, tail⟩
  · have hnot := splitLast?_eq_none_iff.1 hopen
    refine Or.inl ⟨?_, splitExtra_of_not_mem hnot⟩
    rw [noBlock_iff, hopen]
    rintro - ⟨⟩
  · obtain ⟨hbody, htail⟩ := eq_of_splitLast? hopen
    -- the block has to be closed behind the last bracket that opens
    rcases hclose : splitLast? ']' tail with - | ⟨block, rest⟩
    · have hnot := splitLast?_eq_none_iff.1 hclose
      have hno : NoBlock body := by
        rw [noBlock_iff, hopen]
        rintro - ⟨⟩
        exact hnot
      exact Or.inl ⟨hno, splitExtra_of_noBlock hno⟩
    · obtain ⟨rfl, -⟩ := eq_of_splitLast? hclose
      simp only [List.mem_append, List.mem_cons, not_or] at htail
      refine Or.inr ⟨title, block, rest, hbody, htail.1, htail.2.2, ?_⟩
      simp only [splitExtra, hopen, hclose]

theorem bracket_not_mem_splitExtra (body : List Char) : '[' ∉ (splitExtra body).2 := by
  rcases splitExtra_cases body with ⟨-, h⟩ | ⟨title, block, rest, -, hblock, -, h⟩
  · rw [h]
    simp
  · rw [h]
    exact fun hmem => hblock (mem_of_mem_trim hmem)

theorem dropMark_cons (body : List Char) : dropMark ('|' :: body) = body := rfl

theorem dropMark_eq_self (h : body.head? ≠ some '|') : dropMark body = body := by
  rw [dropMark, stripPrefix?_eq_none_iff.2]
  · rfl
  · rintro ⟨rest, rfl⟩
    exact h rfl

end TextRoadmap.Outline
