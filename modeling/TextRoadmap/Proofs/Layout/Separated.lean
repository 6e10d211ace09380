/-
TextRoadmap/Proofs/Layout/Separated.lean

Layouts whose tokens are separated by marks.

A hyphen could begin an offset, a token could be the beginning of a longer
one, and letters behind a name could make another word of it.  None of this
happens where runs of marks stand between the tokens: the pieces of such a
layout are its tokens and the marks, and the tokens stand apart
(`Separated.piecesOf`).
-/
import TextRoadmap.Proofs.Layout.RoundTrip
import TextRoadmap.Proofs.Layout.Tokens

namespace TextRoadmap.Layout

open TextRoadmap.Text

/-- The marks that may stand between tokens. -/
def marks : List Char := ['-', '/', '.', ',', ':', ' ']

/-- The tokens in their order, with a run of marks of the given kinds between
neighbours. -/
inductive Separated (kinds : List Char) : List Token → List Char → Prop
  | single (entry : Token) : Separated kinds [entry] entry.1.toList
  | cons {entry : Token} {entries : List Token} {gap s : List Char} :
      gap ≠ [] → gap ⊆ kinds → Separated kinds entries s →
        Separated kinds (entry :: entries) (entry.1.toList ++ (gap ++ s))

variable {kinds s rest gap : List Char} {c : Char} {entry other : Token} {entries : List Token}
variable {pieces : List Piece}

/-- A first token and the others, each behind a run of marks. -/
theorem separated_of_eq (first : Token) (others : List (List Char × Token))
    (h : ∀ other ∈ others, other.1 ≠ [] ∧ other.1 ⊆ kinds)
    (hs : s = first.1.toList ++ others.flatMap fun other => other.1 ++ other.2.1.toList) :
    Separated kinds (first :: others.map Prod.snd) s := by
  subst hs
  induction others generalizing first with
  | nil =>
    rw [List.flatMap_nil, List.append_nil]
    exact .single first
  | cons other others ih =>
    obtain ⟨⟨hne, hgap⟩, hothers⟩ := List.forall_mem_cons.1 h
    rw [List.flatMap_cons, List.append_assoc]
    exact .cons hne hgap (ih other.2 hothers)

/-! ### Marks are no tokens -/

/-- A mark is neither a letter nor a digit. -/
theorem isLower_and_isDigit_of_mem_marks (h : c ∈ marks) :
    c.isLower = false ∧ c.isDigit = false := by
  have all : (marks.all fun c => !c.isLower && !c.isDigit) = true := by decide
  simpa using List.all_eq_true.1 all c h

/-- A token that begins with a mark is an offset. -/
theorem Fits.offset_of_mark (hmem : entry ∈ tokens) (hc : c ∈ marks)
    (h : Fits entry (c :: rest)) : ['0', '7'] <+: rest := by
  have all : ∀ entry ∈ tokens, (entry.1.toList.head?.any fun c => c ∈ marks) = true →
      ['-', '0', '7'] <+: entry.1.toList := by
    decide
  have hne : ∀ entry ∈ tokens, entry.1.toList ≠ [] := by decide
  have hprefix := h.isPrefix
  obtain ⟨d, text, htext⟩ := List.exists_cons_of_ne_nil (hne entry hmem)
  rw [htext, List.cons_prefix_cons] at hprefix
  have hoffset := all entry hmem (by rw [htext, hprefix.1]; simpa using hc)
  rw [htext, List.cons_prefix_cons] at hoffset
  exact hoffset.2.trans hprefix.2

/-- No token continues to an offset. -/
theorem not_offset_token (h : entry ∈ tokens) (rest : List Char) :
    ¬ ['0', '7'] <+: entry.1.toList ++ rest := by
  have all : ∀ entry ∈ tokens,
      ¬ ['0', '7'] <+: entry.1.toList ∧ ¬ entry.1.toList <+: ['0', '7'] := by
    decide
  intro hprefix
  rcases List.prefix_or_prefix_of_prefix hprefix (List.prefix_append entry.1.toList rest)
    with hbegin | hbegin
  · exact (all entry h).1 hbegin
  · exact (all entry h).2 hbegin

theorem Separated.not_offset (h : Separated kinds entries s)
    (hmem : ∀ entry ∈ entries, entry ∈ tokens) : ¬ ['0', '7'] <+: s := by
  cases h with
  | single entry =>
    have hnot := not_offset_token (hmem entry (List.mem_cons_self ..)) []
    rwa [List.append_nil] at hnot
  | cons => exact not_offset_token (hmem _ (List.mem_cons_self ..)) _

/-- Marks in front of a text are pieces of their own. -/
theorem piecesOf_marks (hgap : gap ⊆ marks) (hs : ¬ ['0', '7'] <+: s) :
    piecesOf (gap ++ s) = gap.map Piece.literal ++ piecesOf s := by
  induction gap with
  | nil => rfl
  | cons c gap ih =>
    obtain ⟨hc, hgap⟩ := List.cons_subset.1 hgap
    have hrest : ¬ ['0', '7'] <+: gap ++ s := by
      cases gap with
      | nil => exact hs
      | cons d gap =>
        rw [List.cons_append, List.cons_prefix_cons]
        rintro ⟨rfl, -⟩
        cases (isLower_and_isDigit_of_mem_marks (hgap (List.mem_cons_self ..))).2
    rw [List.cons_append, piecesOf_literal fun entry hmem h => hrest (h.offset_of_mark hmem hc),
      ih hgap]
    rfl

/-! ### Tokens before marks -/

/-- In front of a mark a token is the longest that fits. -/
theorem leads_append (hmem : entry ∈ tokens) (hrest : ∀ c ∈ rest.head?, c ∈ marks) :
    Leads entry (entry.1.toList ++ rest) := by
  have all : ∀ entry ∈ tokens, ∀ other ∈ tokens,
      (marks.all fun c => ¬ entry.1.toList ++ [c] <+: other.1.toList) = true := by
    decide
  have hlower : ∀ c ∈ rest.head?, c.isLower = false := fun c hc =>
    (isLower_and_isDigit_of_mem_marks (hrest c hc)).1
  refine ⟨hmem, ⟨rest, rfl, fun _ => hlower⟩, fun other hother hfits => ?_⟩
  rcases List.prefix_or_prefix_of_prefix hfits.isPrefix (List.prefix_append entry.1.toList rest)
    with hshort | ⟨more, hmore⟩
  · exact hshort.length_le
  · -- a longer token would go on with the mark
    cases more with
    | nil => rw [← hmore, List.append_nil]
    | cons c more =>
      have hprefix := hfits.isPrefix
      rw [← hmore, List.prefix_append_right_inj] at hprefix
      obtain ⟨after, rfl⟩ := hprefix
      have hnot := List.all_eq_true.1 (all entry hmem other hother) c (hrest c rfl)
      refine absurd ?_ (of_decide_eq_true hnot)
      exact ⟨more, by rw [← hmore, List.append_assoc]; rfl⟩

theorem apart_map_literal_append (gap : List Char) :
    Apart (gap.map Piece.literal ++ pieces) ↔ Apart pieces := by
  induction gap with
  | nil => rfl
  | cons c gap ih => exact ih

theorem facts_map_literal (gap : List Char) :
    (gap.map Piece.literal).flatMap Piece.facts = [] := by
  induction gap with
  | nil => rfl
  | cons c gap ih => exact ih

/-- The pieces of a separated text stand apart and tell what its tokens tell. -/
theorem Separated.piecesOf (h : Separated kinds entries s) (hkinds : kinds ⊆ marks)
    (hmem : ∀ entry ∈ entries, entry ∈ tokens) :
    Apart (piecesOf s) ∧
      (Layout.piecesOf s).flatMap Piece.facts = entries.flatMap fun entry => entry.2.facts := by
  induction h with
  | single entry =>
    have hleads : Leads entry (entry.1.toList ++ []) :=
      leads_append (hmem entry (List.mem_cons_self ..)) (by simp)
    have hpieces := hleads.piecesOf
    rw [List.append_nil] at hpieces
    rw [hpieces]
    exact ⟨⟨by rintro piece ⟨⟩, trivial⟩, rfl⟩
  | @cons entry entries gap s hne hgap hs ih =>
    obtain ⟨hentry, hmem⟩ := List.forall_mem_cons.1 hmem
    obtain ⟨c, gap, rfl⟩ := List.exists_cons_of_ne_nil hne
    have hgap := List.Subset.trans hgap hkinds
    have hc := hgap (List.mem_cons_self ..)
    have hleads : Leads entry (entry.1.toList ++ (c :: gap ++ s)) :=
      leads_append hentry (by rintro d ⟨⟩; exact hc)
    obtain ⟨hapart, hfacts⟩ := ih hmem
    rw [hleads.piecesOf, piecesOf_marks hgap (hs.not_offset hmem)]
    refine ⟨⟨?_, (apart_map_literal_append (c :: gap)).2 hapart⟩, ?_⟩
    · rintro piece ⟨⟩
      exact ⟨c, rfl, (isLower_and_isDigit_of_mem_marks hc).2⟩
    · rw [List.flatMap_cons, List.flatMap_append, facts_map_literal, hfacts, List.flatMap_cons]
      rfl

end TextRoadmap.Layout
