/-
TextRoadmap/Proofs/Layout/Tokens.lean

How a layout falls into pieces.

`Spells pieces s` says without the order of the table what the pieces of a
text are: from left to right, the longest token that fits, or else a single
character.  A text has exactly one such list of pieces, and it is the one that
is found by trying the tokens in their order (`spells_iff`).
-/
import Mathlib.Data.List.Infix
import TextRoadmap.Layout.Piece
import TextRoadmap.Proofs.Text.Cut

namespace TextRoadmap.Layout

open TextRoadmap.Text

/-- A text that stands for a part of a date, with that part. -/
abbrev Token := String × Element

variable {s rest text : List Char} {c : Char} {e : Element} {entry other : Token}
variable {pieces : List Piece}

/-! ### The longest token -/

/-- The text begins with the token, which is not the beginning of a longer
word if it is an abbreviation. -/
def Fits (entry : Token) (s : List Char) : Prop :=
  ∃ rest, s = entry.1.toList ++ rest ∧
    (entry.2.endsWord = true → ∀ c ∈ rest.head?, c.isLower = false)

/-- The text begins with the token and with no longer one. -/
structure Leads (entry : Token) (s : List Char) : Prop where
  mem : entry ∈ tokens
  fits : Fits entry s
  longest : ∀ other ∈ tokens, Fits other s → other.1.toList.length ≤ entry.1.toList.length

/-- The pieces of a text, from left to right. -/
inductive Spells : List Piece → List Char → Prop
  | nil : Spells [] []
  | token {entry : Token} {pieces : List Piece} {rest : List Char} :
      Leads entry (entry.1.toList ++ rest) → Spells pieces rest →
        Spells (.token entry.1.toList entry.2 :: pieces) (entry.1.toList ++ rest)
  | literal {c : Char} {pieces : List Piece} {rest : List Char} :
      (∀ entry ∈ tokens, ¬ Fits entry (c :: rest)) → Spells pieces rest →
        Spells (.literal c :: pieces) (c :: rest)

theorem Fits.isPrefix (h : Fits entry s) : entry.1.toList <+: s := by
  obtain ⟨rest, rfl, -⟩ := h
  exact List.prefix_append ..

theorem matchToken?_eq_some_iff {t : List Char × Element} :
    matchToken? s entry = some t ↔ Fits entry s ∧ t = (entry.1.toList, entry.2) := by
  unfold matchToken? Fits
  split
  · rename_i hstrip
    simp only [reduceCtorEq, false_iff, not_and, forall_exists_index]
    rintro rest ⟨rfl, -⟩
    rw [stripPrefix?_append] at hstrip
    cases hstrip
  · rename_i after hstrip
    obtain rfl := stripPrefix?_eq_some_iff.1 hstrip
    have hiff : (entry.2.endsWord && after.head?.any Char.isLower) = true ↔
        ¬ (entry.2.endsWord = true → ∀ c ∈ after.head?, c.isLower = false) := by
      cases after.head? <;> simp
    split
    · rename_i hlower
      simp only [reduceCtorEq, List.append_cancel_left_eq, exists_eq_left', false_iff, not_and]
      exact fun hfits => absurd hfits (hiff.1 hlower)
    · rename_i hlower
      simp only [List.append_cancel_left_eq, exists_eq_left', Option.some.injEq]
      rw [hiff, not_not] at hlower
      exact ⟨fun h => ⟨hlower, h.symm⟩, fun h => h.2.symm⟩

theorem leadingToken?_eq_none_iff :
    leadingToken? s = none ↔ ∀ entry ∈ tokens, ¬ Fits entry s := by
  rw [leadingToken?, List.findSome?_eq_none_iff]
  refine forall₂_congr fun entry _ => ?_
  rw [Option.eq_none_iff_forall_ne_some]
  exact ⟨fun h hfits => h _ (matchToken?_eq_some_iff.2 ⟨hfits, rfl⟩),
    fun h t ht => h (matchToken?_eq_some_iff.1 ht).1⟩

/-- Where one token begins another, the longer one comes first. -/
theorem tokens_pairwise :
    tokens.Pairwise fun entry other => ¬ entry.1.toList <+: other.1.toList := by
  decide

theorem eq_of_toList_eq (h : entry ∈ tokens) (h' : other ∈ tokens)
    (heq : entry.1.toList = other.1.toList) : entry = other := by
  have all : ∀ a ∈ tokens, ∀ b ∈ tokens, a.1.toList = b.1.toList → a = b := by decide
  exact all entry h other h' heq

/-- The first token that fits is the longest. -/
theorem leads_of_leadingToken? (h : leadingToken? s = some (text, e)) :
    ∃ entry, Leads entry s ∧ (text, e) = (entry.1.toList, entry.2) := by
  obtain ⟨before, entry, after, htokens, hmatch, hbefore⟩ := List.findSome?_eq_some_iff.1 h
  obtain ⟨hfits, heq⟩ := matchToken?_eq_some_iff.1 hmatch
  refine ⟨entry, ⟨by simp [htokens], hfits, fun other hother hfits' => ?_⟩, heq⟩
  rw [htokens, List.mem_append, List.mem_cons] at hother
  rcases hother with hmem | rfl | hmem
  · -- a token in front of it would have been found first
    have hnone := hbefore other hmem
    rw [matchToken?_eq_some_iff.2 ⟨hfits', rfl⟩] at hnone
    cases hnone
  · exact le_rfl
  · -- of two beginnings of a text one begins the other
    have hpair := tokens_pairwise
    rw [htokens, List.pairwise_append, List.pairwise_cons] at hpair
    have hnot := hpair.2.1.1 other hmem
    exact ((List.prefix_or_prefix_of_prefix hfits.isPrefix hfits'.isPrefix).resolve_left
      hnot).length_le

theorem Leads.eq (h : Leads entry s) (h' : Leads other s) : entry = other := by
  have hlength := (h'.longest entry h.mem h.fits).antisymm (h.longest other h'.mem h'.fits)
  exact eq_of_toList_eq h.mem h'.mem ((List.prefix_of_prefix_length_le h.fits.isPrefix
    h'.fits.isPrefix hlength.le).eq_of_length hlength)

theorem Leads.leadingToken? (h : Leads entry s) :
    leadingToken? s = some (entry.1.toList, entry.2) := by
  rcases hlead : Layout.leadingToken? s with - | ⟨text, e⟩
  · exact absurd h.fits (leadingToken?_eq_none_iff.1 hlead entry h.mem)
  · obtain ⟨found, hfound, heq⟩ := leads_of_leadingToken? hlead
    rw [heq, hfound.eq h]

/-! ### Pieces from left to right -/

theorem piecesFrom_eq_drop (skip : Nat) (s : List Char) :
    piecesFrom skip s = piecesOf (s.drop skip) := by
  induction s generalizing skip with
  | nil => cases skip <;> rfl
  | cons c s ih =>
    cases skip with
    | zero => rfl
    | succ skip => exact ih skip

theorem Leads.piecesOf (h : Leads entry (entry.1.toList ++ rest)) :
    piecesOf (entry.1.toList ++ rest) = .token entry.1.toList entry.2 :: piecesOf rest := by
  have hlead := h.leadingToken?
  obtain ⟨c, text, htext⟩ := List.exists_cons_of_ne_nil (leadingToken?_eq_some hlead).1
  rw [htext, List.cons_append] at hlead ⊢
  rw [Layout.piecesOf, piecesFrom, hlead]
  simp only [piecesFrom_eq_drop, List.length_cons, Nat.add_sub_cancel, List.drop_left]

theorem piecesOf_literal (h : ∀ entry ∈ tokens, ¬ Fits entry (c :: rest)) :
    piecesOf (c :: rest) = .literal c :: piecesOf rest := by
  rw [piecesOf, piecesFrom, leadingToken?_eq_none_iff.2 h]
  rfl

theorem spells_piecesOf (s : List Char) : Spells (piecesOf s) s := by
  induction hn : s.length using Nat.strong_induction_on generalizing s with
  | _ n ih =>
    subst hn
    rcases hlead : leadingToken? s with - | ⟨text, e⟩
    · cases s with
      | nil => exact .nil
      | cons c rest =>
        have hnone := leadingToken?_eq_none_iff.1 hlead
        rw [piecesOf_literal hnone]
        exact .literal hnone (ih rest.length (by simp) rest rfl)
    · obtain ⟨entry, hleads, heq⟩ := leads_of_leadingToken? hlead
      obtain ⟨hne, -⟩ := leadingToken?_eq_some hleads.leadingToken?
      obtain ⟨rest, hs, -⟩ := hleads.fits
      rw [hs] at hleads ih ⊢
      rw [hleads.piecesOf]
      refine .token hleads (ih rest.length ?_ rest rfl)
      have := List.length_pos_iff.2 hne
      simp only [List.length_append]
      omega

/-- The pieces of a text are its longest tokens and, where no token fits, its
characters. -/
theorem spells_iff : Spells pieces s ↔ pieces = piecesOf s := by
  constructor
  · intro h
    induction h with
    | nil => rfl
    | token hleads _ ih => rw [hleads.piecesOf, ih]
    | literal hnone _ ih => rw [piecesOf_literal hnone, ih]
  · rintro rfl
    exact spells_piecesOf s

end TextRoadmap.Layout
