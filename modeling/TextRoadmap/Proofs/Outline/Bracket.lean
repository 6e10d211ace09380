/-
TextRoadmap/Proofs/Outline/Bracket.lean

Opening brackets, the one character that reading and writing an outline
never multiplies.

A block begins at the last opening bracket of its line, so nothing that is
read from it holds another (`Extra.read_free`), and neither does what is
written for it again (`not_mem_projectTokens`, `not_mem_milestoneTokens`).  A
written line therefore has the opening brackets of its title, and one more
if it has a block (`count_withExtra`).

The rest is counting: a text has the brackets of its lines
(`sum_count_linesOf`), and lines that each have no more than others cannot
have as many in total unless each has as many (`eq_of_sum_le`).
-/
import TextRoadmap.Outline.Basic
import TextRoadmap.Proofs.Outline.Token

namespace TextRoadmap

open TextRoadmap.Text TextRoadmap.Calendar

namespace Outline

variable {s : Setting} {e : Extra} {t : Token} {token title block : List Char}
variable {tokens : List (List Char)}

/-! ### What is read from a block -/

/-- A token that is written without a bracket. -/
def Token.IsFree (layout : Layout) : Token → Prop
  | .date i => '[' ∉ dateToken layout i
  | .url link => '[' ∉ link.toList
  | _ => True

/-- Contents that are written without a bracket. -/
structure Extra.IsFree (layout : Layout) (e : Extra) : Prop where
  startAt : ∀ i ∈ e.startAt, '[' ∉ dateToken layout i
  endAt : ∀ i ∈ e.endAt, '[' ∉ dateToken layout i
  urls : ∀ url ∈ e.urls, '[' ∉ url.toList

theorem readDate?_free (htoken : '[' ∉ token) (h : readDate? s token = some t) :
    t.IsFree s.layout := by
  obtain ⟨i, hi, rfl⟩ := Option.map_eq_some_iff.1 h
  have hmem : '[' ∉ (String.ofList token).toList := by rwa [String.toList_ofList]
  exact Layout.not_mem_format_of_parse? (by decide) (by decide) hi hmem i

theorem readUrl?_free (htoken : '[' ∉ token) (h : readUrl? s token = some t) :
    t.IsFree s.layout := by
  unfold readUrl? at h
  dsimp only at h
  split at h
  · obtain rfl := Option.some.inj h
    show '[' ∉ (String.ofList token).toList
    rwa [String.toList_ofList]
  · cases h

/-- What a single token says holds the brackets of the token at most. -/
theorem classify?_free (htoken : '[' ∉ token) (h : classify? s token = some t) :
    t.IsFree s.layout := by
  have hread := classify?_inv h
  -- only dates and links keep characters of the token
  cases t with
  | date i => exact readDate?_free htoken hread
  | url link => exact readUrl?_free htoken hread
  | _ => trivial

theorem readTokens_free (skip : Nat) (htokens : ∀ token ∈ tokens, '[' ∉ token) :
    ∀ t ∈ readTokens s skip tokens, t.IsFree s.layout := by
  intro t ht
  rcases mem_readTokens skip ht with ⟨token, htoken, hread⟩ | ⟨group, hgroup, -, hread⟩
  · exact classify?_free (htokens token htoken) hread
  · -- a date over several tokens holds the brackets of all of them
    refine readDate?_free ?_ hread
    exact not_mem_commaJoin (by decide) (by decide) fun token htoken =>
      htokens token (hgroup.subset htoken)

theorem Extra.IsFree.add {layout : Layout} (h : e.IsFree layout) (ht : t.IsFree layout) :
    (e.add t).IsFree layout := by
  cases t with
  | date i =>
    unfold Extra.add
    dsimp only
    split
    · exact ⟨by rintro j ⟨⟩; exact ht, h.endAt, h.urls⟩
    · exact ⟨h.startAt, by rintro j ⟨⟩; exact ht, h.urls⟩
  | percentage => exact ⟨h.startAt, h.endAt, h.urls⟩
  | milestone => exact ⟨h.startAt, h.endAt, h.urls⟩
  | color => exact ⟨h.startAt, h.endAt, h.urls⟩
  | url url =>
    refine ⟨h.startAt, h.endAt, fun u hu => ?_⟩
    rcases List.mem_append.1 hu with hu | hu
    · exact h.urls u hu
    · rw [List.mem_singleton.1 hu]
      exact ht

/-- Nothing that is read from a block without a bracket holds one. -/
theorem Extra.read_free (hblock : '[' ∉ block) : (Extra.read s block).IsFree s.layout := by
  have hpieces : ∀ token ∈ (commaSplit block).takeWhile (· ≠ []), '[' ∉ token := by
    intro token htoken hmem
    refine hblock ?_
    rw [← commaJoin_commaSplit block]
    exact mem_commaJoin_of_mem ((List.takeWhile_sublist _).subset htoken) hmem
  have hfold : ∀ (ts : List Token) (e : Extra), e.IsFree s.layout →
      (∀ t ∈ ts, t.IsFree s.layout) → (ts.foldl Extra.add e).IsFree s.layout := by
    intro ts
    induction ts with
    | nil => exact fun e he _ => he
    | cons t ts ih =>
      intro e he hts
      exact ih (e.add t) (he.add (hts t (List.mem_cons_self ..)))
        fun u hu => hts u (List.mem_cons_of_mem _ hu)
  exact hfold _ {} ⟨by rintro i ⟨⟩, by rintro i ⟨⟩, by rintro u ⟨⟩⟩ (readTokens_free 0 hpieces)

/-! ### What is written for it again -/

/-- The tokens that are written for a project with these contents. -/
def projectTokens (layout : Layout) (e : Extra) : List (List Char) :=
  Project.tokens layout ⟨0, "", e.span?, e.color, e.percentage, e.urls, e.milestone⟩

/-- The tokens that are written for a milestone with these contents. -/
def milestoneTokens (layout : Layout) (e : Extra) : List (List Char) :=
  Milestone.tokens layout ⟨"", e.startAt, e.color, e.urls⟩

theorem bracket_not_mem_colorTokens (color : Option Color) :
    ∀ token ∈ colorTokens color, '[' ∉ token := by
  intro token htoken
  obtain ⟨c, -, rfl⟩ := List.mem_map.1 htoken
  exact (isPlain_color c).bracket

theorem not_mem_projectTokens (h : e.IsFree s.layout) :
    ∀ token ∈ projectTokens s.layout e, '[' ∉ token := by
  intro token htoken
  simp only [projectTokens, Project.tokens, List.mem_append] at htoken
  rcases htoken with (((hdate | hpercentage) | hcolor) | hurl) | hmilestone
  · obtain ⟨span, hspan, htoken⟩ := List.mem_flatMap.1 hdate
    rw [Option.mem_toList, Extra.span?] at hspan
    split at hspan
    · rename_i startAt endAt hstart hend
      obtain ⟨-, hspan⟩ := Option.ite_none_right_eq_some.1 hspan
      obtain rfl := Option.some.inj hspan
      simp only [List.mem_cons, List.not_mem_nil, or_false] at htoken
      rcases htoken with rfl | rfl
      · exact h.startAt startAt hstart
      · exact h.endAt endAt hend
    · cases hspan
  · split at hpercentage
    · cases hpercentage
    · rw [List.mem_singleton.1 hpercentage]
      exact (isPlain_decimal_percent _).bracket
  · exact bracket_not_mem_colorTokens _ token hcolor
  · obtain ⟨url, hmem, rfl⟩ := List.mem_map.1 hurl
    exact h.urls url hmem
  · split at hmilestone
    · cases hmilestone
    · rw [List.mem_singleton.1 hmilestone]
      exact (isPlain_bar_decimal _).bracket

theorem not_mem_milestoneTokens (h : e.IsFree s.layout) :
    ∀ token ∈ milestoneTokens s.layout e, '[' ∉ token := by
  intro token htoken
  simp only [milestoneTokens, Milestone.tokens, List.mem_append] at htoken
  rcases htoken with (hdate | hcolor) | hurl
  · obtain ⟨i, hi, rfl⟩ := List.mem_map.1 hdate
    exact h.startAt i (Option.mem_toList.1 hi)
  · exact bracket_not_mem_colorTokens _ token hcolor
  · obtain ⟨url, hmem, rfl⟩ := List.mem_map.1 hurl
    exact h.urls url hmem

/-- A written line has the brackets of its title and one for the block. -/
theorem count_withExtra (h : ∀ token ∈ tokens, '[' ∉ token) (title : List Char) :
    (withExtra title tokens).count '[' = title.count '[' + if tokens = [] then 0 else 1 := by
  by_cases htokens : tokens = []
  · subst htokens
    rfl
  · have hjoin : (commaJoin tokens).count '[' = 0 :=
      List.count_eq_zero.2 (not_mem_commaJoin (by decide) (by decide) h)
    rw [withExtra_of_ne_nil htokens, if_neg htokens]
    simp [hjoin]

end Outline

end TextRoadmap
