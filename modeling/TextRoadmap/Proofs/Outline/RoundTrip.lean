/-
TextRoadmap/Proofs/Outline/RoundTrip.lean

A well-formed roadmap is read back from its own outline (`Roadmap.reread_eq`).

What makes a roadmap well formed are conditions on its titles, dates,
percentages and links one by one (`Project.WellFormed`,
`Milestone.WellFormed`), and one condition on the list: the first project
that is indented is indented by one step, so that the outline shows the unit
by which it is indented.

The proof follows a line.  The tokens of its block add up to what they were
written for (`Project.read_tokens`), the block comes off the title
(`splitExtra_withExtra_of_isPlain`) and the title off the indentation
(`readProject_line`).
-/
import Mathlib.Data.List.Basic
import Mathlib.Data.List.Infix
import Mathlib.Tactic.MkIffOfInductiveProp
import TextRoadmap.Outline.Basic
import TextRoadmap.Proofs.Outline.Token

namespace TextRoadmap

open TextRoadmap.Text TextRoadmap.Calendar

namespace Outline

variable {s : Setting} {e : Extra} {tokens : List (List Char)}

/-! ### What tokens add up to -/

/-- The contents with those of more tokens, each read on its own. -/
def Extra.addAll (s : Setting) (e : Extra) (tokens : List (List Char)) : Extra :=
  (tokens.flatMap fun token => (classify? s token).toList).foldl Extra.add e

theorem Extra.addAll_append (tokens tokens' : List (List Char)) :
    e.addAll s (tokens ++ tokens') = (e.addAll s tokens).addAll s tokens' := by
  rw [addAll, List.flatMap_append, List.foldl_append]
  rfl

@[simp] theorem Extra.addAll_nil : e.addAll s [] = e := rfl

theorem Extra.addAll_singleton {token : List Char} {t : Token} (h : classify? s token = some t) :
    e.addAll s [token] = e.add t := by
  simp [addAll, h]

theorem Extra.read_commaJoin (hs : s.layout = .standard) (h : ∀ token ∈ tokens, IsPlain token) :
    Extra.read s (commaJoin tokens) = Extra.addAll s {} tokens := by
  have hcount : s.layout.pieceCount = 1 := by rw [hs, Layout.standard_pieceCount]
  rw [read, tokensOf_commaJoin hcount h]
  rfl

theorem Extra.addAll_dates (hs : s.layout = .standard) {dates : Option Span}
    (h : ∀ span ∈ dates, span.startAt.time = Time.midnight ∧ span.endAt.time = Time.midnight) :
    Extra.addAll s {} (dates.toList.flatMap fun span =>
      [dateToken .standard span.startAt, dateToken .standard span.endAt]) =
      { startAt := dates.map (·.startAt), endAt := dates.map (·.endAt) } := by
  rcases dates with - | span
  · rfl
  · obtain ⟨hstart, hend⟩ := h span rfl
    simp [addAll, classify?_dateToken hs hstart, classify?_dateToken hs hend, add]

theorem Extra.addAll_deadline (hs : s.layout = .standard) {deadline : Option Instant}
    (h : ∀ i ∈ deadline, i.time = Time.midnight) :
    Extra.addAll s {} (deadline.toList.map (dateToken .standard)) = { startAt := deadline } := by
  rcases deadline with - | i
  · rfl
  · simp [addAll, classify?_dateToken hs (h i rfl), add]

theorem Extra.addAll_percentage (hs : s.layout = .standard) {value : UInt8} (h : value ≤ 100)
    (he : e.percentage = 0) :
    e.addAll s (if value = 0 then [] else [decimal value.toNat ++ ['%']]) =
      { e with percentage := value } := by
  split
  · rename_i hzero
    rw [addAll_nil, hzero, ← he]
  · rw [addAll_singleton (classify?_percentage hs h)]
    rfl

theorem Extra.addAll_color (hs : s.layout = .standard) (color : Option Color)
    (he : e.color = none) : e.addAll s (colorTokens color) = { e with color := color } := by
  rcases color with - | color
  · show e = { e with color := none }
    rw [← he]
  · show e.addAll s [color.text.toList] = _
    rw [addAll_singleton (classify?_color hs)]
    rfl

theorem Extra.addAll_milestone (hs : s.layout = .standard) (number : UInt8)
    (he : e.milestone = 0) :
    e.addAll s (if number = 0 then [] else ['|' :: decimal number.toNat]) =
      { e with milestone := number } := by
  split
  · rename_i hzero
    rw [addAll_nil, hzero, ← he]
  · rw [addAll_singleton (classify?_milestone hs)]
    rfl

/-- A link that can stand in a block as it is, and that is read as a link there. -/
@[mk_iff] structure IsLink (s : Setting) (url : String) : Prop where
  bracket : '[' ∉ url.toList
  feed : '\n' ∉ url.toList
  comma : ¬ [',', ' '] <:+: url.toList
  trimmed : Trimmed isMargin url.toList
  read : tokensOf s url.toList = [.url url]

instance (s : Setting) (url : String) : Decidable (IsLink s url) :=
  decidable_of_iff _ (isLink_iff s url).symm

theorem IsLink.isPlain {url : String} (h : IsLink s url) : IsPlain url.toList where
  ne_nil hnil := by
    have := h.read
    rw [hnil] at this
    cases this
  bracket := h.bracket
  feed := h.feed
  comma := h.comma
  trimmed := h.trimmed

theorem IsLink.classify? {url : String} (hs : s.layout = .standard) (h : IsLink s url) :
    classify? s url.toList = some (.url url) := by
  have hcount : s.layout.pieceCount = 1 := by rw [hs, Layout.standard_pieceCount]
  have hplain : ∀ token ∈ [url.toList], IsPlain token := by simpa using h.isPlain
  have hread := tokensOf_commaJoin hcount hplain
  rw [commaJoin_singleton, h.read] at hread
  rcases hclass : Outline.classify? s url.toList with - | t
  · simp [hclass] at hread
  · simp only [List.flatMap_cons, hclass, Option.toList_some, List.flatMap_nil, List.append_nil,
      List.cons.injEq, and_true] at hread
    rw [hread]

theorem isLink_of_classify? {url : String} (hs : s.layout = .standard) (hplain : IsPlain url.toList)
    (h : Outline.classify? s url.toList = some (.url url)) : IsLink s url where
  bracket := hplain.bracket
  feed := hplain.feed
  comma := hplain.comma
  trimmed := hplain.trimmed
  read := by
    have hcount : s.layout.pieceCount = 1 := by rw [hs, Layout.standard_pieceCount]
    have hplains : ∀ token ∈ [url.toList], IsPlain token := by simpa using hplain
    have hread := tokensOf_commaJoin hcount hplains
    rw [commaJoin_singleton] at hread
    simp [hread, h]

theorem Extra.addAll_urls (hs : s.layout = .standard) {urls : List String}
    (h : ∀ url ∈ urls, IsLink s url) :
    e.addAll s (urlTokens urls) = { e with urls := e.urls ++ urls } := by
  induction urls generalizing e with
  | nil => simp [urlTokens]
  | cons url urls ih =>
    have hcons : urlTokens (url :: urls) = [url.toList] ++ urlTokens urls := rfl
    rw [hcons, addAll_append, addAll_singleton ((h url (List.mem_cons_self ..)).classify? hs),
      ih fun u hu => h u (List.mem_cons_of_mem _ hu)]
    simp [add]

end Outline

open Outline

variable {s : Setting} {p : Project} {m : Milestone} {r : Roadmap}

/-! ### Projects -/

/-- What the tokens of a project say. -/
def Project.contents (p : Project) : Extra where
  startAt := p.dates.map (·.startAt)
  endAt := p.dates.map (·.endAt)
  percentage := p.percentage
  milestone := p.milestone
  color := p.color
  urls := p.urls

/-- A project whose line can be read back.  Only a project that is written
without a block needs a title without one. -/
@[mk_iff] structure Project.WellFormed (s : Setting) (p : Project) : Prop where
  title_ne_nil : p.title.toList ≠ []
  bar : p.title.toList.head? ≠ some '|'
  feed : '\n' ∉ p.title.toList
  trimmed : Trimmed isMargin p.title.toList
  noBlock : p.tokens s.layout = [] → NoBlock p.title.toList
  midnight : ∀ span ∈ p.dates,
    span.startAt.time = Time.midnight ∧ span.endAt.time = Time.midnight
  ordered : ∀ span ∈ p.dates, span.startAt < span.endAt
  percentage : p.percentage ≤ 100
  urls : ∀ url ∈ p.urls, IsLink s url

instance (s : Setting) (p : Project) : Decidable (p.WellFormed s) :=
  decidable_of_iff _ (Project.wellFormed_iff s p).symm

/-- Every token that is written for a project is plain. -/
theorem Project.WellFormed.isPlain (h : p.WellFormed s) :
    ∀ token ∈ p.tokens .standard, IsPlain token := by
  intro token htoken
  simp only [Project.tokens, List.mem_append] at htoken
  rcases htoken with (((hdate | hpercentage) | hcolor) | hurl) | hmilestone
  · obtain ⟨span, -, htoken⟩ := List.mem_flatMap.1 hdate
    simp only [List.mem_cons, List.not_mem_nil, or_false] at htoken
    rcases htoken with rfl | rfl <;> exact isPlain_dateToken _
  · split at hpercentage
    · cases hpercentage
    · rw [List.mem_singleton.1 hpercentage]
      exact isPlain_decimal_percent _
  · obtain ⟨color, -, rfl⟩ := List.mem_map.1 hcolor
    exact isPlain_color color
  · obtain ⟨url, hmem, rfl⟩ := List.mem_map.1 hurl
    exact (h.urls url hmem).isPlain
  · split at hmilestone
    · cases hmilestone
    · rw [List.mem_singleton.1 hmilestone]
      exact isPlain_bar_decimal _

/-- The block of a project says what it was written for. -/
theorem Project.WellFormed.read_tokens (hs : s.layout = .standard) (h : p.WellFormed s) :
    Extra.read s (commaJoin (p.tokens .standard)) = p.contents := by
  rw [Extra.read_commaJoin hs h.isPlain, Project.tokens, Extra.addAll_append, Extra.addAll_append,
    Extra.addAll_append, Extra.addAll_append, Extra.addAll_dates hs h.midnight,
    Extra.addAll_percentage hs h.percentage rfl, Extra.addAll_color hs p.color rfl,
    Extra.addAll_urls hs h.urls, Extra.addAll_milestone hs p.milestone rfl]
  rfl

/-- Two dates in order make the span that they were written for. -/
theorem Project.WellFormed.span?_contents (h : p.WellFormed s) : p.contents.span? = p.dates := by
  rcases hdates : p.dates with - | span
  · simp [Extra.span?, Project.contents, hdates]
  · have hlt := h.ordered span hdates
    simp [Extra.span?, Project.contents, hdates, Span.make?, hlt]

/-- The line of a project is read as the project. -/
theorem Project.WellFormed.readProject_line (hs : s.layout = .standard) (h : p.WellFormed s) :
    readProject s ['\t'] (p.line .standard) = p := by
  -- a title that is not empty begins the body, so neither a tab nor a mark does
  have hhead : (withExtra p.title.toList (p.tokens .standard)).head? = p.title.toList.head? :=
    head?_withExtra h.title_ne_nil
  have htab : (withExtra p.title.toList (p.tokens .standard)).head? ≠ some '\t' := by
    rw [hhead]
    intro hc
    exact absurd (h.trimmed.head '\t' hc) (by decide)
  have hbar : (withExtra p.title.toList (p.tokens .standard)).head? ≠ some '|' := by
    rw [hhead]
    exact h.bar
  have hno : p.tokens .standard = [] → NoBlock p.title.toList := by
    rw [← hs]
    exact h.noBlock
  have hdepth : UInt8.ofNat (min p.indentation.toNat 255) = p.indentation := by
    have := p.indentation.toNat_lt
    rw [Nat.min_eq_left (by omega), UInt8.ofNat_toNat]
  rw [Project.line_eq, readProject, splitUnits_tabs htab]
  simp only [dropMark_eq_self hbar, splitExtra_withExtra_of_isPlain h.trimmed h.isPlain hno,
    h.read_tokens hs, h.span?_contents, hdepth, String.ofList_toList]
  rfl

/-! ### Milestones -/

/-- What the tokens of a milestone say. -/
def Milestone.contents (m : Milestone) : Extra where
  startAt := m.deadlineAt
  color := m.color
  urls := m.urls

/-- A milestone whose line can be read back. -/
@[mk_iff] structure Milestone.WellFormed (s : Setting) (m : Milestone) : Prop where
  feed : '\n' ∉ m.title.toList
  trimmed : Trimmed isMargin m.title.toList
  noBlock : m.tokens s.layout = [] → NoBlock m.title.toList
  midnight : ∀ i ∈ m.deadlineAt, i.time = Time.midnight
  urls : ∀ url ∈ m.urls, IsLink s url

instance (s : Setting) (m : Milestone) : Decidable (m.WellFormed s) :=
  decidable_of_iff _ (Milestone.wellFormed_iff s m).symm

theorem Milestone.WellFormed.isPlain (h : m.WellFormed s) :
    ∀ token ∈ m.tokens .standard, IsPlain token := by
  intro token htoken
  simp only [Milestone.tokens, List.mem_append] at htoken
  rcases htoken with (hdate | hcolor) | hurl
  · obtain ⟨i, -, rfl⟩ := List.mem_map.1 hdate
    exact isPlain_dateToken i
  · obtain ⟨color, -, rfl⟩ := List.mem_map.1 hcolor
    exact isPlain_color color
  · obtain ⟨url, hmem, rfl⟩ := List.mem_map.1 hurl
    exact (h.urls url hmem).isPlain

/-- The block of a milestone says what it was written for. -/
theorem Milestone.WellFormed.read_tokens (hs : s.layout = .standard) (h : m.WellFormed s) :
    Extra.read s (commaJoin (m.tokens .standard)) = m.contents := by
  rw [Extra.read_commaJoin hs h.isPlain, Milestone.tokens, Extra.addAll_append,
    Extra.addAll_append, Extra.addAll_deadline hs h.midnight, Extra.addAll_color hs m.color rfl,
    Extra.addAll_urls hs h.urls]
  rfl

/-- The line of a milestone is read as the milestone. -/
theorem Milestone.WellFormed.readMilestone_line (hs : s.layout = .standard)
    (h : m.WellFormed s) : readMilestone s (m.line .standard) = some m := by
  have hno : m.tokens .standard = [] → NoBlock m.title.toList := by
    rw [← hs]
    exact h.noBlock
  have hmark : ∀ body, ('|' :: body).dropWhile isMargin = '|' :: body := fun body => rfl
  rw [Milestone.line_eq, readMilestone, hmark]
  simp only [dropMark_cons, splitExtra_withExtra_of_isPlain h.trimmed h.isPlain hno,
    h.read_tokens hs, String.ofList_toList]
  rfl

/-! ### The whole outline -/

/-- A title that is not blank is not taken for indentation. -/
theorem Project.WellFormed.head?_title (h : p.WellFormed s) :
    ∃ c title, p.title.toList = c :: title ∧ isMargin c = false := by
  obtain ⟨c, title, htitle⟩ := List.exists_cons_of_ne_nil h.title_ne_nil
  exact ⟨c, title, htitle, h.trimmed.head c (by rw [htitle]; rfl)⟩

/-- The line of a project is its indentation and a body that begins with no margin. -/
theorem Project.WellFormed.line_cases (layout : Layout) (h : p.WellFormed s) :
    ∃ c body, p.line layout = List.replicate p.indentation.toNat '\t' ++ c :: body ∧
      isMargin c = false ∧ c ≠ '|' := by
  obtain ⟨c, title, htitle, hc⟩ := h.head?_title
  have hbar : c ≠ '|' := by
    rintro rfl
    exact h.bar (by rw [htitle]; rfl)
  have hhead : (withExtra p.title.toList (p.tokens layout)).head? = some c := by
    rw [head?_withExtra h.title_ne_nil, htitle]
    rfl
  obtain ⟨body, hbody⟩ : ∃ body, withExtra p.title.toList (p.tokens layout) = c :: body := by
    rcases hextra : withExtra p.title.toList (p.tokens layout) with - | ⟨d, body⟩
    · rw [hextra] at hhead
      cases hhead
    · rw [hextra] at hhead
      exact ⟨body, by rw [Option.some.inj hhead]⟩
  exact ⟨c, body, by rw [Project.line_eq, hbody], hc, hbar⟩

theorem Project.WellFormed.isProjectLine (layout : Layout) (h : p.WellFormed s) :
    Outline.isProjectLine (p.line layout) = true := by
  obtain ⟨c, body, hline, hc, hbar⟩ := h.line_cases layout
  rw [hline, isProjectLine_iff]
  constructor
  · simp [isBlankLine, hc]
  · rw [isMilestoneLine, dropWhile_append_of_forall fun d hd => by
      rw [List.eq_of_mem_replicate hd]
      rfl]
    simp [hc, hbar]

/-- The line of a project shows its indentation as the unit. -/
theorem Project.WellFormed.shownUnit? (layout : Layout) (h : p.WellFormed s) :
    Outline.shownUnit? (p.line layout) =
      if p.indentation = 0 then none else some (List.replicate p.indentation.toNat '\t') := by
  obtain ⟨c, body, hline, hc, -⟩ := h.line_cases layout
  have htabs : ∀ d ∈ List.replicate p.indentation.toNat '\t', isIndent d = true := by
    intro d hd
    rw [List.eq_of_mem_replicate hd]
    rfl
  have hbody : ∀ d ∈ (c :: body).head?, isIndent d = false := by
    rintro d ⟨⟩
    exact isIndent_eq_false hc
  rw [hline, shownUnit?_append htabs (by simp) hbody]
  simp only [List.replicate_eq_nil_iff, ← UInt8.toNat_inj, UInt8.toNat_zero]

/-- A roadmap that can be read back.  The first project that is indented is
indented by one step, and so shows the unit. -/
@[mk_iff] structure Roadmap.WellFormed (r : Roadmap) : Prop where
  layout : r.layout = .standard
  updatedAt : r.updatedAt = r.createdAt
  accessedAt : r.accessedAt = r.createdAt
  projects : ∀ p ∈ r.projects, p.WellFormed r.heading.setting
  milestones : ∀ m ∈ r.milestones, m.WellFormed r.heading.setting
  first : ∀ p ∈ r.projects.find? (fun p => !p.isEpic), p.indentation = 1

instance (r : Roadmap) : Decidable r.WellFormed :=
  decidable_of_iff _ (Roadmap.wellFormed_iff r).symm

/-- The first indented project shows the unit of the outline. -/
theorem findSome?_shownUnit? (layout : Layout) {projects : List Project}
    (h : ∀ p ∈ projects, p.WellFormed s) :
    (projects.map (Project.line layout)).findSome? shownUnit? =
      (projects.find? (fun p => !p.isEpic)).map fun p =>
        List.replicate p.indentation.toNat '\t' := by
  induction projects with
  | nil => rfl
  | cons p projects ih =>
    have ih := ih fun q hq => h q (List.mem_cons_of_mem _ hq)
    have hp := (h p (List.mem_cons_self ..)).shownUnit? layout
    rw [List.map_cons, List.findSome?_cons, hp, List.find?_cons]
    by_cases hzero : p.indentation = 0
    · have hepic : p.isEpic = true := decide_eq_true hzero
      rw [if_pos hzero, hepic]
      exact ih
    · have hepic : p.isEpic = false := decide_eq_false hzero
      rw [if_neg hzero, hepic]
      rfl

/-- The outline of a well-formed roadmap is indented by tabs. -/
theorem Roadmap.WellFormed.unitOf_lines (h : r.WellFormed) : unitOf r.lines = ['\t'] := by
  have hprojects := findSome?_shownUnit? r.layout h.projects
  have hmilestones : (r.milestones.map (Milestone.line r.layout)).findSome? shownUnit? = none := by
    rw [List.findSome?_eq_none_iff]
    intro line hline
    obtain ⟨m, -, rfl⟩ := List.mem_map.1 hline
    rw [Milestone.line_eq, shownUnit?_milestone]
  have hseparator : (if (r.projects.map (Project.line r.layout)).isEmpty ||
      (r.milestones.map (Milestone.line r.layout)).isEmpty then [] else [[]]).findSome?
        shownUnit? = none := by
    rw [List.findSome?_eq_none_iff]
    intro line hline
    rw [mem_separator hline]
    rfl
  rw [unitOf, Roadmap.lines_eq, paragraphs, List.findSome?_append, List.findSome?_append,
    hprojects, hseparator, hmilestones]
  -- without an indented project the unit is a tab anyway
  rcases hfirst : r.projects.find? (fun p => !p.isEpic) with - | p
  · rw [hfirst]
    rfl
  · have hone : p.indentation = 1 := h.first p hfirst
    rw [hfirst, Option.map_some, hone]
    rfl

theorem Project.WellFormed.feed_not_mem_line (h : p.WellFormed s) :
    '\n' ∉ p.line .standard := by
  have hextra := feed_not_mem_withExtra h.feed fun t ht => (h.isPlain t ht).feed
  rw [Project.line_eq, List.mem_append, not_or]
  exact ⟨fun hmem => absurd (List.eq_of_mem_replicate hmem) (by decide), hextra⟩

theorem Milestone.WellFormed.feed_not_mem_line (h : m.WellFormed s) :
    '\n' ∉ m.line .standard := by
  have hextra := feed_not_mem_withExtra h.feed fun t ht => (h.isPlain t ht).feed
  rw [Milestone.line_eq, List.mem_cons, not_or]
  exact ⟨by decide, hextra⟩

/-- No title ends with a carriage return, nor does a line. -/
theorem getLast?_append_withExtra {head title : List Char} (hhead : head.getLast? ≠ some '\r')
    (h : Trimmed isMargin title) (tokens : List (List Char)) :
    (head ++ withExtra title tokens).getLast? ≠ some '\r' := by
  rw [← withExtra_append]
  refine getLast?_withExtra fun hlast => ?_
  rw [List.getLast?_append] at hlast
  rcases htitle : title.getLast? with - | c
  · rw [htitle, Option.none_or] at hlast
    exact hhead hlast
  · rw [htitle, Option.some_or] at hlast
    rw [Option.some.inj hlast] at htitle
    exact absurd (h.last '\r' htitle) (by decide)

theorem Project.WellFormed.line_ne_nil (h : p.WellFormed s) (layout : Layout) :
    p.line layout ≠ [] := by
  rw [Project.line_eq]
  exact List.append_ne_nil_of_right_ne_nil _ (withExtra_ne_nil h.title_ne_nil)

theorem Project.WellFormed.getLast?_line (h : p.WellFormed s) (layout : Layout) :
    (p.line layout).getLast? ≠ some '\r' := by
  rw [Project.line_eq]
  refine getLast?_append_withExtra (fun hlast => ?_) h.trimmed _
  exact absurd (List.eq_of_mem_replicate (List.mem_of_getLast? hlast)) (by decide)

theorem Milestone.WellFormed.getLast?_line (h : m.WellFormed s) (layout : Layout) :
    (m.line layout).getLast? ≠ some '\r' := by
  rw [Milestone.line_eq]
  exact getLast?_append_withExtra (show ['|'].getLast? ≠ _ by decide) h.trimmed _

/-- The lines of a well-formed roadmap are found again in its outline. -/
theorem Roadmap.WellFormed.linesOf_outline (h : r.WellFormed) :
    linesOf r.outline.toList = r.lines := by
  have hcases : ∀ line ∈ r.projects.map (Project.line r.layout) ++
      r.milestones.map (Milestone.line r.layout),
      line ≠ [] ∧ '\n' ∉ line ∧ line.getLast? ≠ some '\r' := by
    intro line hline
    rw [h.layout] at hline
    rcases List.mem_append.1 hline with hline | hline
    · obtain ⟨p, hp, rfl⟩ := List.mem_map.1 hline
      have hp := h.projects p hp
      exact ⟨hp.line_ne_nil _, hp.feed_not_mem_line, hp.getLast?_line _⟩
    · obtain ⟨m, hm, rfl⟩ := List.mem_map.1 hline
      have hm := h.milestones m hm
      refine ⟨?_, hm.feed_not_mem_line, hm.getLast?_line _⟩
      rw [Milestone.line_eq]
      exact List.cons_ne_nil _ _
  rw [Roadmap.outline, String.toList_ofList, Roadmap.lines_eq]
  exact linesOf_paragraphs (fun line hline => (hcases line hline).1)
    (fun line hline => (hcases line hline).2.1) fun line hline => (hcases line hline).2.2

theorem Roadmap.WellFormed.isProjectLine_of_mem (h : r.WellFormed) :
    ∀ line ∈ r.projects.map (Project.line r.layout), isProjectLine line = true := by
  intro line hline
  obtain ⟨p, hp, rfl⟩ := List.mem_map.1 hline
  exact (h.projects p hp).isProjectLine _

theorem Roadmap.isMilestoneLine_of_mem (r : Roadmap) :
    ∀ line ∈ r.milestones.map (Milestone.line r.layout), isMilestoneLine line = true := by
  intro line hline
  obtain ⟨m, -, rfl⟩ := List.mem_map.1 hline
  rw [Milestone.line_eq]
  exact isMilestoneLine_cons _

theorem Roadmap.WellFormed.readProjects_lines (h : r.WellFormed) :
    readProjects r.heading.setting r.lines = r.projects := by
  have hread : ∀ p ∈ r.projects, readProject r.heading.setting ['\t'] (p.line r.layout) = p := by
    intro p hp
    rw [h.layout, (h.projects p hp).readProject_line h.layout]
  rw [readProjects, h.unitOf_lines, Roadmap.lines_eq,
    filter_isProjectLine_paragraphs h.isProjectLine_of_mem r.isMilestoneLine_of_mem, List.map_map]
  exact (List.map_congr_left hread).trans (List.map_id' _)

theorem Roadmap.WellFormed.readMilestones_lines (h : r.WellFormed) :
    readMilestones r.heading.setting r.lines = r.milestones := by
  have hread : ∀ m ∈ r.milestones,
      readMilestone r.heading.setting (m.line r.layout) = some m := by
    intro m hm
    rw [h.layout, (h.milestones m hm).readMilestone_line h.layout]
  rw [readMilestones, Roadmap.lines_eq,
    filter_isMilestoneLine_paragraphs h.isProjectLine_of_mem r.isMilestoneLine_of_mem,
    List.filterMap_map]
  exact (List.filterMap_congr hread).trans List.filterMap_some

/-- **A well-formed roadmap is read back from its outline.** -/
theorem Roadmap.reread_eq (h : r.WellFormed) : r.reread = r := by
  have hprojects := h.readProjects_lines
  have hmilestones := h.readMilestones_lines
  -- the history that reading begins is the one that the roadmap has
  have htimes := h.updatedAt
  have htimes' := h.accessedAt
  rcases r with ⟨id, prevId, title, layout, baseUrl, projects, milestones, created, updated,
    accessed⟩
  dsimp only at htimes htimes'
  subst htimes htimes'
  rw [Roadmap.reread, Roadmap.ofOutline, h.linesOf_outline]
  simp only [hprojects, hmilestones]
  rfl

/-- A roadmap with bracketed titles, a jump in depth, and every kind of token. -/
def Roadmap.bracketed : Roadmap where
  id := 7
  prevId := some 0
  title := "Plan"
  layout := .standard
  baseUrl := "https://example.com"
  projects :=
    [{ indentation := 0
       title := "Launch [a] ]["
       dates := some ⟨.startOf ⟨2024, 1, 15, by decide⟩, .startOf ⟨12024, 2, 29, by decide⟩⟩
       color := some ⟨0, 171, 205⟩
       percentage := 100
       urls := ["https://example.com/a,b]", "issues/7"]
       milestone := 1 },
     { indentation := 1, title := "Build ]x[" },
     { indentation := 3, title := "Test [all]", percentage := 25 }]
  milestones :=
    [{ title := "Done", deadlineAt := some (.startOf ⟨-1, 12, 31, by decide⟩) }, { title := "" }]
  createdAt := .startOf ⟨2024, 1, 1, by decide⟩
  updatedAt := .startOf ⟨2024, 1, 1, by decide⟩
  accessedAt := .startOf ⟨2024, 1, 1, by decide⟩

theorem Roadmap.reread_bracketed :
    Roadmap.bracketed.WellFormed ∧ Roadmap.bracketed.reread = Roadmap.bracketed :=
  ⟨by decide +kernel, Roadmap.reread_eq (by decide +kernel)⟩

end TextRoadmap
