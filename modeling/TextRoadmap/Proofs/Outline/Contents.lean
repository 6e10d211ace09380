/-
TextRoadmap/Proofs/Outline/Contents.lean

What can be in a roadmap that was read from an outline.

No text is refused, so the bounds have to come from reading itself.  A
percentage is at most 100 and a link is one that is kept, since this holds of
every token (`isProper_of_classify?`) and no further token takes it away
(`Extra.IsProper.add`).  Dates are in order because two instants that are not
make no span.  And every project is where its line is, with the depth and
the title that the line shows (`standsIn_readProject`).

A chart keeps to the bounds (`isProper_of_mem_compileProjects`): the hull of
spans that take some time takes some time, and an average lies between what
is averaged.  So nothing can be wrong with the dates of a roadmap that was
read, and it is complete as soon as it has a title, a layout and one line
that names a project (`ofOutline_contents`).
-/
import TextRoadmap.Proofs.Chart.Epics
import TextRoadmap.Proofs.Chart.Span
import TextRoadmap.Proofs.Outline.Links
import TextRoadmap.Proofs.Outline.Rewrite

namespace TextRoadmap

open TextRoadmap.Text TextRoadmap.Calendar

/-! ### Bounds -/

namespace Outline

/-- A link as reading leaves it. -/
structure IsUsable (base url : String) : Prop where
  ne_empty : url ≠ ""
  bracket : '[' ∉ url.toList
  kept : IsKept base url

/-- A token within the bounds. -/
def Token.IsProper (base : String) : Token → Prop
  | .percentage value => value ≤ 100
  | .url link => IsUsable base link
  | _ => True

/-- Contents of a block within the bounds. -/
structure Extra.IsProper (base : String) (e : Extra) : Prop where
  percentage : e.percentage ≤ 100
  urls : ∀ url ∈ e.urls, IsUsable base url

end Outline

/-- A project whose dates are in order and whose percentage is one. -/
structure Project.IsProper (p : Project) : Prop where
  dates : ∀ span ∈ p.dates, span.startAt < span.endAt
  percentage : p.percentage ≤ 100

/-- The line is indented by as many units as the project, as far as these can
be counted, and holds its title behind them. -/
def Project.StandsIn (unit line : List Char) (p : Project) : Prop :=
  ∃ n body, line = (List.replicate n unit).flatten ++ body ∧ ¬ unit <+: body ∧
    p.indentation.toNat = min n 255 ∧ p.title.toList <:+: body

namespace Outline

variable {s : Setting} {base url : String} {e : Extra} {t : Token}
variable {token block body line unit : List Char}

/-! ### Tokens -/

theorem isProper_of_classify? (hne : token ≠ []) (hbracket : '[' ∉ token)
    (h : classify? s token = some t) : t.IsProper s.baseUrl := by
  have hread := classify?_inv h
  cases t with
  | percentage value =>
    obtain ⟨n, hn, hvalue⟩ := Option.map_eq_some_iff.1 hread
    obtain rfl := Token.percentage.inj hvalue
    have hle : n ≤ 100 := of_decide_eq_true (Option.filter_eq_some_iff.1 hn).2
    exact hle
  | url link =>
    obtain ⟨hlink, hkept⟩ := eq_url_of_readUrl? hread
    obtain rfl := Token.url.inj hlink
    exact ⟨by simpa using hne, by simpa using hbracket, hkept⟩
  | _ => trivial

theorem isProper_of_mem_tokensOf (hblock : '[' ∉ block) (h : t ∈ tokensOf s block) :
    t.IsProper s.baseUrl := by
  rcases mem_readTokens 0 h with ⟨token, htoken, hread⟩ | ⟨group, -, -, hread⟩
  · have hne : token ≠ [] := by simpa using List.mem_takeWhile_imp htoken
    have hmem : token ∈ commaSplit block := (List.takeWhile_sublist _).subset htoken
    refine isProper_of_classify? hne (fun hbracket => hblock ?_) hread
    rw [← commaJoin_commaSplit block]
    exact mem_commaJoin_of_mem hmem hbracket
  · obtain ⟨i, -, rfl⟩ := Option.map_eq_some_iff.1 hread
    trivial

/-! ### Blocks -/

theorem Extra.IsProper.add (h : e.IsProper base) (ht : t.IsProper base) :
    (e.add t).IsProper base := by
  cases t with
  | date i =>
    unfold Extra.add
    dsimp only
    split <;> exact ⟨h.percentage, h.urls⟩
  | percentage => exact ⟨ht, h.urls⟩
  | milestone => exact ⟨h.percentage, h.urls⟩
  | color => exact ⟨h.percentage, h.urls⟩
  | url url =>
    refine ⟨h.percentage, fun u hu => ?_⟩
    rcases List.mem_append.1 hu with hu | hu
    · exact h.urls u hu
    · rw [List.mem_singleton.1 hu]
      exact ht

/-- What is read from a block keeps to the bounds. -/
theorem Extra.isProper_read (hblock : '[' ∉ block) : (Extra.read s block).IsProper s.baseUrl :=
  List.foldlRecOn (tokensOf s block) Extra.add ⟨by decide, by rintro url ⟨⟩⟩
    fun _ he _ ht => he.add (isProper_of_mem_tokensOf hblock ht)

/-- Dates that are read are in order. -/
theorem Extra.lt_of_span? {span : Span} (h : e.span? = some span) : span.startAt < span.endAt :=
  (span?_eq_some_iff.1 h).2.2

/-! ### Lines -/

theorem trim_isInfix (p : Char → Bool) (title : List Char) : trim p title <:+: title :=
  (trim_isPrefix p title).isInfix.trans (List.dropWhile_suffix p).isInfix

theorem dropMark_isSuffix (body : List Char) : dropMark body <:+ body := by
  by_cases h : body.head? = some '|'
  · obtain ⟨rest, rfl⟩ := List.head?_eq_some_iff.1 h
    exact List.suffix_cons ..
  · rw [dropMark_eq_self h]

/-- A title is a part of its line. -/
theorem title_isInfix (body : List Char) : (splitExtra (dropMark body)).1 <:+: body := by
  refine List.IsInfix.trans ?_ (dropMark_isSuffix body).isInfix
  rcases splitExtra_cases (dropMark body) with ⟨-, h⟩ | ⟨title, block, rest, hbody, -, -, h⟩
  · rw [h]
  · rw [h, hbody]
    exact (trim_isInfix isMargin title).trans (List.prefix_append ..).isInfix

theorem standsIn_readProject (hunit : unit ≠ []) (s : Setting) (line : List Char) :
    (readProject s unit line).StandsIn unit line := by
  obtain ⟨hline, hnot⟩ := eq_of_splitUnits hunit (show splitUnits unit line = (_, _) from rfl)
  rw [readProject_eq]
  refine ⟨_, _, hline, hnot, toNat_indentation_projectAt .., ?_⟩
  rw [projectAt, String.toList_ofList]
  exact title_isInfix _

theorem isProper_readProject (s : Setting) (unit line : List Char) :
    (readProject s unit line).IsProper where
  dates _ := Extra.lt_of_span?
  percentage := (Extra.isProper_read (bracket_not_mem_splitExtra _)).percentage

theorem isUsable_of_mem_readProject (h : url ∈ (readProject s unit line).urls) :
    IsUsable s.baseUrl url :=
  (Extra.isProper_read (bracket_not_mem_splitExtra _)).urls url h

/-- A milestone that is read has the title and the links of its line. -/
theorem readMilestone_eq_some {m : Milestone} (h : readMilestone s line = some m) :
    m.title.toList <:+: line ∧ ∀ url ∈ m.urls, IsUsable s.baseUrl url := by
  unfold readMilestone at h
  dsimp only at h
  split at h
  · cases h
  · obtain rfl := Option.some.inj h
    refine ⟨?_, (Extra.isProper_read (bracket_not_mem_splitExtra _)).urls⟩
    rw [String.toList_ofList]
    exact (title_isInfix _).trans (List.dropWhile_suffix _).isInfix

/-! ### Lists of lines -/

/-- What is found in some items of a list is found in their order. -/
theorem sublistForall₂_filterMap {α β : Type} {R : β → α → Prop} {f : α → Option β}
    (h : ∀ a b, f a = some b → R b a) (l : List α) :
    List.SublistForall₂ R (l.filterMap f) l := by
  induction l with
  | nil => exact .nil
  | cons a l ih =>
    rcases hb : f a with - | b
    · rw [List.filterMap_cons_none hb]
      exact .cons_right ih
    · rw [List.filterMap_cons_some hb]
      exact .cons (h a b hb) ih

/-- There is one project for each line that names one. -/
theorem forall₂_readProjects (s : Setting) (lines : List (List Char)) :
    List.Forall₂ (fun line p => p.StandsIn (unitOf lines) line) (lines.filter isProjectLine)
      (readProjects s lines) := by
  rw [readProjects, List.forall₂_map_right_iff, List.forall₂_same]
  exact fun line _ => standsIn_readProject (isUnit_unitOf lines).ne_nil s line

/-- There is at most one milestone for each line that names one. -/
theorem sublistForall₂_readMilestones (s : Setting) (lines : List (List Char)) :
    List.SublistForall₂ (fun m line => m.title.toList <:+: line) (readMilestones s lines)
      (lines.filter isMilestoneLine) :=
  sublistForall₂_filterMap (fun _ _ h => (readMilestone_eq_some h).1) _

end Outline

open Outline

/-! ### Charts -/

/-- The hull of spans that take some time does so too. -/
theorem Span.IsHull.start_lt_end {S : Set Span} {s : Span} (hs : IsHull S s)
    (h : ∀ u ∈ S, u.startAt < u.endAt) : s.startAt < s.endAt := by
  obtain ⟨u, hu⟩ := hs.nonempty
  exact (hs.start_le hu).trans_lt ((h u hu).trans_le (hs.end_le hu))

/-- Compiling keeps dates in order and percentages in range. -/
theorem Chart.isProper_of_mem_compileProjects {baseUrl : String} {projects : List Project}
    (h : ∀ p ∈ projects, p.IsProper) {q : Project} (hq : q ∈ compileProjects baseUrl projects) :
    q.IsProper where
  dates span hspan := by
    obtain ⟨S, hS, hhull⟩ := exists_isHull_of_mem_datesOf ⟨q, hq, hspan⟩
    refine hhull.start_lt_end fun u hu => ?_
    obtain ⟨p, hp, hdates⟩ := hS hu
    exact (h p hp).dates u hdates
  percentage := by
    have hmem : q.percentage ∈ (compileProjects baseUrl projects).map (·.percentage) :=
      List.mem_map_of_mem hq
    rw [map_percentage_compileProjects] at hmem
    obtain ⟨p, hp, heq⟩ := List.mem_map.1 hmem
    rw [← heq]
    exact percentage_le_of_mem_rollUp (b := 100) (fun p hp => (h p hp).percentage) p hp

/-! ### Roadmaps -/

namespace Roadmap

variable {h : Heading} {now : Instant} {text : String} {r : Roadmap}

theorem isProper_of_mem_projects {p : Project} (hp : p ∈ (ofOutline h now text).projects) :
    p.IsProper := by
  obtain ⟨line, -, rfl⟩ := List.mem_map.1 hp
  exact isProper_readProject ..

theorem isUsable_of_mem_links {url : String} (hurl : url ∈ (ofOutline h now text).links) :
    IsUsable h.baseUrl url := by
  rcases List.mem_append.1 hurl with hurl | hurl
  · obtain ⟨p, hp, hurl⟩ := List.mem_flatMap.1 hurl
    obtain ⟨line, -, rfl⟩ := List.mem_map.1 hp
    exact isUsable_of_mem_readProject (s := h.setting) hurl
  · obtain ⟨m, hm, hurl⟩ := List.mem_flatMap.1 hurl
    obtain ⟨line, -, hline⟩ := List.mem_filterMap.1 hm
    exact (readMilestone_eq_some hline).2 url hurl

theorem isOrdered_ofOutline (h : Heading) (now : Instant) (text : String) :
    (ofOutline h now text).IsOrdered :=
  fun _ hp span hspan => ((isProper_of_mem_projects hp).dates span hspan).le

/-- An ordered roadmap can lack fields but has no other fault. -/
theorem validate_ne_endBeforeStart (hr : r.IsOrdered) (title startAt endAt : String) :
    r.validate ≠ .error (.endBeforeStart title startAt endAt) := by
  intro hfault
  cases hempty : r.title.isEmpty || r.layout.isEmpty || r.projects.isEmpty with
  | true =>
    rw [validate, if_pos hempty] at hfault
    cases hfault
  | false =>
    rw [validate_eq_ok_iff.2 ⟨hempty, hr⟩] at hfault
    cases hfault

/-- A roadmap that was read is complete if its heading and its lines are. -/
theorem validate_ofOutline_iff : (ofOutline h now text).validate = .ok () ↔
    h.title ≠ "" ∧ h.layout.text ≠ "" ∧
      ∃ line ∈ linesOf text.toList, isProjectLine line = true := by
  have hprojects : (ofOutline h now text).projects.isEmpty = false ↔
      ∃ line ∈ linesOf text.toList, isProjectLine line = true := by
    show ((linesOf text.toList).filter isProjectLine |>.map _).isEmpty = false ↔ _
    simp
  rw [validate_eq_ok_iff, and_iff_left (isOrdered_ofOutline h now text), ← hprojects]
  simp [ofOutline, Layout.isEmpty, and_assoc]

/-- **Reading an outline keeps to bounds**: there is one project for each line
that names one and at most one milestone for each that names one, in order;
links are such that they are kept; dates are in order and percentages are at
most 100, on the chart as well.  So neither the roadmap nor the one with the
contents of its chart has a project that ends before it starts, and both are
complete exactly if the heading has a title and a layout and some line names
a project. -/
theorem ofOutline_contents (h : Heading) (now : Instant) (text : String) :
    let lines := linesOf text.toList
    let r := ofOutline h now text
    List.Forall₂ (fun line p => p.StandsIn (unitOf lines) line) (lines.filter isProjectLine)
        r.projects ∧
      List.SublistForall₂ (fun m line => m.title.toList <:+: line) r.milestones
        (lines.filter isMilestoneLine) ∧
      (∀ p ∈ r.projects, p.IsProper) ∧ (∀ url ∈ r.links, IsUsable h.baseUrl url) ∧
      (∀ p ∈ r.chart.projects, p.IsProper) ∧
      ∀ v ∈ [r, r.withChart r.chart],
        (∀ title startAt endAt, v.validate ≠ .error (.endBeforeStart title startAt endAt)) ∧
        (v.validate = .ok () ↔
          h.title ≠ "" ∧ h.layout.text ≠ "" ∧ ∃ line ∈ lines, isProjectLine line = true) := by
  intro lines r
  have hordered : r.IsOrdered := isOrdered_ofOutline h now text
  refine ⟨forall₂_readProjects h.setting lines, sublistForall₂_readMilestones h.setting lines,
    fun p => isProper_of_mem_projects, fun url => isUsable_of_mem_links,
    fun p => Chart.isProper_of_mem_compileProjects fun p => isProper_of_mem_projects, ?_⟩
  intro v hv
  simp only [List.mem_cons, List.not_mem_nil, or_false] at hv
  rcases hv with rfl | rfl
  · exact ⟨validate_ne_endBeforeStart hordered, validate_ofOutline_iff⟩
  · refine ⟨validate_ne_endBeforeStart ((Chart.isOrdered_withChart_iff r).2 hordered), ?_⟩
    rw [Chart.validate_withChart_iff]
    exact validate_ofOutline_iff

end Roadmap

end TextRoadmap
