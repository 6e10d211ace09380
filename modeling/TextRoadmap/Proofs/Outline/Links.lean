/-
TextRoadmap/Proofs/Outline/Links.lean

The links that reading an outline keeps, and where charts lead them.

A token is kept as a link if it is absolute or makes an address under the
base (`IsKept`), and a chart resolves the links it is given
(`Roadmap.links_chart`).  So all links of a chart name hosts if the base
leads every link to a host, and the two links that decide this can be
written into an outline (`Roadmap.exists_mem_links`).  Together
(`Roadmap.links_absolute_iff`): the links of all charts under a base are
absolute if and only if these two are, where they are kept.

This is so for web bases but not for all: under a `mailto:` base links are
kept that name no host (`Roadmap.link_under_mailto`).
-/
import Mathlib.Data.Bool.Basic
import TextRoadmap.Proofs.Chart.Gaps
import TextRoadmap.Proofs.Link.Bases
import TextRoadmap.Proofs.Outline.Extra
import TextRoadmap.Proofs.Outline.RoundTrip

namespace TextRoadmap

open TextRoadmap.Text TextRoadmap.Calendar

/-! ### The links of roadmaps and charts -/

/-- All links of a roadmap, those of its projects first. -/
def Roadmap.links (r : Roadmap) : List String :=
  r.projects.flatMap (·.urls) ++ r.milestones.flatMap (·.urls)

/-- All links of a chart, those of its projects first. -/
def Chart.links (c : Chart) : List String :=
  c.projects.flatMap (·.urls) ++ c.milestones.flatMap (·.urls)

namespace Chart

theorem map_urls_compileProjects (baseUrl : String) (projects : List Project) :
    (compileProjects baseUrl projects).map (·.urls) =
      projects.map fun p => p.urls.map (Link.resolve baseUrl) :=
  map_eq_map_of_forall₂ (forall₂_compileProjects baseUrl projects) fun _ _ h => h.urls

theorem map_urls_compileMilestones (baseUrl : String) (projects : List Project)
    (milestones : List Milestone) :
    (compileMilestones baseUrl projects milestones).map (·.urls) =
      milestones.map fun m => m.urls.map (Link.resolve baseUrl) :=
  map_eq_map_of_forall₂ (forall₂_compileMilestones baseUrl projects milestones)
    fun _ _ h => h.urls

end Chart

/-- The links of a chart are those of the roadmap, resolved. -/
theorem Roadmap.links_chart (r : Roadmap) :
    r.chart.links = r.links.map (Link.resolve r.baseUrl) := by
  have hprojects := Chart.map_urls_compileProjects r.baseUrl r.projects
  have hmilestones := Chart.map_urls_compileMilestones r.baseUrl
    (Chart.compileProjects r.baseUrl r.projects) r.milestones
  rw [Chart.links, Roadmap.links, List.map_append, List.map_flatMap, List.map_flatMap,
    List.flatMap_def, List.flatMap_def, List.flatMap_def, List.flatMap_def]
  exact congrArg₂ (fun a b => a.flatten ++ b.flatten) hprojects hmilestones

/-! ### What is kept -/

namespace Outline

variable {s : Setting} {e : Extra} {url : String} {token : List Char} {tokens : List (List Char)}

/-- What a token has to be to be kept as a link. -/
def IsKept (base url : String) : Prop :=
  Link.isAbsolute url = true ∨ base ≠ "" ∧ Link.isValid (Link.join base url) = true

/-- A token that is read as a link is kept as it stands. -/
theorem eq_url_of_readUrl? {t : Token} (h : readUrl? s token = some t) :
    t = .url (String.ofList token) ∧ IsKept s.baseUrl (String.ofList token) := by
  obtain ⟨hkept, ht⟩ := Option.ite_none_right_eq_some.1 h
  refine ⟨(Option.some.inj ht).symm, ?_⟩
  simpa [IsKept, String.isEmpty_iff] using hkept

theorem isKept_of_classify? (h : classify? s token = some (.url url)) : IsKept s.baseUrl url := by
  obtain ⟨heq, hkept⟩ := eq_url_of_readUrl? (classify?_inv h)
  obtain rfl := Token.url.inj heq
  exact hkept

theorem isKept_of_mem_readTokens (skip : Nat) (h : .url url ∈ readTokens s skip tokens) :
    IsKept s.baseUrl url := by
  rcases mem_readTokens skip h with ⟨token, -, hread⟩ | ⟨group, -, -, hread⟩
  · exact isKept_of_classify? hread
  · -- a date over several tokens is no link
    obtain ⟨i, -, hi⟩ := Option.map_eq_some_iff.1 hread
    cases hi

theorem mem_urls_ofTokens {ts : List Token} (h : url ∈ (Extra.ofTokens ts).urls) :
    .url url ∈ ts := by
  rw [Extra.ofTokens_eq] at h
  obtain ⟨t, ht, hurl⟩ := List.mem_filterMap.1 h
  cases t with
  | url link =>
    obtain rfl := Option.some.inj hurl
    exact ht
  | _ => cases hurl

theorem isKept_of_mem_read {block : List Char} (h : url ∈ (Extra.read s block).urls) :
    IsKept s.baseUrl url :=
  isKept_of_mem_readTokens 0 (mem_urls_ofTokens h)

end Outline

open Outline

variable {base url : String}

/-- Every link that is read from an outline is one that is kept. -/
theorem Roadmap.isKept_of_mem_links {h : Heading} {now : Instant} {text : String}
    (hurl : url ∈ (Roadmap.ofOutline h now text).links) : IsKept h.baseUrl url := by
  rcases List.mem_append.1 hurl with hurl | hurl
  · obtain ⟨p, hp, hurl⟩ := List.mem_flatMap.1 hurl
    obtain ⟨line, -, rfl⟩ := List.mem_map.1 hp
    exact isKept_of_mem_read (s := h.setting) hurl
  · obtain ⟨m, hm, hurl⟩ := List.mem_flatMap.1 hurl
    obtain ⟨line, -, hline⟩ := List.mem_filterMap.1 hm
    unfold readMilestone at hline
    dsimp only at hline
    split at hline
    · cases hline
    · cases hline
      exact isKept_of_mem_read (s := h.setting) hurl

/-- A link that is kept resolves to an absolute one if the base leads it to a
host. -/
theorem isAbsolute_resolve_of_isKept (h : IsKept base url) (hhost : Link.LeadsToHost base url) :
    Link.isAbsolute (Link.resolve base url) = true := by
  rw [Link.resolve]
  split
  · rename_i hself
    rcases h with h | ⟨hbase, -⟩
    · exact h
    · simpa [String.isEmpty_iff, hbase] using hself
  · rename_i hself
    rcases h with h | ⟨-, hvalid⟩
    · simp [h] at hself
    · exact hhost hvalid

/-! ### Links that can be written -/

/-- A probe stands in a block as it is, and nothing is read there but a link. -/
theorem isLink_of_mem_probes {s : Setting} (hs : s.layout = .standard)
    (h : url ∈ Link.probes base) (hread : readUrl? s url.toList = some (.url url)) :
    IsLink s url := by
  have hchars : ∀ c ∈ url.toList, c ∈ "./C:".toList := by
    obtain ⟨t, rfl, ht⟩ := Link.exists_of_mem_probes h
    rw [String.toList_ofList]
    exact List.forall_mem_cons.2 ⟨by decide, ht⟩
  have hne : url.toList ≠ [] := by
    obtain ⟨t, rfl, -⟩ := Link.exists_of_mem_probes h
    simp
  have hplain : IsPlain url.toList := by
    have hall : ∀ c ∈ "./C:".toList, c ∉ blockChars := by simp [blockChars]
    exact isPlain_of_forall hne fun c hc => hall c (hchars c hc)
  have hdate : readDate? s url.toList = none :=
    readDate?_eq_none hs fun hc => absurd (hchars _ hc) (by decide)
  have hpercentage : readPercentage? url.toList = none :=
    readPercentage?_eq_none fun hc => absurd (hchars _ (List.mem_of_getLast? hc)) (by decide)
  have hmilestone : readMilestone? url.toList = none :=
    readMilestone?_eq_none fun hc => absurd (hchars _ (List.mem_of_head? hc)) (by decide)
  have hcolor : readColor? url.toList = none :=
    readColor?_eq_none fun hc => absurd (hchars _ (List.mem_of_head? hc)) (by decide)
  refine isLink_of_classify? hs hplain ?_
  rw [classify?, hdate, hpercentage, hmilestone, hcolor, hread]
  rfl

/-- A roadmap whose only content is a project with the link. -/
def Roadmap.withLink (h : Heading) (now : Instant) (url : String) : Roadmap :=
  ⟨h.id, h.prevId, h.title, h.layout, h.baseUrl,
    [{ indentation := 0, title := "A", urls := [url] }], [], now, now, now⟩

theorem Roadmap.wellFormed_withLink {h : Heading} (hlayout : h.layout = .standard)
    (hlink : IsLink h.setting url) (now : Instant) : (withLink h now url).WellFormed where
  layout := hlayout
  updatedAt := rfl
  accessedAt := rfl
  projects := by
    intro p hp
    rw [List.mem_singleton.1 hp]
    exact {
      title_ne_nil := show "A".toList ≠ [] by decide
      bar := show "A".toList.head? ≠ some '|' by decide
      feed := show '\n' ∉ "A".toList by decide
      trimmed := show Trimmed isMargin "A".toList by decide
      noBlock := fun htokens => by cases htokens
      midnight := by rintro span ⟨⟩
      ordered := by rintro span ⟨⟩
      percentage := show (0 : UInt8) ≤ 100 by decide
      urls := fun u hu => by
        rw [List.mem_singleton.1 hu]
        exact hlink }
  milestones := by
    rintro m ⟨⟩
  first := by
    rintro p hp
    cases hp

/-- A link that can stand in a block is written into some outline. -/
theorem Roadmap.exists_mem_links {h : Heading} (hlayout : h.layout = .standard)
    (hlink : IsLink h.setting url) (now : Instant) :
    ∃ text, url ∈ (Roadmap.ofOutline h now text).links := by
  have hwell := wellFormed_withLink hlayout hlink now
  refine ⟨(withLink h now url).outline, ?_⟩
  have hprojects : (Roadmap.ofOutline h now (withLink h now url).outline).projects =
      (withLink h now url).projects := by
    rw [Roadmap.ofOutline, hwell.linesOf_outline]
    exact hwell.readProjects_lines
  rw [Roadmap.links, hprojects]
  exact List.mem_append_left _ (List.mem_cons_self ..)

/-! ### Absolute links -/

theorem Link.ne_empty_of_isValid_join {link : String}
    (h : Link.isValid (Link.join base link) = true) : base ≠ "" := by
  rintro rfl
  rw [Link.isValid, Link.Address.read?_join] at h
  cases h

/-- **Links that are kept lead to hosts under some bases only**: for the
links of all roadmaps and charts under a base to be absolute it is necessary
and enough that a single slash and a climb, where they make addresses under
the base, make some that name hosts. -/
theorem Roadmap.links_absolute_iff (base : String) :
    (∀ id prevId title layout now text,
      let r := Roadmap.ofOutline ⟨id, prevId, title, layout, base⟩ now text
      (∀ url ∈ r.links, Link.isAbsolute (Link.resolve base url) = true) ∧
        ∀ url ∈ r.chart.links, Link.isAbsolute url = true) ↔
      ∀ probe ∈ Link.probes base, Link.LeadsToHost base probe := by
  constructor
  · intro h probe hprobe hvalid
    have hbase := Link.ne_empty_of_isValid_join hvalid
    have hself : Link.isAbsolute probe = false := by
      obtain ⟨t, rfl, -⟩ := Link.exists_of_mem_probes hprobe
      by_contra habsolute
      have hvalid := Link.isValid_of_isAbsolute (Bool.eq_true_of_not_eq_false habsolute)
      rw [Link.not_isValid_slash] at hvalid
      cases hvalid
    let heading : Heading := ⟨0, none, "", .standard, base⟩
    let now : Instant := .startOf ⟨2020, 1, 1, by decide⟩
    have hread : readUrl? heading.setting probe.toList = some (.url probe) := by
      simp [readUrl?, heading, Heading.setting, hvalid, hbase]
    obtain ⟨text, htext⟩ :=
      Roadmap.exists_mem_links (h := heading) rfl (isLink_of_mem_probes rfl hprobe hread) now
    have habsolute := (h 0 none "" .standard now text).1 probe htext
    simpa [Link.resolve, hself, hbase] using habsolute
  · intro h id prevId title layout now text
    have hlinks : ∀ url ∈ (Roadmap.ofOutline ⟨id, prevId, title, layout, base⟩ now text).links,
        Link.isAbsolute (Link.resolve base url) = true := fun url hurl =>
      isAbsolute_resolve_of_isKept (isKept_of_mem_links hurl) (Link.leadsToHost_of_probes h url)
    refine ⟨hlinks, fun url hurl => ?_⟩
    rw [Roadmap.links_chart] at hurl
    obtain ⟨link, hlink, rfl⟩ := List.mem_map.1 hurl
    exact hlinks link hlink

/-- Under the address of a mailbox a link is kept that leads to no host. -/
theorem Roadmap.link_under_mailto :
    let r := Roadmap.ofOutline ⟨0, none, "", .standard, "mailto:team@example.com"⟩
      (.startOf ⟨2020, 1, 1, by decide⟩) "A [docs]"
    r.links = ["docs"] ∧ r.chart.links = ["mailto:team@example.com/docs"] ∧
      Link.isAbsolute (Link.resolve r.baseUrl "docs") = false ∧
      Link.isAbsolute "mailto:team@example.com/docs" = false := by
  decide +kernel

end TextRoadmap
