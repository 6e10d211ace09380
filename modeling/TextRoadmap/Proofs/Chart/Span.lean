/-
TextRoadmap/Proofs/Chart/Span.lean

The span of a chart.

The span is taken from the roadmap as it was given, where dates and deadlines
may be missing; the chart has filled them in.  Nothing that is filled in
leaves the span: inferred dates are hulls of given ones
(`exists_isHull_of_datesAt`), and an inferred deadline is the end of some
project of the chart.  For the latter the order of the dates counts, since a
deadline lies in a span only if it is not before its start.

So the roadmap with the contents of its chart has the span of the chart, and
it is complete exactly if the roadmap was (`chart_span`).
-/
import Mathlib.Order.Defs.LinearOrder
import Mathlib.Order.MinMax
import TextRoadmap.Proofs.Chart.Dates

namespace TextRoadmap.Chart

open TextRoadmap.Calendar

variable {projects : List Project} {baseUrl : String} {i : Nat} {s t : Span}

/-! ### Dates -/

/-- The dates of the projects in the list. -/
def datesOf (projects : List Project) : Set Span := {s | ∃ p ∈ projects, p.dates = some s}

theorem mem_datesOf_iff : s ∈ datesOf projects ↔ ∃ i, datesAt projects i = some s := by
  constructor
  · rintro ⟨p, hp, hs⟩
    obtain ⟨i, hi⟩ := List.mem_iff_getElem?.1 hp
    exact ⟨i, (datesAt_of_getElem? hi).trans hs⟩
  · rintro ⟨i, hi⟩
    obtain ⟨p, hp, hs⟩ := Option.bind_eq_some_iff.1 hi
    exact ⟨p, List.mem_of_getElem? hp, hs⟩

theorem datesBelow_subset (projects : List Project) (i : Nat) :
    datesBelow projects i ⊆ datesOf projects := by
  rintro s ⟨j, -, hj⟩
  exact mem_datesOf_iff.2 ⟨j, hj⟩

/-- The final dates of a source are a hull of given dates. -/
theorem exists_isHull_of_isSource (hi : IsSource projects i)
    (h : datesAt (compileProjects baseUrl projects) i = some t) :
    ∃ S ⊆ datesOf projects, Span.IsHull S t := by
  have hrule := datesRule_compileProjects baseUrl projects i
  rcases hown : datesAt projects i with - | s
  · have hbelow : (datesBelow projects i).Nonempty := by
      rcases hi with hi | hi
      · simp [hown] at hi
      · exact hi
    obtain ⟨s, hs, hhull⟩ := hrule.fromBelow hown hbelow
    obtain rfl := Option.some.inj (h.symm.trans hs)
    exact ⟨_, datesBelow_subset projects i, hhull⟩
  · obtain rfl := Option.some.inj (h.symm.trans (hrule.own s hown))
    refine ⟨{t}, ?_, Span.isHull_singleton t⟩
    rintro u rfl
    exact mem_datesOf_iff.2 ⟨i, hown⟩

/-- All final dates are hulls of given dates. -/
theorem exists_isHull_of_datesAt (h : datesAt (compileProjects baseUrl projects) i = some t) :
    ∃ S ⊆ datesOf projects, Span.IsHull S t := by
  have hrule := datesRule_compileProjects baseUrl projects i
  by_cases hi : IsSource projects i
  · exact exists_isHull_of_isSource hi h
  · -- dates from above are those of a source
    by_cases ha : ∃ a, IsNearestSource projects a i
    · obtain ⟨a, ha⟩ := ha
      rw [hrule.fromAbove hi a ha] at h
      exact exists_isHull_of_isSource ha.1.2 h
    · rw [hrule.undated hi ha] at h
      cases h

/-- Given dates are final. -/
theorem datesOf_subset (baseUrl : String) (projects : List Project) :
    datesOf projects ⊆ datesOf (compileProjects baseUrl projects) := by
  intro s hs
  obtain ⟨i, hi⟩ := mem_datesOf_iff.1 hs
  exact mem_datesOf_iff.2 ⟨i, (datesRule_compileProjects baseUrl projects i).own s hi⟩

theorem exists_isHull_of_mem_datesOf (h : t ∈ datesOf (compileProjects baseUrl projects)) :
    ∃ S ⊆ datesOf projects, Span.IsHull S t := by
  obtain ⟨i, hi⟩ := mem_datesOf_iff.1 h
  exact exists_isHull_of_datesAt hi

/-! ### Deadlines -/

/-- The latest end is the maximum of the ends. -/
theorem latestEnd?_eq_max? (projects : List Project) :
    latestEnd? projects = (projects.filterMap fun p => p.dates.map (·.endAt)).max? := by
  rw [latestEnd?]
  split
  · rename_i h
    rw [h, List.max?_nil]
  · rename_i first rest h
    rw [h, List.max?_cons']

/-- The latest end of a list of projects is the end of one of them. -/
theorem exists_of_latestEnd? {l : List Project} {deadline : Instant}
    (h : latestEnd? l = some deadline) : ∃ s ∈ datesOf l, s.endAt = deadline := by
  rw [latestEnd?_eq_max?] at h
  obtain ⟨p, hp, hend⟩ := List.mem_filterMap.1 (List.max?_mem h)
  obtain ⟨s, hs, rfl⟩ := Option.map_eq_some_iff.1 hend
  exact ⟨s, ⟨p, hp, hs⟩, rfl⟩

/-- A deadline of a chart is given, or the end of a project of the chart. -/
theorem deadline_compileMilestones {milestones : List Milestone} {m : Milestone}
    {deadline : Instant} (hm : m ∈ compileMilestones baseUrl projects milestones)
    (h : m.deadlineAt = some deadline) :
    (∃ m' ∈ milestones, m'.deadlineAt = some deadline) ∨
      ∃ s ∈ datesOf projects, s.endAt = deadline := by
  obtain ⟨i, hi, rfl⟩ := List.mem_mapIdx.1 hm
  rw [List.length_map] at hi
  rw [List.getElem_map] at h
  rcases hgiven : (milestones[i]).deadlineAt with - | given
  · -- what the milestone lacks comes from the projects that refer to it
    have hlatest : latestEnd? (referring projects (i + 1)) = some deadline := by
      simpa [completeMilestone, linkedMilestone, hgiven] using h
    obtain ⟨s, ⟨p, hp, hs⟩, hend⟩ := exists_of_latestEnd? hlatest
    exact Or.inr ⟨s, ⟨p, (List.mem_filter.1 hp).1, hs⟩, hend⟩
  · have heq : given = deadline := by
      simpa [completeMilestone, linkedMilestone, hgiven] using h
    exact Or.inl ⟨milestones[i], List.getElem_mem hi, heq ▸ hgiven⟩

/-- Given deadlines are final. -/
theorem exists_mem_compileMilestones {milestones : List Milestone} {m : Milestone}
    {deadline : Instant} (hm : m ∈ milestones) (h : m.deadlineAt = some deadline) :
    ∃ m' ∈ compileMilestones baseUrl projects milestones, m'.deadlineAt = some deadline := by
  obtain ⟨i, hi, rfl⟩ := List.mem_iff_getElem.1 hm
  refine ⟨completeMilestone (linkedMilestone baseUrl milestones[i]) (referring projects (i + 1)),
    List.mem_mapIdx.2 ⟨i, by simpa using hi, by rw [List.getElem_map]⟩, ?_⟩
  simp [completeMilestone, linkedMilestone, h]

/-! ### Roadmaps -/

variable {r : Roadmap}

/-- A roadmap with the contents of its chart is ordered if the roadmap is. -/
theorem isOrdered_withChart_iff (r : Roadmap) :
    (r.withChart r.chart).IsOrdered ↔ r.IsOrdered := by
  constructor
  · intro h p hp s hs
    obtain ⟨p', hp', hs'⟩ := datesOf_subset r.baseUrl r.projects ⟨p, hp, hs⟩
    exact h p' hp' s hs'
  · intro h p hp s hs
    obtain ⟨S, hS, hhull⟩ := exists_isHull_of_mem_datesOf ⟨p, hp, hs⟩
    refine hhull.start_le_end fun u hu => ?_
    obtain ⟨p', hp', hu'⟩ := hS hu
    exact h p' hp' u hu'

/-- The marks of the roadmap are marks of its chart. -/
theorem marks_subset (r : Roadmap) : r.marks ⊆ (r.withChart r.chart).marks := by
  rintro s (hs | ⟨m, hm, deadline, hdeadline, rfl⟩)
  · exact Or.inl (datesOf_subset r.baseUrl r.projects hs)
  · obtain ⟨m', hm', h⟩ := exists_mem_compileMilestones hm hdeadline
    exact Or.inr ⟨m', hm', deadline, h, rfl⟩

/-- Whatever holds the marks of an ordered roadmap holds those of its chart. -/
theorem mark_mem_span (hr : r.IsOrdered) (hs : Span.IsHull r.marks s)
    (ht : t ∈ (r.withChart r.chart).marks) : s.startAt ≤ t.startAt ∧ t.endAt ≤ s.endAt := by
  have hdates : ∀ u ∈ datesOf r.chart.projects, s.startAt ≤ u.startAt ∧ u.endAt ≤ s.endAt := by
    intro u hu
    obtain ⟨S, hS, hhull⟩ := exists_isHull_of_mem_datesOf hu
    obtain ⟨v, hv, hstart⟩ := hhull.start_least.1
    obtain ⟨w, hw, hend⟩ := hhull.end_greatest.1
    exact ⟨hstart ▸ hs.start_le (Or.inl (hS hv)), hend ▸ hs.end_le (Or.inl (hS hw))⟩
  rcases ht with ht | ⟨m, hm, deadline, hdeadline, rfl⟩
  · exact hdates t ht
  · rcases deadline_compileMilestones hm hdeadline with ⟨m', hm', h⟩ | ⟨u, hu, rfl⟩
    · have hmark : (⟨deadline, deadline⟩ : Span) ∈ r.marks := Or.inr ⟨m', hm', deadline, h, rfl⟩
      exact ⟨hs.start_le hmark, hs.end_le hmark⟩
    · -- the end of a project lies behind its start
      obtain ⟨p, hp, hpu⟩ := id hu
      have horder := (isOrdered_withChart_iff r).2 hr p hp u hpu
      obtain ⟨hstart, hend⟩ := hdates u hu
      exact ⟨hstart.trans horder, hend⟩

/-- A roadmap has no span exactly if no project has dates. -/
theorem span?_eq_none_iff_datesOf : r.span? = none ↔ datesOf r.projects = ∅ := by
  rw [Roadmap.span?_eq_none_iff, Set.eq_empty_iff_forall_notMem]
  constructor
  · rintro h s ⟨p, hp, hs⟩
    rw [h p hp] at hs
    cases hs
  · intro h p hp
    by_contra hne
    obtain ⟨s, hs⟩ := Option.ne_none_iff_exists'.1 hne
    exact h s ⟨p, hp, hs⟩

/-- Where nothing is given nothing is inferred. -/
theorem datesOf_compileProjects_eq_empty_iff :
    datesOf (compileProjects baseUrl projects) = ∅ ↔ datesOf projects = ∅ := by
  constructor
  · intro h
    exact Set.subset_empty_iff.1 (h ▸ datesOf_subset baseUrl projects)
  · intro h
    refine Set.eq_empty_of_forall_notMem fun s hs => ?_
    obtain ⟨S, hS, hhull⟩ := exists_isHull_of_mem_datesOf hs
    rw [h, Set.subset_empty_iff] at hS
    exact hhull.nonempty.ne_empty hS

/-- The span of an ordered roadmap is that of its chart. -/
theorem span?_withChart (hr : r.IsOrdered) : (r.withChart r.chart).span? = r.span? := by
  have hnone : (r.withChart r.chart).span? = none ↔ r.span? = none := by
    rw [span?_eq_none_iff_datesOf, span?_eq_none_iff_datesOf]
    exact datesOf_compileProjects_eq_empty_iff
  rcases h : r.span? with - | s
  · rw [hnone, h]
  · rcases h' : (r.withChart r.chart).span? with - | t
    · rw [hnone.1 h'] at h
      cases h
    · have hs := Roadmap.isHull_of_span? h
      have ht := Roadmap.isHull_of_span? h'
      rw [hs.eq_of_subset ht (marks_subset r) fun u hu => mark_mem_span hr hs hu]

/-- There are as many projects in the chart as in the roadmap. -/
theorem length_compileProjects (baseUrl : String) (projects : List Project) :
    (compileProjects baseUrl projects).length = projects.length :=
  (forall₂_compileProjects baseUrl projects).length_eq.symm

/-- A chart has a title, a layout and projects if the roadmap has them. -/
theorem validate_withChart_iff (r : Roadmap) :
    (r.withChart r.chart).validate = .ok () ↔ r.validate = .ok () := by
  have hempty : (r.withChart r.chart).projects.isEmpty = r.projects.isEmpty := by
    rw [Bool.eq_iff_iff, List.isEmpty_iff_length_eq_zero, List.isEmpty_iff_length_eq_zero]
    exact iff_of_eq (congrArg (· = 0) (length_compileProjects r.baseUrl r.projects))
  rw [Roadmap.validate_eq_ok_iff, Roadmap.validate_eq_ok_iff, isOrdered_withChart_iff, hempty]
  rfl

/-- The span of a chart holds the marks of its projects and milestones, with
both ends. -/
theorem holds_of_mem_marks (hr : r.IsOrdered) (hs : r.span? = some s)
    (ht : t ∈ (r.withChart r.chart).marks) (horder : t.startAt ≤ t.endAt) :
    s.Holds t.startAt ∧ s.Holds t.endAt := by
  obtain ⟨hstart, hend⟩ := mark_mem_span hr (Roadmap.isHull_of_span? hs) ht
  exact ⟨⟨hstart, horder.trans hend⟩, hstart.trans horder, hend⟩

/-! ### The theorem -/

/-- **The span of a chart**: for an ordered roadmap it is the span of the
roadmap with the contents of the chart, so it holds the dates of all projects
and all deadlines of the chart, and without a span no project of the chart
has dates.  Ordered or not, the roadmap with the contents of its chart is
complete exactly if the roadmap is. -/
theorem chart_span (r : Roadmap) :
    (r.IsOrdered →
      (r.withChart r.chart).span? = r.chart.span ∧
      (∀ s, r.chart.span = some s →
        (∀ p ∈ r.chart.projects, ∀ d ∈ p.dates, s.Holds d.startAt ∧ s.Holds d.endAt) ∧
        ∀ m ∈ r.chart.milestones, ∀ deadline ∈ m.deadlineAt, s.Holds deadline) ∧
      (r.chart.span = none → ∀ p ∈ r.chart.projects, p.dates = none)) ∧
    ((r.withChart r.chart).validate = .ok () ↔ r.validate = .ok ()) := by
  refine ⟨fun hr => ⟨span?_withChart hr, fun s hs => ⟨?_, ?_⟩, fun hnone => ?_⟩,
    validate_withChart_iff r⟩
  · intro p hp d hd
    have hmark : d ∈ (r.withChart r.chart).marks := Or.inl ⟨p, hp, hd⟩
    exact holds_of_mem_marks hr hs hmark ((isOrdered_withChart_iff r).2 hr p hp d hd)
  · intro m hm deadline hdeadline
    have hmark : (⟨deadline, deadline⟩ : Span) ∈ (r.withChart r.chart).marks :=
      Or.inr ⟨m, hm, deadline, hdeadline, rfl⟩
    exact (holds_of_mem_marks hr hs hmark le_rfl).1
  · have hspan : (r.withChart r.chart).span? = none := (span?_withChart hr).trans hnone
    exact Roadmap.span?_eq_none_iff.1 hspan

/-- A roadmap with dates from below and from above, a project that takes no
time, and milestones of which one lies before all dates and one takes its
deadline from a project. -/
def nested : Roadmap where
  id := 0
  prevId := none
  title := "Plan"
  layout := .standard
  baseUrl := "https://example.com/plans/"
  projects :=
    [{ indentation := 0, title := "Build", milestone := 1 },
     { indentation := 2
       title := "Parts"
       dates := some ⟨.startOf ⟨2025, 1, 15, by decide⟩, .startOf ⟨2025, 2, 28, by decide⟩⟩
       urls := ["docs/parts", "https://example.org/"] },
     { indentation := 1, title := "Frame", percentage := 41 },
     { indentation := 0
       title := "Ship"
       dates := some ⟨.startOf ⟨2025, 5, 1, by decide⟩, .startOf ⟨2025, 5, 1, by decide⟩⟩ },
     { indentation := 5, title := "Party", milestone := 9 }]
  milestones :=
    [{ title := "Beta", urls := ["/beta"] },
     { title := "Start", deadlineAt := some (.startOf ⟨2024, 12, 31, by decide⟩) }]
  createdAt := .startOf ⟨2025, 1, 1, by decide⟩
  updatedAt := .startOf ⟨2025, 1, 1, by decide⟩
  accessedAt := .startOf ⟨2025, 1, 1, by decide⟩

theorem chart_span_nested :
    nested.IsOrdered ∧ (nested.withChart nested.chart).span? = nested.chart.span ∧
      nested.chart.span =
        some ⟨.startOf ⟨2024, 12, 31, by decide⟩, .startOf ⟨2025, 5, 1, by decide⟩⟩ :=
  have hr : nested.IsOrdered := by decide +kernel
  ⟨hr, ((chart_span nested).1 hr).1, by decide +kernel⟩

/-- A roadmap whose only project ends before it starts. -/
def backwards : Roadmap where
  __ := nested
  projects :=
    [{ indentation := 0
       title := "Rush"
       dates := some ⟨.startOf ⟨2025, 5, 1, by decide⟩, .startOf ⟨2025, 4, 1, by decide⟩⟩
       milestone := 1 }]
  milestones := [{ title := "Beta" }]

/-- Its end becomes a deadline in front of its start, and widens the span. -/
example : (backwards.withChart backwards.chart).span? ≠ backwards.chart.span := by
  decide +kernel

end TextRoadmap.Chart
