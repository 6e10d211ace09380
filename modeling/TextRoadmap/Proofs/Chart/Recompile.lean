/-
TextRoadmap/Proofs/Chart/Recompile.lean

Compiling a chart once more.

Every pass fills gaps that the passes before it have left or made, so each of
them has to find nothing to do in a finished chart:

* a chart lacks dates only in trees that lack them altogether
  (`inferDates_compileProjects`);
* it lacks no colors (`assignColors_compileProjects`);
* a percentage of 0 is the average of children that stay as they are
  (`rollUp_rollUp`), and links play no role for it;
* a resolved link is absolute, or there is no base (`Link.resolve_resolve`);
* a milestone gets the same from the same projects again
  (`compileMilestones_compileMilestones`);
* the span is that of the roadmap (`span?_withChart`).

The span needs projects that do not end before they start, and the links a
base under which every link leads somewhere.
-/
import TextRoadmap.Proofs.Chart.Progress
import TextRoadmap.Proofs.Chart.Span
import TextRoadmap.Proofs.Link.Resolve

namespace TextRoadmap.Chart

variable {baseUrl : String} {projects : List Project} {p : Project} {i : Nat}

/-! ### Dates -/

/-- Inferring dates changes nothing but dates. -/
theorem getElem?_inferDates (projects : List Project) (i : Nat) :
    (inferDates projects)[i]? =
      projects[i]?.map fun p => { p with dates := datesAt (inferDates projects) i } := by
  have hget := getElem?_datesFromAbove [] (datesFromBelow projects) i
  rw [← inferDates, getElem?_datesFromBelow] at hget
  rcases hp : projects[i]? with - | p
  · rw [hget, hp]
    rfl
  · rw [hp, Option.map_some, Option.map_some] at hget
    rw [datesAt_of_getElem? hget, hget]
    rfl

theorem map_indentation_compileProjects (baseUrl : String) (projects : List Project) :
    (compileProjects baseUrl projects).map (·.indentation) = projects.map (·.indentation) :=
  map_eq_map_of_forall₂ (forall₂_compileProjects baseUrl projects) fun _ _ h => h.indentation

/-- A chart has all dates that its dates imply. -/
theorem datesAt_inferDates_compileProjects (baseUrl : String) (projects : List Project) (i : Nat) :
    datesAt (inferDates (compileProjects baseUrl projects)) i =
      datesAt (compileProjects baseUrl projects) i := by
  have hagain := datesRule_compileProjects baseUrl (compileProjects baseUrl projects) i
  rw [← datesAt_compileProjects baseUrl]
  rcases h : datesAt (compileProjects baseUrl projects) i with - | s
  · -- where a chart lacks dates, the whole tree has been undated from the start
    have hrule := datesRule_compileProjects baseUrl projects
    have hcongr := fun a j => isDescendant_congr (i := a) (j := j)
      (map_indentation_compileProjects baseUrl projects)
    obtain ⟨t, ht, -⟩ := existsUnique_isRoot projects i
    have hgiven := ((hrule i).undated_iff t ht).1 h
    have ht' : IsRoot (compileProjects baseUrl projects) t i :=
      ⟨ht.1.imp id (hcongr t i).2, fun a ha => ht.2 a ((hcongr a t).1 ha)⟩
    refine (hagain.undated_iff t ht').2 fun j hj => ?_
    have htj : IsRoot projects t j := ⟨hj.imp Eq.symm (hcongr t j).1, ht.2⟩
    exact ((hrule j).undated_iff t htj).2 hgiven
  · exact hagain.own s h

theorem inferDates_compileProjects (baseUrl : String) (projects : List Project) :
    inferDates (compileProjects baseUrl projects) = compileProjects baseUrl projects := by
  refine List.ext_getElem? fun i => ?_
  rw [getElem?_inferDates, datesAt_inferDates_compileProjects]
  rcases hp : (compileProjects baseUrl projects)[i]? with - | p
  · rfl
  · rw [datesAt_of_getElem? hp]
    rfl

/-! ### Colors -/

/-- Projects that have colors keep them. -/
theorem colorFrom_eq_self {place : Place} (h : ∀ p ∈ projects, p.color.isSome) :
    colorFrom place projects = projects := by
  induction projects generalizing place with
  | nil => rfl
  | cons p rest ih =>
    obtain ⟨color, hcolor⟩ := Option.isSome_iff_exists.1 (h p (List.mem_cons_self ..))
    rw [colorFrom, ih fun q hq => h q (List.mem_cons_of_mem _ hq), hcolor]
    cases p
    cases hcolor
    rfl

theorem assignColors_compileProjects (baseUrl : String) (projects : List Project) :
    assignColors (compileProjects baseUrl projects) = compileProjects baseUrl projects :=
  colorFrom_eq_self fun _ => isSome_color_of_mem_compileProjects

/-! ### Percentages and links -/

/-- Links play no role for the percentages. -/
theorem keepsProgress_linkedProject (baseUrl : String) : KeepsProgress (linkedProject baseUrl) :=
  ⟨fun _ => rfl, fun _ => rfl, fun _ _ => rfl⟩

/-- Resolving a list of links again leaves it alone. -/
theorem map_resolve_map_resolve (h : baseUrl = "" ∨ Link.IsWebBase baseUrl) (urls : List String) :
    (urls.map (Link.resolve baseUrl)).map (Link.resolve baseUrl) =
      urls.map (Link.resolve baseUrl) := by
  rw [List.map_map]
  exact List.map_congr_left fun link _ => Link.resolve_resolve h link

theorem linkedProject_linkedProject (h : baseUrl = "" ∨ Link.IsWebBase baseUrl) (p : Project) :
    linkedProject baseUrl (linkedProject baseUrl p) = linkedProject baseUrl p := by
  simp only [linkedProject, map_resolve_map_resolve h]

/-- The projects of a chart are final. -/
theorem compileProjects_compileProjects (h : baseUrl = "" ∨ Link.IsWebBase baseUrl)
    (projects : List Project) :
    compileProjects baseUrl (compileProjects baseUrl projects) =
      compileProjects baseUrl projects := by
  have hpasses : assignColors (inferDates (compileProjects baseUrl projects)) =
      compileProjects baseUrl projects := by
    rw [inferDates_compileProjects, assignColors_compileProjects]
  have hrollUp : rollUp (compileProjects baseUrl projects) = compileProjects baseUrl projects := by
    rw [compileProjects, rollUp_map (keepsProgress_linkedProject baseUrl), rollUp_rollUp]
  have hlinks : (compileProjects baseUrl projects).map (linkedProject baseUrl) =
      compileProjects baseUrl projects := by
    rw [compileProjects, List.map_map]
    exact List.map_congr_left fun p _ => linkedProject_linkedProject h p
  calc compileProjects baseUrl (compileProjects baseUrl projects)
    _ = (rollUp (assignColors (inferDates (compileProjects baseUrl projects)))).map
          (linkedProject baseUrl) := rfl
    _ = compileProjects baseUrl projects := by rw [hpasses, hrollUp, hlinks]

/-! ### Milestones -/

/-- A milestone gets nothing more from the same projects. -/
theorem completeMilestone_completeMilestone (h : baseUrl = "" ∨ Link.IsWebBase baseUrl)
    (m : Milestone) (referring : List Project) :
    completeMilestone (linkedMilestone baseUrl
        (completeMilestone (linkedMilestone baseUrl m) referring)) referring =
      completeMilestone (linkedMilestone baseUrl m) referring := by
  -- what has been filled in counts as given the second time
  rcases hcolor : m.color with - | color <;> rcases hdeadline : m.deadlineAt with - | deadline <;>
    simp [completeMilestone, linkedMilestone, hcolor, hdeadline, map_resolve_map_resolve h,
      -List.map_map]

theorem compileMilestones_compileMilestones (h : baseUrl = "" ∨ Link.IsWebBase baseUrl)
    (projects : List Project) (milestones : List Milestone) :
    compileMilestones baseUrl projects (compileMilestones baseUrl projects milestones) =
      compileMilestones baseUrl projects milestones := by
  refine List.ext_getElem? fun i => ?_
  simp only [compileMilestones, completeMilestones, List.getElem?_mapIdx, List.getElem?_map,
    Option.map_map]
  rcases milestones[i]? with - | m
  · rfl
  · exact congrArg some (completeMilestone_completeMilestone h m _)

/-! ### The theorem -/

/-- **A chart is final**: compiling the roadmap with the contents of its chart
gives the chart again, if no project ends before it starts and there is no
base for the links or one that names a host on the web. -/
theorem chart_withChart_chart (r : Roadmap) (hr : r.IsOrdered)
    (hbase : r.baseUrl = "" ∨ Link.IsWebBase r.baseUrl) :
    (r.withChart r.chart).chart = r.chart := by
  have hprojects : compileProjects r.baseUrl r.chart.projects = r.chart.projects :=
    compileProjects_compileProjects hbase r.projects
  have hmilestones : compileMilestones r.baseUrl r.chart.projects r.chart.milestones =
      r.chart.milestones :=
    compileMilestones_compileMilestones hbase _ r.milestones
  have hspan : (r.withChart r.chart).span? = r.chart.span := span?_withChart hr
  calc (r.withChart r.chart).chart
    _ = ⟨r.title, r.layout, compileProjects r.baseUrl r.chart.projects,
          compileMilestones r.baseUrl (compileProjects r.baseUrl r.chart.projects)
            r.chart.milestones, (r.withChart r.chart).span?⟩ := rfl
    _ = ⟨r.title, r.layout, r.chart.projects, r.chart.milestones, r.chart.span⟩ := by
          rw [hprojects, hmilestones, hspan]
    _ = r.chart := rfl

theorem chart_withChart_chart_nested :
    nested.IsOrdered ∧ (nested.baseUrl = "" ∨ Link.IsWebBase nested.baseUrl) ∧
      (nested.withChart nested.chart).chart = nested.chart :=
  have hr : nested.IsOrdered := by decide +kernel
  have hbase : Link.IsWebBase nested.baseUrl :=
    ⟨⟨_, rfl, by decide +kernel, by decide +kernel⟩, Text.trimmed_iff_all.2 (by decide +kernel)⟩
  ⟨hr, Or.inr hbase, chart_withChart_chart nested hr (Or.inr hbase)⟩

end TextRoadmap.Chart
