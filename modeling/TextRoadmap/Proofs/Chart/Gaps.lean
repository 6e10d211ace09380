/-
TextRoadmap/Proofs/Chart/Gaps.lean

Compiling fills gaps and changes nothing else.

What this means for one project is `Project.Fills`, and for one milestone
`Milestone.Fills`: what is given stays, and each link goes through a function
`link`.  A pass that does not look at links keeps them, so it fills with the
identity; the one pass that does fills with `Link.resolve`.

Filling can be chained (`forall₂_fills_trans`), hence each pass is looked at
on its own, along the recursion that it takes through the list.  The passes
in a row are a chart (`chart_fills`), and from the pass that colors the
projects on none of them is without a color.
-/
import Mathlib.Data.List.Forall2
import TextRoadmap.Chart.Basic

namespace TextRoadmap

variable {link link' : String → String}

/-- The project `q` is `p` with gaps filled: what is given of `p` stays, and
its links go through `link`. -/
structure Project.Fills (link : String → String) (p q : Project) : Prop where
  title : q.title = p.title
  indentation : q.indentation = p.indentation
  milestone : q.milestone = p.milestone
  dates : ∀ span ∈ p.dates, q.dates = some span
  color : ∀ color ∈ p.color, q.color = some color
  percentage : p.percentage ≠ 0 → q.percentage = p.percentage
  urls : q.urls = p.urls.map link

/-- The milestone `n` is `m` with gaps filled. -/
structure Milestone.Fills (link : String → String) (m n : Milestone) : Prop where
  title : n.title = m.title
  deadlineAt : ∀ deadline ∈ m.deadlineAt, n.deadlineAt = some deadline
  color : ∀ color ∈ m.color, n.color = some color
  urls : n.urls = m.urls.map link

theorem Project.Fills.refl (p : Project) : Project.Fills id p p where
  title := rfl
  indentation := rfl
  milestone := rfl
  dates _ h := h
  color _ h := h
  percentage _ := rfl
  urls := (List.map_id _).symm

theorem Project.Fills.trans {p q r : Project} (hq : Project.Fills link p q)
    (hr : Project.Fills link' q r) : Project.Fills (link' ∘ link) p r where
  title := hr.title.trans hq.title
  indentation := hr.indentation.trans hq.indentation
  milestone := hr.milestone.trans hq.milestone
  dates span h := hr.dates span (hq.dates span h)
  color color h := hr.color color (hq.color color h)
  percentage h := by
    have hkept := hq.percentage h
    exact (hr.percentage (by rwa [hkept])).trans hkept
  urls := by rw [hr.urls, hq.urls, List.map_map]

namespace Chart

variable {projects : List Project}

/-! ### Filled lists -/

/-- What a relation keeps of the entries it keeps of the lists. -/
theorem map_eq_map_of_forall₂ {α β γ : Type} {R : α → β → Prop} {f : α → γ} {g : β → γ}
    {a : List α} {b : List β} (h : List.Forall₂ R a b) (hR : ∀ x y, R x y → g y = f x) :
    b.map g = a.map f := by
  induction h with
  | nil => rfl
  | cons hxy _ ih => rw [List.map_cons, List.map_cons, hR _ _ hxy, ih]

/-- Lists that are filled one after the other are filled. -/
theorem forall₂_fills_trans {a b c : List Project}
    (hb : List.Forall₂ (Project.Fills link) a b) (hc : List.Forall₂ (Project.Fills link') b c) :
    List.Forall₂ (Project.Fills (link' ∘ link)) a c := by
  induction hb generalizing c with
  | nil =>
    cases hc
    exact .nil
  | cons hq _ ih =>
    cases hc with
    | cons hr hc => exact .cons (hq.trans hr) (ih hc)

/-- Whoever stands in a filled list fills someone. -/
theorem exists_fills_of_mem {a b : List Project} (h : List.Forall₂ (Project.Fills link) a b)
    {q : Project} (hq : q ∈ b) : ∃ p ∈ a, Project.Fills link p q := by
  induction h with
  | nil => cases hq
  | cons hfills _ ih =>
    rcases List.mem_cons.1 hq with rfl | hq
    · exact ⟨_, List.mem_cons_self .., hfills⟩
    · obtain ⟨p, hp, hfills⟩ := ih hq
      exact ⟨p, List.mem_cons_of_mem _ hp, hfills⟩

/-! ### One project -/

/-- A gap is filled only where nothing is given. -/
theorem orElse_eq_of_mem {α : Type} {given found : Option α} {a : α} (h : a ∈ given) :
    (given <|> found) = some a := by
  rw [Option.mem_def.1 h]
  rfl

theorem fills_datedFromBelow (p : Project) (following : List Project) :
    Project.Fills id p (datedFromBelow p following) :=
  { Project.Fills.refl p with dates := fun _ => orElse_eq_of_mem }

theorem fills_datedFromAbove (preceding : List Project) (p : Project) :
    Project.Fills id p (datedFromAbove preceding p) :=
  { Project.Fills.refl p with dates := fun _ => orElse_eq_of_mem }

theorem fills_color (p : Project) (found : Option Color) :
    Project.Fills id p { p with color := p.color <|> found } :=
  { Project.Fills.refl p with color := fun _ => orElse_eq_of_mem }

theorem fills_rolledUp (p : Project) (following : List Project) :
    Project.Fills id p (rolledUp p following) := by
  unfold rolledUp
  split
  · rename_i hzero
    exact { Project.Fills.refl p with percentage := fun h => absurd hzero h }
  · exact Project.Fills.refl p

theorem fills_linkedProject (baseUrl : String) (p : Project) :
    Project.Fills (Link.resolve baseUrl) p (linkedProject baseUrl p) :=
  { Project.Fills.refl p with urls := rfl }

/-! ### The passes -/

theorem forall₂_datesFromBelow (projects : List Project) :
    List.Forall₂ (Project.Fills id) projects (datesFromBelow projects) := by
  induction projects with
  | nil => exact .nil
  | cons p rest ih => exact .cons (fills_datedFromBelow p rest) ih

theorem forall₂_datesFromAbove (preceding projects : List Project) :
    List.Forall₂ (Project.Fills id) projects (datesFromAbove preceding projects) := by
  induction projects generalizing preceding with
  | nil => exact .nil
  | cons p rest ih => exact .cons (fills_datedFromAbove preceding p) (ih _)

theorem forall₂_inferDates (projects : List Project) :
    List.Forall₂ (Project.Fills id) projects (inferDates projects) :=
  forall₂_fills_trans (forall₂_datesFromBelow projects) (forall₂_datesFromAbove [] _)

theorem forall₂_colorFrom (place : Place) (projects : List Project) :
    List.Forall₂ (Project.Fills id) projects (colorFrom place projects) := by
  induction projects generalizing place with
  | nil => exact .nil
  | cons p rest ih => exact .cons (fills_color p _) (ih _)

theorem forall₂_rollUp (projects : List Project) :
    List.Forall₂ (Project.Fills id) projects (rollUp projects) := by
  induction projects with
  | nil => exact .nil
  | cons p rest ih => exact .cons (fills_rolledUp p _) ih

theorem forall₂_linkedProject (baseUrl : String) (projects : List Project) :
    List.Forall₂ (Project.Fills (Link.resolve baseUrl)) projects
      (projects.map (linkedProject baseUrl)) := by
  rw [List.forall₂_map_right_iff, List.forall₂_same]
  exact fun p _ => fills_linkedProject baseUrl p

/-- The two passes behind the coloring. -/
theorem forall₂_colored (baseUrl : String) (projects : List Project) :
    List.Forall₂ (Project.Fills (Link.resolve baseUrl)) (assignColors (inferDates projects))
      (compileProjects baseUrl projects) :=
  forall₂_fills_trans (forall₂_rollUp _) (forall₂_linkedProject baseUrl _)

theorem forall₂_compileProjects (baseUrl : String) (projects : List Project) :
    List.Forall₂ (Project.Fills (Link.resolve baseUrl)) projects
      (compileProjects baseUrl projects) :=
  forall₂_fills_trans (forall₂_fills_trans (forall₂_inferDates projects) (forall₂_colorFrom .first _))
    (forall₂_colored baseUrl projects)

/-! ### Colors -/

/-- Every project of a chart has a color. -/
theorem isSome_color_of_mem_compileProjects {baseUrl : String} {q : Project}
    (hq : q ∈ compileProjects baseUrl projects) : q.color.isSome := by
  obtain ⟨p, hp, hfills⟩ := exists_fills_of_mem (forall₂_colored baseUrl projects) hq
  obtain ⟨color, hcolor⟩ := Option.isSome_iff_exists.1 (isSome_color_of_mem_colorFrom hp)
  rw [hfills.color color hcolor]
  rfl

/-! ### Milestones -/

theorem fills_completeMilestone (baseUrl : String) (m : Milestone) (referring : List Project) :
    Milestone.Fills (Link.resolve baseUrl) m
      (completeMilestone (linkedMilestone baseUrl m) referring) where
  title := rfl
  deadlineAt _ := orElse_eq_of_mem
  color _ := orElse_eq_of_mem
  urls := rfl

theorem forall₂_compileMilestones (baseUrl : String) (projects : List Project)
    (milestones : List Milestone) :
    List.Forall₂ (Milestone.Fills (Link.resolve baseUrl)) milestones
      (compileMilestones baseUrl projects milestones) := by
  have hlen : milestones.length = (compileMilestones baseUrl projects milestones).length := by
    simp [compileMilestones, completeMilestones]
  refine List.forall₂_of_length_eq_of_get hlen fun i hi hi' => ?_
  have hget : (compileMilestones baseUrl projects milestones).get ⟨i, hi'⟩ =
      completeMilestone (linkedMilestone baseUrl (milestones.get ⟨i, hi⟩))
        (referring projects (i + 1)) := by
    simp [compileMilestones, completeMilestones]
  rw [hget]
  exact fills_completeMilestone ..

theorem isSome_color_of_mem_compileMilestones {baseUrl : String} {milestones : List Milestone}
    {m : Milestone} (hm : m ∈ compileMilestones baseUrl projects milestones) :
    m.color.isSome := by
  obtain ⟨i, hi, rfl⟩ := List.mem_mapIdx.1 hm
  exact isSome_color_completeMilestone ..

/-! ### The theorem -/

/-- **A chart fills gaps**: it has the projects and milestones of the roadmap
in their order, with all that is given of them, and their links resolved; all
of them have colors.  A link stays as it is where there is no base, and where
it is absolute. -/
theorem chart_fills (r : Roadmap) :
    r.chart.title = r.title ∧ r.chart.layout = r.layout ∧
      List.Forall₂ (Project.Fills (Link.resolve r.baseUrl)) r.projects r.chart.projects ∧
      List.Forall₂ (Milestone.Fills (Link.resolve r.baseUrl)) r.milestones r.chart.milestones ∧
      (∀ url, r.baseUrl = "" ∨ Link.isAbsolute url = true →
        Link.resolve r.baseUrl url = url) ∧
      (∀ p ∈ r.chart.projects, p.color.isSome) ∧ ∀ m ∈ r.chart.milestones, m.color.isSome := by
  refine ⟨rfl, rfl, forall₂_compileProjects r.baseUrl r.projects,
    forall₂_compileMilestones r.baseUrl _ r.milestones, ?_,
    fun p => isSome_color_of_mem_compileProjects, fun m => isSome_color_of_mem_compileMilestones⟩
  rintro url (hbase | habsolute)
  · simp [Link.resolve, hbase]
  · exact Link.resolve_of_isAbsolute habsolute

end Chart

end TextRoadmap
