/-
TextRoadmap/Proofs/Chart/Milestones.lean

What the milestones of a chart take over from its projects.

A milestone without a color takes the color of the first project that refers
to it, and one without a deadline the latest end of all that do
(`MilestoneRule`).  The projects are those of the chart, which all have
colors and may have inferred dates.

Milestones can be completed one by one, from the projects that refer to them,
or all of them in turn, by one walk through the projects and another one
through what they lend.  While the projects are gone through, the loan at a
position is what the projects so far that refer to it lend
(`getD_foldl_gather`), so both ways come to the same (`completeInTurn_eq`).
-/
import Std.Data.TreeMap.Lemmas
import TextRoadmap.Chart.Lending
import TextRoadmap.Proofs.Chart.Gaps
import TextRoadmap.Proofs.Chart.Span

namespace TextRoadmap.Chart

open TextRoadmap.Calendar

variable {projects : List Project} {milestones : List Milestone} {loan : Loan} {p : Project}
variable {position : Nat}

/-! ### The rule -/

/-- The ends of the dated projects that refer to the milestone at a
position. -/
def endsFor (projects : List Project) (position : Nat) : Set Instant :=
  {i | ∃ p ∈ projects, p.milestone.toNat = position + 1 ∧ ∃ dates ∈ p.dates, dates.endAt = i}

/-- Of the projects that refer to the milestone at a position it is the
first. -/
def IsFirstReferring (projects : List Project) (position : Nat) (p : Project) : Prop :=
  ∃ before after, projects = before ++ p :: after ∧ p.milestone.toNat = position + 1 ∧
    ∀ q ∈ before, q.milestone.toNat ≠ position + 1

/-- How the milestone at a position of a chart follows from the given one and
the projects of the chart. -/
structure MilestoneRule (compiled : List Project) (position : Nat) (given filled : Milestone) :
    Prop where
  ownColor : ∀ color ∈ given.color, filled.color = some color
  firstColor : given.color = none → ∀ p, IsFirstReferring compiled position p →
    ∃ color ∈ p.color, filled.color = some color
  neutral : given.color = none → (∀ p ∈ compiled, p.milestone.toNat ≠ position + 1) →
    filled.color = some Palette.neutral
  ownDeadline : ∀ deadline ∈ given.deadlineAt, filled.deadlineAt = some deadline
  latestEnd : given.deadlineAt = none → ∀ deadline,
    filled.deadlineAt = some deadline ↔ IsGreatest (endsFor compiled position) deadline
  noDeadline : given.deadlineAt = none →
    (filled.deadlineAt = none ↔ endsFor compiled position = ∅)

/-! ### The projects that refer to a milestone -/

theorem mem_referring_iff : p ∈ referring projects (position + 1) ↔
    p ∈ projects ∧ p.milestone.toNat = position + 1 := by
  simp [referring]

theorem referring_eq_nil_iff : referring projects (position + 1) = [] ↔
    ∀ p ∈ projects, p.milestone.toNat ≠ position + 1 := by
  simp [referring]

theorem referring_cons_of_eq (h : p.milestone.toNat = position + 1) :
    referring (p :: projects) (position + 1) = p :: referring projects (position + 1) :=
  List.filter_cons_of_pos (by simpa using h)

theorem referring_cons_of_ne (h : p.milestone.toNat ≠ position + 1) :
    referring (p :: projects) (position + 1) = referring projects (position + 1) :=
  List.filter_cons_of_neg (by simpa using h)

/-- The first project that refers to a milestone is the first of them all. -/
theorem IsFirstReferring.exists_referring_eq (h : IsFirstReferring projects position p) :
    ∃ rest, referring projects (position + 1) = p :: rest := by
  obtain ⟨before, after, rfl, hp, hbefore⟩ := h
  refine ⟨referring after (position + 1), ?_⟩
  have hnone : referring before (position + 1) = [] := referring_eq_nil_iff.2 hbefore
  calc referring (before ++ p :: after) (position + 1)
      = referring before (position + 1) ++ referring (p :: after) (position + 1) :=
        List.filter_append ..
    _ = p :: referring after (position + 1) := by
        rw [hnone, referring_cons_of_eq hp, List.nil_append]

/-! ### Ends -/

theorem mem_ends_iff {i : Instant} :
    (i ∈ (referring projects (position + 1)).filterMap fun p => p.dates.map (·.endAt)) ↔
      i ∈ endsFor projects position := by
  simp [mem_referring_iff, endsFor, and_assoc]

theorem latestEnd?_eq_some_iff {deadline : Instant} :
    latestEnd? (referring projects (position + 1)) = some deadline ↔
      IsGreatest (endsFor projects position) deadline := by
  rw [latestEnd?_eq_max?, List.max?_eq_some_iff]
  simp only [mem_ends_iff]
  rfl

theorem latestEnd?_eq_none_iff : latestEnd? (referring projects (position + 1)) = none ↔
    endsFor projects position = ∅ := by
  rw [latestEnd?_eq_max?, List.max?_eq_none_iff, List.eq_nil_iff_forall_not_mem,
    Set.eq_empty_iff_forall_notMem]
  simp only [mem_ends_iff]

/-- A milestone that is completed from colored projects follows the rule. -/
theorem milestoneRule_completeMilestone (hcolor : ∀ p ∈ projects, p.color.isSome)
    (m : Milestone) :
    MilestoneRule projects position m
      (completeMilestone m (referring projects (position + 1))) where
  ownColor _ h := orElse_eq_of_mem h
  firstColor hnone p hp := by
    obtain ⟨rest, hrest⟩ := hp.exists_referring_eq
    have hmem : p ∈ referring projects (position + 1) := hrest ▸ List.mem_cons_self ..
    obtain ⟨color, hp⟩ := Option.isSome_iff_exists.1 (hcolor p (mem_referring_iff.1 hmem).1)
    refine ⟨color, hp, ?_⟩
    simp [completeMilestone, lentColor, hnone, hrest, hp]
  neutral hnone hall := by
    simp [completeMilestone, lentColor, hnone, referring_eq_nil_iff.2 hall]
  ownDeadline _ h := orElse_eq_of_mem h
  latestEnd hnone deadline := by
    rw [← latestEnd?_eq_some_iff]
    simp [completeMilestone, hnone]
  noDeadline hnone := by
    rw [← latestEnd?_eq_none_iff]
    simp [completeMilestone, hnone]

/-! ### Loans -/

theorem Loan.give_empty (m : Milestone) : Loan.give {} m = m := by
  cases m
  simp [Loan.give]

/-- A project without a color and without dates lends nothing. -/
theorem Loan.add_eq_self (hcolor : p.color = none) (hdates : p.dates = none) :
    loan.add p = loan := by
  cases loan
  simp [Loan.add, hcolor, hdates]

theorem Loan.color_foldl_add (l : List Project) (loan : Loan) :
    (l.foldl Loan.add loan).color = (loan.color <|> l.findSome? (·.color)) := by
  induction l generalizing loan with
  | nil => simp
  | cons p l ih =>
    rw [List.foldl_cons, ih, Loan.add, List.findSome?_cons]
    rcases loan.color with - | color <;> rcases p.color with - | color' <;> rfl

theorem Loan.deadlineAt_foldl_add (l : List Project) (loan : Loan) :
    (l.foldl Loan.add loan).deadlineAt =
      (loan.deadlineAt.toList ++ l.filterMap fun p => p.dates.map (·.endAt)).max? := by
  induction l generalizing loan with
  | nil => rcases h : loan.deadlineAt with - | deadline <;> simp [h]
  | cons p l ih =>
    rw [List.foldl_cons, ih, Loan.add, List.filterMap_cons]
    rcases p.dates with - | dates
    · rfl
    · rcases loan.deadlineAt with - | deadline <;> rfl

/-- A milestone that has been given all that the projects in the list lend is
complete but for the neutral color. -/
theorem neutralIfBare_give (m : Milestone) (l : List Project) :
    neutralIfBare ((l.foldl Loan.add {}).give m) = completeMilestone m l := by
  have hcolor := Loan.color_foldl_add l {}
  have hdeadline := Loan.deadlineAt_foldl_add l {}
  simp only [Option.toList_none, List.nil_append, ← latestEnd?_eq_max?] at hdeadline
  rw [neutralIfBare, Loan.give, completeMilestone, hcolor, hdeadline, lentColor]
  cases m.color with
  | none => cases l.findSome? (·.color) <;> simp
  | some color => rfl

/-! ### Gathering -/

/-- One project lends to the position that it refers to. -/
theorem getD_gather (loans : Loans) (p : Project) (position : Nat) :
    (loans.gather p).getD position {} =
      if p.milestone.toNat = position + 1 then (loans.getD position {}).add p
      else loans.getD position {} := by
  rw [Loans.gather]
  split
  · rename_i hzero
    rw [if_neg (by simp [hzero])]
  · rename_i hne
    have hpos : p.milestone.toNat ≠ 0 := fun h => hne (UInt8.toNat_inj.1 h)
    split
    · rename_i hbare
      simp only [Bool.and_eq_true, Option.isNone_iff_eq_none] at hbare
      rw [Loan.add_eq_self hbare.1 hbare.2, ite_self]
    · rw [Std.TreeMap.getD_alter, Std.TreeMap.getD_eq_getD_getElem?]
      by_cases hposition : p.milestone.toNat = position + 1
      · have hkey : p.milestone.toNat - 1 = position := by omega
        simp [hposition]
      · have hkey : p.milestone.toNat - 1 ≠ position := by omega
        simp [hposition, hkey]

/-- What has been gathered for a position is what the projects that refer to
it lend. -/
theorem getD_foldl_gather (projects : List Project) (loans : Loans) (position : Nat) :
    (projects.foldl Loans.gather loans).getD position {} =
      (referring projects (position + 1)).foldl Loan.add (loans.getD position {}) := by
  induction projects generalizing loans with
  | nil => rfl
  | cons p projects ih =>
    rw [List.foldl_cons, ih, getD_gather]
    by_cases hp : p.milestone.toNat = position + 1
    · rw [if_pos hp, referring_cons_of_eq hp, List.foldl_cons]
    · rw [if_neg hp, referring_cons_of_ne hp]

/-! ### Handing out -/

theorem getElem?_foldl_modify_of_forall_ne {entries : List (Nat × Loan)}
    (h : ∀ entry ∈ entries, entry.1 ≠ position) (milestones : List Milestone) :
    (entries.foldl (fun milestones entry => milestones.modify entry.1 entry.2.give)
      milestones)[position]? = milestones[position]? := by
  induction entries generalizing milestones with
  | nil => rfl
  | cons entry entries ih =>
    obtain ⟨hne, hrest⟩ := List.forall_mem_cons.1 h
    rw [List.foldl_cons, ih hrest, List.getElem?_modify_ne _ _ hne]

/-- Where no position comes twice, each loan goes to its milestone. -/
theorem getElem?_foldl_modify_of_mem {entries : List (Nat × Loan)}
    (hdistinct : entries.Pairwise fun a b => a.1 ≠ b.1) (hmem : (position, loan) ∈ entries)
    (milestones : List Milestone) :
    (entries.foldl (fun milestones entry => milestones.modify entry.1 entry.2.give)
      milestones)[position]? = milestones[position]?.map loan.give := by
  induction entries generalizing milestones with
  | nil => cases hmem
  | cons entry entries ih =>
    obtain ⟨hne, hrest⟩ := List.pairwise_cons.1 hdistinct
    rw [List.foldl_cons]
    rcases List.mem_cons.1 hmem with rfl | hmem
    · rw [getElem?_foldl_modify_of_forall_ne fun entry hentry => (hne entry hentry).symm,
        List.getElem?_modify_eq]
      rfl
    · rw [ih hrest hmem, List.getElem?_modify_ne _ _ (hne _ hmem)]

theorem getElem?_handOut (loans : Loans) (milestones : List Milestone) (position : Nat) :
    (loans.handOut milestones)[position]? =
      milestones[position]?.map (loans.getD position {}).give := by
  rw [Loans.handOut, Std.TreeMap.foldl_eq_foldl_toList, Std.TreeMap.getD_eq_getD_getElem?]
  rcases hloan : loans[position]? with - | loan
  · -- nothing has been gathered for the position
    have hnone : ∀ entry ∈ loans.toList, entry.1 ≠ position := by
      rintro ⟨key, loan⟩ hentry rfl
      rw [Std.TreeMap.mem_toList_iff_getElem?_eq_some, hloan] at hentry
      cases hentry
    rw [getElem?_foldl_modify_of_forall_ne hnone, Option.getD_none, funext Loan.give_empty,
      Option.map_id']
  · have hdistinct : loans.toList.Pairwise fun a b => a.1 ≠ b.1 :=
      Std.TreeMap.distinct_keys_toList.imp fun h heq => h (by simp [heq])
    exact getElem?_foldl_modify_of_mem hdistinct
      (Std.TreeMap.mem_toList_iff_getElem?_eq_some.2 hloan) milestones

/-- Both ways to complete milestones come to the same. -/
theorem completeInTurn_eq (projects : List Project) (milestones : List Milestone) :
    completeInTurn projects milestones = completeMilestones projects milestones := by
  refine List.ext_getElem? fun position => ?_
  have hgathered : (loansOf projects).getD position {} =
      (referring projects (position + 1)).foldl Loan.add {} := getD_foldl_gather projects ∅ position
  rw [completeInTurn, completeMilestones, List.getElem?_map, List.getElem?_mapIdx,
    getElem?_handOut, hgathered, Option.map_map]
  exact congrArg (milestones[position]?.map ·) (funext fun m => neutralIfBare_give m _)

/-! ### The theorem -/

/-- Does the project refer to one of so many milestones? -/
def refersWithin (count : Nat) (p : Project) : Bool :=
  1 ≤ p.milestone.toNat && p.milestone.toNat ≤ count

/-- Projects that refer to no milestone are of no account. -/
theorem completeMilestones_congr {projects' : List Project}
    (h : projects'.filter (refersWithin milestones.length) =
      projects.filter (refersWithin milestones.length)) :
    completeMilestones projects' milestones = completeMilestones projects milestones := by
  have hreferring : ∀ (l : List Project), ∀ position < milestones.length,
      referring (l.filter (refersWithin milestones.length)) (position + 1) =
        referring l (position + 1) := by
    intro l position hposition
    rw [referring, referring, List.filter_filter]
    refine List.filter_congr fun p _ => ?_
    rw [refersWithin]
    by_cases hp : p.milestone.toNat = position + 1
    · simp [hp]
      omega
    · simp [hp]
  refine List.ext_getElem (by simp [completeMilestones]) fun position hposition _ => ?_
  have hlt : position < milestones.length := by simpa [completeMilestones] using hposition
  simp only [completeMilestones, List.getElem_mapIdx]
  rw [← hreferring projects position hlt, ← hreferring projects' position hlt, h]

/-- **Milestones of a chart**: the chart has the milestones of the roadmap,
and each of them follows by `MilestoneRule` from the given one and the
projects of the chart.  Projects that refer to no milestone, or past the last
one, can be put in, left out or changed.  Completing the milestones in turn
gives the same ones. -/
theorem chart_milestones (r : Roadmap) :
    r.chart.milestones.length = r.milestones.length ∧
    (∀ position given, r.milestones[position]? = some given →
      ∃ filled, r.chart.milestones[position]? = some filled ∧
        MilestoneRule r.chart.projects position given filled) ∧
    (∀ projects, projects.filter (refersWithin r.milestones.length) =
        r.chart.projects.filter (refersWithin r.milestones.length) →
      compileMilestones r.baseUrl projects r.milestones = r.chart.milestones) ∧
    completeInTurn r.chart.projects (r.milestones.map (linkedMilestone r.baseUrl)) =
      r.chart.milestones := by
  refine ⟨?_, fun position given hgiven => ?_, fun projects h => ?_, completeInTurn_eq ..⟩
  · simp [Roadmap.chart, compileMilestones, completeMilestones]
  · refine ⟨completeMilestone (linkedMilestone r.baseUrl given)
      (referring r.chart.projects (position + 1)), ?_, ?_⟩
    · simp [Roadmap.chart, compileMilestones, completeMilestones, hgiven]
    · -- links are no part of the rule
      have hcolor : ∀ p ∈ r.chart.projects, p.color.isSome :=
        fun _ hp => isSome_color_of_mem_compileProjects hp
      have hrule : MilestoneRule r.chart.projects position (linkedMilestone r.baseUrl given)
          (completeMilestone (linkedMilestone r.baseUrl given)
            (referring r.chart.projects (position + 1))) :=
        milestoneRule_completeMilestone hcolor _
      exact ⟨hrule.ownColor, hrule.firstColor, hrule.neutral, hrule.ownDeadline, hrule.latestEnd,
        hrule.noDeadline⟩
  · exact completeMilestones_congr (by rwa [List.length_map])

end TextRoadmap.Chart
