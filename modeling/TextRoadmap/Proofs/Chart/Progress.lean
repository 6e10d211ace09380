/-
TextRoadmap/Proofs/Chart/Progress.lean

Rolled up percentages as averages over the tree.

`rollUp` goes through the list from its end, so a project meets its children
when they are final.  Read at positions this is the rule `ProgressRule`: a
known percentage stays, and an unknown one becomes the average of the final
percentages of the children, rounded down (`progressRule_rollUp`).  The sum
over a run of the list becomes a sum over positions in `sum_children`.

The rule determines the result from the end of the list on, hence a second
pass finds nothing to change (`rollUp_rollUp`).
-/
import Mathlib.Algebra.BigOperators.Intervals
import TextRoadmap.Proofs.Chart.Descendants
import TextRoadmap.Proofs.Chart.Gaps

namespace TextRoadmap.Chart

open Finset

variable {projects : List Project} {p q : Project} {i j : Nat}

/-! ### The rule -/

/-- The percentage of the project at a position. -/
def percentageAt (projects : List Project) (i : Nat) : Nat :=
  (projects[i]?.map (·.percentage.toNat)).getD 0

/-- The project at `j` is a descendant of the one at `i` and indented by
exactly one level more. -/
def IsChild (projects : List Project) (i j : Nat) : Prop :=
  IsDescendant projects i j ∧ ∃ p q, projects[i]? = some p ∧ projects[j]? = some q ∧
    q.indentation.toNat = p.indentation.toNat + 1

theorem isChild_iff_any : IsChild projects i j ↔
    IsDescendant projects i j ∧ (projects[i]?.any fun p => projects[j]?.any fun q =>
      q.indentation.toNat = p.indentation.toNat + 1) = true := by
  simp only [IsChild, Option.any_eq_true, decide_eq_true_eq]
  exact and_congr_right fun _ =>
    ⟨fun ⟨p, q, hp, hq, h⟩ => ⟨p, hp, q, hq, h⟩, fun ⟨p, hp, q, hq, h⟩ => ⟨p, q, hp, hq, h⟩⟩

instance : Decidable (IsChild projects i j) := decidable_of_iff _ isChild_iff_any.symm

/-- The positions of the children of a project. -/
def childrenOf (projects : List Project) (i : Nat) : Finset Nat :=
  (range projects.length).filter (IsChild projects i)

/-- How the percentage of the project at position `i` of a rolled up list
follows from the given ones. -/
structure ProgressRule (given rolled : List Project) (i : Nat) : Prop where
  known : percentageAt given i ≠ 0 → percentageAt rolled i = percentageAt given i
  average : percentageAt given i = 0 → (childrenOf given i).Nonempty →
    percentageAt rolled i =
      (∑ j ∈ childrenOf given i, percentageAt rolled j) / (childrenOf given i).card
  childless : percentageAt given i = 0 → childrenOf given i = ∅ → percentageAt rolled i = 0

/-! ### Children at positions -/

/-- Children depend on the indentations alone. -/
theorem isChild_congr {projects' : List Project}
    (h : projects'.map (·.indentation) = projects.map (·.indentation)) :
    IsChild projects' i j ↔ IsChild projects i j := by
  have key : ∀ {l l' : List Project}, l'.map (·.indentation) = l.map (·.indentation) →
      IsChild l' i j → IsChild l i j := by
    rintro l l' hl ⟨hdesc, p, q, hp, hq, hpq⟩
    obtain ⟨p', hp', hpp⟩ := exists_getElem?_of_map_indentation hl hp
    obtain ⟨q', hq', hqq⟩ := exists_getElem?_of_map_indentation hl hq
    exact ⟨(isDescendant_congr hl).1 hdesc, p', q', hp', hq', by rw [hpp, hqq]; exact hpq⟩
  exact ⟨key h, key h.symm⟩

theorem childrenOf_congr {projects' : List Project}
    (h : projects'.map (·.indentation) = projects.map (·.indentation)) :
    childrenOf projects' i = childrenOf projects i := by
  have hlen : projects'.length = projects.length := by
    simpa using congrArg List.length h
  ext j
  simp only [childrenOf, mem_filter, mem_range, hlen, isChild_congr h]

/-- A run from the start of a list, filtered and weighed, as a sum over
positions. -/
theorem sum_filter_takeWhile {α : Type} (f g : α → Bool) (w : α → Nat) (l : List α) :
    (((l.takeWhile f).filter g).map w).sum =
      ∑ n ∈ range l.length,
        if (∀ k ≤ n, (l[k]?.any f) = true) ∧ (l[n]?.any g) = true
        then (l[n]?.map w).getD 0 else 0 := by
  induction l with
  | nil => rfl
  | cons y l ih =>
    have hshift : ∀ n, (∀ k ≤ n + 1, ((y :: l)[k]?.any f) = true) ↔
        f y = true ∧ ∀ k ≤ n, (l[k]?.any f) = true := by
      intro n
      constructor
      · intro h
        exact ⟨by simpa using h 0 (by omega), fun k hk => by simpa using h (k + 1) (by omega)⟩
      · rintro ⟨hy, h⟩ k hk
        cases k with
        | zero => simpa using hy
        | succ k => simpa using h k (by omega)
    rw [List.length_cons, sum_range_succ']
    simp only [hshift, List.getElem?_cons_succ, List.getElem?_cons_zero]
    cases hy : f y with
    | false => simp [hy]
    | true =>
      cases hg : g y with
      | false => simp [hy, hg, ih]
      | true => simp [hy, hg, ih, Nat.add_comm]

/-- The children among the projects behind a project. -/
theorem isChild_add_iff (hp : projects[i]? = some p) (n : Nat) :
    IsChild projects i (i + 1 + n) ↔
      (∀ k ≤ n, ((projects.drop (i + 1))[k]?.any fun q => p.indentation < q.indentation) = true) ∧
        ((projects.drop (i + 1))[n]?.any
          fun q => q.indentation.toNat = p.indentation.toNat + 1) = true := by
  simp only [List.getElem?_drop, Option.any_eq_true, decide_eq_true_eq]
  constructor
  · rintro ⟨⟨-, p', hp', hall⟩, p'', q, hp'', hq, hpq⟩
    obtain rfl := Option.some.inj (hp.symm.trans hp')
    obtain rfl := Option.some.inj (hp.symm.trans hp'')
    exact ⟨fun k hk => hall (i + 1 + k) (by omega) (by omega), q, hq, hpq⟩
  · rintro ⟨hall, q, hq, hpq⟩
    refine ⟨⟨by omega, p, hp, fun k hik hkn => ?_⟩, p, q, hp, hq, hpq⟩
    have := hall (k - (i + 1)) (by omega)
    rwa [show i + 1 + (k - (i + 1)) = k by omega] at this

/-- Sums over the children of a project: over the list that `children` cuts
out, and over positions. -/
theorem sum_children (hp : projects[i]? = some p) (w : Project → Nat) :
    ((children p (projects.drop (i + 1))).map w).sum =
      ∑ j ∈ childrenOf projects i, (projects[j]?.map w).getD 0 := by
  obtain ⟨hi, -⟩ := List.getElem?_eq_some_iff.1 hp
  have hsplit : projects.length = (i + 1) + (projects.drop (i + 1)).length := by
    rw [List.length_drop]
    omega
  -- no position up to the project itself is one of a child
  have hfront : ∑ j ∈ range (i + 1),
      (if IsChild projects i j then (projects[j]?.map w).getD 0 else 0) = 0 := by
    refine sum_eq_zero fun j hj => if_neg fun h => ?_
    have := h.1.lt
    have := mem_range.1 hj
    omega
  rw [children, below, sum_filter_takeWhile, childrenOf, sum_filter, hsplit, sum_range_add, hfront,
    zero_add]
  refine sum_congr rfl fun n _ => ?_
  simp only [isChild_add_iff hp, List.getElem?_drop]

theorem length_children (hp : projects[i]? = some p) :
    (children p (projects.drop (i + 1))).length = (childrenOf projects i).card := by
  have hone : ∀ j ∈ childrenOf projects i, (projects[j]?.map fun _ => 1).getD 0 = 1 := by
    intro j hj
    have hj := mem_range.1 (mem_filter.1 hj).1
    simp [List.getElem?_eq_getElem hj]
  have h := sum_children hp fun _ => 1
  rw [sum_congr rfl hone] at h
  simpa using h

/-! ### Averages -/

theorem foldr_percentage_eq_sum (l : List Project) :
    l.foldr (fun p total => p.percentage.toNat + total) 0 =
      (l.map (·.percentage.toNat)).sum := by
  rw [List.sum_eq_foldr, List.foldr_map]

/-- The sum of bounded percentages is bounded by their number. -/
theorem sum_percentage_le {l : List Project} {b : Nat} (h : ∀ q ∈ l, q.percentage.toNat ≤ b) :
    (l.map (·.percentage.toNat)).sum ≤ b * l.length := by
  induction l with
  | nil => exact Nat.zero_le _
  | cons q l ih =>
    have hq := h q (List.mem_cons_self ..)
    have hl := ih fun r hr => h r (List.mem_cons_of_mem _ hr)
    rw [List.map_cons, List.sum_cons, List.length_cons, Nat.mul_succ]
    omega

/-- An average is no larger than what is averaged. -/
theorem div_le_of_percentage_le {l : List Project} {b : Nat}
    (h : ∀ q ∈ l, q.percentage.toNat ≤ b) :
    (l.map (·.percentage.toNat)).sum / l.length ≤ b :=
  Nat.div_le_of_le_mul (by rw [Nat.mul_comm]; exact sum_percentage_le h)

/-- No average is too large for a byte. -/
theorem toNat_average (l : List Project) :
    (average l).toNat = (l.map (·.percentage.toNat)).sum / l.length := by
  have hlt := div_le_of_percentage_le (l := l) (b := 255) fun q _ =>
    Nat.le_of_lt_succ q.percentage.toNat_lt
  rw [average, foldr_percentage_eq_sum, UInt8.toNat_ofNat', Nat.mod_eq_of_lt (by omega)]

/-! ### One project -/

theorem rolledUp_of_ne {following : List Project} (h : p.percentage ≠ 0) :
    rolledUp p following = p := if_neg h

theorem rolledUp_of_eq {following : List Project} (h : p.percentage = 0) :
    rolledUp p following = { p with percentage := average (children p following) } := if_pos h

/-- Nothing but the percentage changes. -/
theorem exists_rolledUp_eq (p : Project) (following : List Project) :
    ∃ n, rolledUp p following = { p with percentage := n } := by
  by_cases h : p.percentage = 0
  · exact ⟨_, rolledUp_of_eq h⟩
  · exact ⟨p.percentage, rolledUp_of_ne h⟩

@[simp] theorem indentation_rolledUp (p : Project) (following : List Project) :
    (rolledUp p following).indentation = p.indentation := by
  obtain ⟨n, hn⟩ := exists_rolledUp_eq p following
  rw [hn]

/-- What is above the children plays a role for its indentation alone. -/
theorem children_congr {following : List Project} (h : q.indentation = p.indentation) :
    children q following = children p following := by
  rw [children, children, h]

/-- A project that has been rolled up is not changed by its children again. -/
theorem rolledUp_rolledUp (p : Project) (following : List Project) :
    rolledUp (rolledUp p following) following = rolledUp p following := by
  by_cases h : p.percentage = 0
  · by_cases hr : (rolledUp p following).percentage = 0
    · -- an average of 0 is taken anew, over the same children
      rw [rolledUp_of_eq hr, children_congr (indentation_rolledUp p following), rolledUp_of_eq h]
    · exact rolledUp_of_ne hr
  · rw [rolledUp_of_ne h, rolledUp_of_ne h]

/-! ### The pass -/

theorem getElem?_rollUp (projects : List Project) (i : Nat) :
    (rollUp projects)[i]? =
      projects[i]?.map fun p => rolledUp p ((rollUp projects).drop (i + 1)) := by
  induction projects generalizing i with
  | nil => rfl
  | cons p rest ih =>
    cases i with
    | zero => rfl
    | succ i => simpa [rollUp] using ih i

theorem map_indentation_rollUp (projects : List Project) :
    (rollUp projects).map (·.indentation) = projects.map (·.indentation) :=
  map_eq_map_of_forall₂ (forall₂_rollUp projects) fun _ _ h => h.indentation

/-- An unknown percentage becomes the average over the children; of no
children it is 0. -/
theorem percentageAt_rollUp (h : percentageAt projects i = 0) :
    percentageAt (rollUp projects) i =
      (∑ j ∈ childrenOf projects i, percentageAt (rollUp projects) j) /
        (childrenOf projects i).card := by
  have hrolled := getElem?_rollUp projects i
  rcases hp : projects[i]? with - | p
  · have hnone : childrenOf projects i = ∅ := by
      refine eq_empty_of_forall_notMem fun j hj => ?_
      obtain ⟨-, p, -, hp', -⟩ := (mem_filter.1 hj).2
      rw [hp] at hp'
      cases hp'
    rw [hp, Option.map_none] at hrolled
    simp [percentageAt, hrolled, hnone]
  · have hzero : p.percentage = 0 := by
      rw [percentageAt, hp] at h
      exact UInt8.toNat_inj.1 h
    rw [hp, Option.map_some] at hrolled
    have hsum := sum_children hrolled (·.percentage.toNat)
    have hcard := length_children hrolled
    rw [children_congr (indentation_rolledUp p _),
      childrenOf_congr (map_indentation_rollUp projects)] at hsum hcard
    rw [percentageAt, hrolled, Option.map_some, Option.getD_some, rolledUp_of_eq hzero,
      toNat_average, hsum, hcard]
    rfl

/-- Rolling up follows the rule at every position. -/
theorem progressRule_rollUp (projects : List Project) (i : Nat) :
    ProgressRule projects (rollUp projects) i where
  known h := by
    rcases hp : projects[i]? with - | p
    · simp [percentageAt, hp] at h
    · have hne : p.percentage ≠ 0 := by
        rintro hzero
        simp [percentageAt, hp, hzero] at h
      rw [percentageAt, percentageAt, getElem?_rollUp, hp, Option.map_some, rolledUp_of_ne hne]
  average h _ := percentageAt_rollUp h
  childless h hnone := by rw [percentageAt_rollUp h, hnone, card_empty, Nat.div_zero]

/-- Percentages that stay below a bound are rolled up to percentages below
it. -/
theorem percentage_le_of_mem_rollUp {b : Nat} (h : ∀ p ∈ projects, p.percentage.toNat ≤ b) :
    ∀ p ∈ rollUp projects, p.percentage.toNat ≤ b := by
  induction projects with
  | nil => simp [rollUp]
  | cons p rest ih =>
    have hrest := ih fun q hq => h q (List.mem_cons_of_mem _ hq)
    intro q hq
    rcases List.mem_cons.1 hq with rfl | hq
    · by_cases hp : p.percentage = 0
      · rw [rolledUp_of_eq hp, toNat_average]
        refine div_le_of_percentage_le fun r hr => hrest r ?_
        exact (List.takeWhile_sublist _).subset (List.mem_filter.1 hr).1
      · rw [rolledUp_of_ne hp]
        exact h p (List.mem_cons_self ..)
    · exact hrest q hq

/-! ### What plays no role -/

/-- The change leaves alone what percentages are rolled up from, and does not
look at them. -/
structure KeepsProgress (f : Project → Project) : Prop where
  indentation_eq : ∀ p, (f p).indentation = p.indentation
  percentage_eq : ∀ p, (f p).percentage = p.percentage
  with_percentage : ∀ p n, f { p with percentage := n } = { f p with percentage := n }

variable {f : Project → Project}

theorem children_map (hf : KeepsProgress f) (p : Project) (following : List Project) :
    children (f p) (following.map f) = (children p following).map f := by
  rw [children, below, List.takeWhile_map, List.filter_map]
  simp only [Function.comp_def, hf.indentation_eq]
  rfl

theorem average_map (hf : KeepsProgress f) (l : List Project) : average (l.map f) = average l := by
  simp only [average, List.foldr_map, List.length_map, hf.percentage_eq]

theorem rolledUp_map (hf : KeepsProgress f) (p : Project) (following : List Project) :
    rolledUp (f p) (following.map f) = f (rolledUp p following) := by
  by_cases h : p.percentage = 0
  · -- the children are the same ones, with the change made to them
    have h' : (f p).percentage = 0 := (hf.percentage_eq p).trans h
    rw [rolledUp_of_eq h, rolledUp_of_eq h', children_map hf, average_map hf]
    exact (hf.with_percentage p _).symm
  · have h' : (f p).percentage ≠ 0 := fun h' => h ((hf.percentage_eq p).symm.trans h')
    rw [rolledUp_of_ne h, rolledUp_of_ne h']

/-- A change to what plays no role can be made before or after the pass. -/
theorem rollUp_map (hf : KeepsProgress f) (projects : List Project) :
    rollUp (projects.map f) = (rollUp projects).map f := by
  induction projects with
  | nil => rfl
  | cons p rest ih => simp [rollUp, ih, rolledUp_map hf]

/-- The project without dates and color, which play no role for the
percentages. -/
def bare (p : Project) : Project := { p with dates := none, color := none }

theorem keepsProgress_bare : KeepsProgress bare := ⟨fun _ => rfl, fun _ => rfl, fun _ _ => rfl⟩

theorem map_bare_inferDates (projects : List Project) :
    (inferDates projects).map bare = projects.map bare := by
  have hbelow : ∀ l : List Project, (datesFromBelow l).map bare = l.map bare := by
    intro l
    induction l with
    | nil => rfl
    | cons p rest ih => simp [datesFromBelow, datedFromBelow, bare, ih]
  have habove : ∀ preceding l : List Project,
      (datesFromAbove preceding l).map bare = l.map bare := by
    intro preceding l
    induction l generalizing preceding with
    | nil => rfl
    | cons p rest ih => simp [datesFromAbove, datedFromAbove, bare, ih]
  rw [inferDates, habove, hbelow]

theorem map_bare_assignColors (projects : List Project) :
    (assignColors projects).map bare = projects.map bare := by
  have hcolor : ∀ place, ∀ l : List Project, (colorFrom place l).map bare = l.map bare := by
    intro place l
    induction l generalizing place with
    | nil => rfl
    | cons p rest ih => simp [colorFrom, bare, ih]
  exact hcolor .first projects

/-! ### A second pass -/

/-- A second pass changes nothing. -/
theorem rollUp_rollUp (projects : List Project) : rollUp (rollUp projects) = rollUp projects := by
  induction projects with
  | nil => rfl
  | cons p rest ih => rw [rollUp, rollUp, ih, rolledUp_rolledUp]

end TextRoadmap.Chart
