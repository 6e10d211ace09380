/-
TextRoadmap/Proofs/Roadmap/Span.lean

Instants as a linear order, and the span that covers a list of spans.

`Span.cover?` folds `Span.union` over the list.  The result does not depend
on the order of the list: it is the *hull* of the spans, whose start is the
least of the starts and whose end is the greatest of the ends
(`Span.isHull_of_cover?`).
-/
import Mathlib.Order.Bounds.Basic
import Mathlib.Order.Defs.LinearOrder
import TextRoadmap.Chart.Basic
import TextRoadmap.Document.Read
import TextRoadmap.Outline.Basic

namespace TextRoadmap

open TextRoadmap.Calendar

/-! ### The order of instants -/

/-- Instants are ordered by their rank. -/
instance : LinearOrder Instant where
  le_refl a := Int.le_refl a.rank
  le_trans a b c := Int.le_trans (a := a.rank) (b := b.rank) (c := c.rank)
  lt_iff_le_not_ge a b := Int.lt_iff_le_and_not_ge (a := a.rank) (b := b.rank)
  le_antisymm _ _ h₁ h₂ := Instant.rank_injective (Int.le_antisymm h₁ h₂)
  le_total a b := Int.le_total a.rank b.rank
  toDecidableLE := fun a b => inferInstance
  toDecidableLT := fun a b => inferInstance
  min_def a b := Instant.min_def a b
  max_def a b := Instant.max_def a b

/-! ### Hulls -/

/-- `s` runs from the least start to the greatest end of the spans in `S`. -/
structure Span.IsHull (S : Set Span) (s : Span) : Prop where
  start_least : IsLeast (Span.startAt '' S) s.startAt
  end_greatest : IsGreatest (Span.endAt '' S) s.endAt

namespace Span

theorem isHull_singleton (s : Span) : IsHull {s} s where
  start_least := by simp
  end_greatest := by simp

/-- The hull of two sets is the union of their hulls. -/
theorem IsHull.union {S T : Set Span} {s t : Span} (hs : IsHull S s) (ht : IsHull T t) :
    IsHull (S ∪ T) (s.union t) where
  start_least := by
    rw [Set.image_union]
    exact hs.start_least.union ht.start_least
  end_greatest := by
    rw [Set.image_union]
    exact hs.end_greatest.union ht.end_greatest

/-- Folding further spans into a hull gives the hull of all of them. -/
theorem IsHull.foldl {S : Set Span} {s : Span} (hs : IsHull S s) (rest : List Span) :
    IsHull (S ∪ {t | t ∈ rest}) (rest.foldl Span.union s) := by
  induction rest generalizing S s with
  | nil => simpa using hs
  | cons t rest ih =>
    have hset : S ∪ {u | u ∈ t :: rest} = (S ∪ {t}) ∪ {u | u ∈ rest} := by
      ext u
      simp only [Set.mem_union, Set.mem_ofPred_eq, List.mem_cons, Set.mem_singleton_iff, or_assoc]
    rw [hset, List.foldl_cons]
    exact ih (hs.union (isHull_singleton t))

/-- The span that covers a list is the hull of its members. -/
theorem isHull_of_cover? {spans : List Span} {s : Span} (h : cover? spans = some s) :
    IsHull {t | t ∈ spans} s := by
  cases spans with
  | nil => simp [cover?] at h
  | cons t rest =>
    obtain rfl := Option.some.inj h
    have hset : {u | u ∈ t :: rest} = {t} ∪ {u | u ∈ rest} := by
      ext u
      simp
    rw [hset]
    exact (isHull_singleton t).foldl rest

/-! ### Bounds -/

/-- The instant lies in the span, which holds its ends. -/
def Holds (s : Span) (i : Instant) : Prop := s.startAt ≤ i ∧ i ≤ s.endAt

variable {S T : Set Span} {s t u : Span}

theorem IsHull.nonempty (hs : IsHull S s) : S.Nonempty :=
  Set.image_nonempty.1 ⟨_, hs.start_least.1⟩

theorem IsHull.start_le (hs : IsHull S s) (hu : u ∈ S) : s.startAt ≤ u.startAt :=
  hs.start_least.2 (Set.mem_image_of_mem _ hu)

theorem IsHull.end_le (hs : IsHull S s) (hu : u ∈ S) : u.endAt ≤ s.endAt :=
  hs.end_greatest.2 (Set.mem_image_of_mem _ hu)

/-- Further spans do not change the hull if it holds them already. -/
theorem IsHull.eq_of_subset (hs : IsHull S s) (ht : IsHull T t) (hST : S ⊆ T)
    (hin : ∀ u ∈ T, s.startAt ≤ u.startAt ∧ u.endAt ≤ s.endAt) : t = s := by
  obtain ⟨u, hu, hstart⟩ := hs.start_least.1
  obtain ⟨u', hu', hstart'⟩ := ht.start_least.1
  obtain ⟨w, hw, hend⟩ := hs.end_greatest.1
  obtain ⟨w', hw', hend'⟩ := ht.end_greatest.1
  have h₁ : t.startAt = s.startAt :=
    le_antisymm (hstart ▸ ht.start_le (hST hu)) (hstart' ▸ (hin u' hu').1)
  have h₂ : t.endAt = s.endAt :=
    le_antisymm (hend' ▸ (hin w' hw').2) (hend ▸ ht.end_le (hST hw))
  cases s
  cases t
  cases h₁
  cases h₂
  rfl

/-- The hull of spans of which none ends before it starts does not either. -/
theorem IsHull.start_le_end (hs : IsHull S s) (h : ∀ u ∈ S, u.startAt ≤ u.endAt) :
    s.startAt ≤ s.endAt := by
  obtain ⟨u, hu⟩ := hs.nonempty
  exact (hs.start_le hu).trans ((h u hu).trans (hs.end_le hu))

end Span

/-! ### The span of a roadmap -/

namespace Roadmap

variable {r : Roadmap} {s : Span}

/-- What the span of a roadmap has to hold: the dates of its projects, and its
deadlines as spans without length. -/
def marks (r : Roadmap) : Set Span :=
  {s | ∃ p ∈ r.projects, p.dates = some s} ∪
    {s | ∃ m ∈ r.milestones, ∃ i, m.deadlineAt = some i ∧ s = ⟨i, i⟩}

/-- No project of the roadmap ends before it starts. -/
def IsOrdered (r : Roadmap) : Prop := ∀ p ∈ r.projects, ∀ s ∈ p.dates, s.startAt ≤ s.endAt

instance : Decidable r.IsOrdered := inferInstanceAs (Decidable (∀ _ ∈ _, _))

/-- The span of a roadmap is the hull of its marks. -/
theorem isHull_of_span? (h : r.span? = some s) : Span.IsHull r.marks s := by
  obtain ⟨dates, hdates, rfl⟩ := Option.map_eq_some_iff.1 h
  have hfold : (r.milestones.filterMap (·.deadlineAt)).foldl Span.extend dates =
      ((r.milestones.filterMap (·.deadlineAt)).map fun i => ⟨i, i⟩).foldl Span.union dates := by
    rw [List.foldl_map]
    rfl
  have hmarks : r.marks = {t | t ∈ r.projects.filterMap (·.dates)} ∪
      {t | t ∈ (r.milestones.filterMap (·.deadlineAt)).map fun i => ⟨i, i⟩} := by
    ext t
    simp only [marks, Set.mem_union, Set.mem_ofPred_eq, List.mem_map, List.mem_filterMap]
    refine or_congr Iff.rfl ⟨?_, ?_⟩
    · rintro ⟨m, hm, i, hi, rfl⟩
      exact ⟨i, ⟨m, hm, hi⟩, rfl⟩
    · rintro ⟨i, ⟨m, hm, hi⟩, rfl⟩
      exact ⟨m, hm, i, hi, rfl⟩
  rw [hfold, hmarks]
  exact (Span.isHull_of_cover? hdates).foldl _

/-- A roadmap is complete exactly if it has a title, a layout and a project
and is ordered. -/
theorem validate_eq_ok_iff : r.validate = .ok () ↔
    (r.title.isEmpty || r.layout.isEmpty || r.projects.isEmpty) = false ∧ r.IsOrdered := by
  have hfault : ∀ p : Project, p.fault? r.layout = none ↔ ∀ s ∈ p.dates, s.startAt ≤ s.endAt := by
    intro p
    rw [Project.fault?]
    rcases p.dates with - | s
    · simp
    · simp only [Option.mem_def, Option.some.injEq, forall_eq', ← not_lt]
      split <;> simp_all
  rw [validate]
  cases hempty : r.title.isEmpty || r.layout.isEmpty || r.projects.isEmpty with
  | true => simp
  | false =>
    simp only [Bool.false_eq_true, if_false, true_and, IsOrdered, ← hfault]
    rw [← List.findSome?_eq_none_iff]
    rcases r.projects.findSome? (Project.fault? r.layout) with - | e <;> simp

end Roadmap

end TextRoadmap
