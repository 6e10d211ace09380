/-
TextRoadmap/Proofs/Chart/Descendants.lean

The tree in a flat list, as a relation between positions.

`IsDescendant projects i j` says that `j` comes after `i` and that every
project after `i` up to and including `j` is indented deeper than `i`.  It
makes sense for every sequence of indentations, with jumps of several levels
and lists that do not begin with an epic.  The ancestors of a project form a
chain (`IsDescendant.of_lt`), whose nearest element is its *parent* and whose
first element is the *root* of its tree.
-/
import Mathlib.Data.Nat.Basic
import Mathlib.Data.Nat.Find
import Mathlib.Logic.ExistsUnique
import Mathlib.Order.Basic
import TextRoadmap.Chart.Basic

namespace TextRoadmap.Chart

variable {projects : List Project} {a b i j : Nat}

/-! ### Descendants -/

/-- The projects after `i` up to and including `j`, of which there are some,
are all indented deeper than `i`. -/
def IsDescendant (projects : List Project) (i j : Nat) : Prop :=
  i < j ∧ ∃ p, projects[i]? = some p ∧
    ∀ k, i < k → k ≤ j → ∃ q, projects[k]? = some q ∧ p.indentation < q.indentation

theorem isDescendant_iff_any : IsDescendant projects i j ↔
    i < j ∧ (projects[i]?.any fun p =>
      decide (∀ k < j + 1, i < k → (projects[k]?.any (p.indentation < ·.indentation)) = true)) =
        true := by
  simp only [IsDescendant, Option.any_eq_true, decide_eq_true_eq, Nat.lt_succ_iff]
  exact and_congr_right fun _ => exists_congr fun p => and_congr_right fun _ =>
    ⟨fun h k hkj hik => h k hik hkj, fun h k hik hkj => h k hkj hik⟩

instance : Decidable (IsDescendant projects i j) := decidable_of_iff _ isDescendant_iff_any.symm

theorem IsDescendant.lt (h : IsDescendant projects i j) : i < j := h.1

theorem IsDescendant.lt_length (h : IsDescendant projects i j) : j < projects.length := by
  obtain ⟨hlt, p, -, hall⟩ := h
  obtain ⟨q, hq, -⟩ := hall j hlt le_rfl
  exact (List.getElem?_eq_some_iff.1 hq).1

/-- Whatever stands between a project and a descendant is a descendant. -/
theorem IsDescendant.of_le (h : IsDescendant projects a i) (haj : a < j) (hji : j ≤ i) :
    IsDescendant projects a j := by
  obtain ⟨-, p, hp, hall⟩ := h
  exact ⟨haj, p, hp, fun k hak hkj => hall k hak (hkj.trans hji)⟩

theorem IsDescendant.trans (hab : IsDescendant projects a b) (hbi : IsDescendant projects b i) :
    IsDescendant projects a i := by
  obtain ⟨hlt, p, hp, hall⟩ := hab
  obtain ⟨hlt', q, hq, hall'⟩ := hbi
  refine ⟨hlt.trans hlt', p, hp, fun k hak hki => ?_⟩
  rcases Nat.lt_or_ge b k with hbk | hkb
  · -- beyond `b` everything is deeper than `b`, which is deeper than `a`
    obtain ⟨r, hr, hqr⟩ := hall' k hbk hki
    obtain ⟨q', hq', hpq⟩ := hall b hlt le_rfl
    obtain rfl := Option.some.inj (hq.symm.trans hq')
    exact ⟨r, hr, UInt8.lt_trans hpq hqr⟩
  · exact hall k hak hkb

/-- Two ancestors of a project: the earlier one is an ancestor of the later
one. -/
theorem IsDescendant.of_lt (ha : IsDescendant projects a i) (hb : IsDescendant projects b i)
    (hab : a < b) : IsDescendant projects a b :=
  ha.of_le hab hb.lt.le

/-- Lists with the same indentations have projects of the same indentation at
every position. -/
theorem exists_getElem?_of_map_indentation {l l' : List Project} {k : Nat} {q : Project}
    (h : l'.map (·.indentation) = l.map (·.indentation)) (hq : l'[k]? = some q) :
    ∃ q', l[k]? = some q' ∧ q'.indentation = q.indentation := by
  have hk := congrArg (·[k]?) h
  simp only [List.getElem?_map, hq, Option.map_some] at hk
  exact Option.map_eq_some_iff.1 hk.symm

/-- Descendants depend on the indentations alone. -/
theorem isDescendant_congr {projects' : List Project}
    (h : projects'.map (·.indentation) = projects.map (·.indentation)) :
    IsDescendant projects' i j ↔ IsDescendant projects i j := by
  have key : ∀ {l l' : List Project}, l'.map (·.indentation) = l.map (·.indentation) →
      IsDescendant l' i j → IsDescendant l i j := by
    rintro l l' hl ⟨hlt, p, hp, hall⟩
    obtain ⟨p', hp', hpp⟩ := exists_getElem?_of_map_indentation hl hp
    refine ⟨hlt, p', hp', fun k hik hkj => ?_⟩
    obtain ⟨q, hq, hpq⟩ := hall k hik hkj
    obtain ⟨q', hq', hqq⟩ := exists_getElem?_of_map_indentation hl hq
    exact ⟨q', hq', by rw [hpp, hqq]; exact hpq⟩
  exact ⟨key h, key h.symm⟩

/-! ### Parents and roots -/

/-- The nearest ancestor. -/
def IsParent (projects : List Project) (a i : Nat) : Prop :=
  IsDescendant projects a i ∧ ∀ b, IsDescendant projects b i → b ≤ a

/-- The project itself or an ancestor, and at the top of its tree. -/
def IsRoot (projects : List Project) (t i : Nat) : Prop :=
  (t = i ∨ IsDescendant projects t i) ∧ ∀ a, ¬ IsDescendant projects a t

/-- Of the ancestors with some property one is the nearest. -/
theorem exists_nearest {P : Nat → Prop} (ha : IsDescendant projects a i) (hP : P a) :
    ∃ b, (IsDescendant projects b i ∧ P b) ∧
      ∀ c, IsDescendant projects c i → P c → c ≤ b := by
  classical
  let Q : Nat → Prop := fun b => IsDescendant projects b i ∧ P b
  have hQa : Q a := ⟨ha, hP⟩
  refine ⟨Nat.findGreatest Q i, Nat.findGreatest_spec ha.lt.le hQa, fun c hc hPc => ?_⟩
  exact Nat.le_findGreatest hc.lt.le ⟨hc, hPc⟩

/-- A project with an ancestor has a parent. -/
theorem exists_isParent (ha : IsDescendant projects a i) : ∃ b, IsParent projects b i := by
  obtain ⟨b, ⟨hb, -⟩, hmax⟩ := exists_nearest (P := fun _ => True) ha trivial
  exact ⟨b, hb, fun c hc => hmax c hc trivial⟩

/-- Every project has exactly one root. -/
theorem existsUnique_isRoot (projects : List Project) (i : Nat) :
    ∃! t, IsRoot projects t i := by
  -- going up from ancestor to ancestor ends, since they stand further and further up
  have hex : ∃ t, IsRoot projects t i := by
    induction i using Nat.strong_induction_on with
    | _ i ih =>
      by_cases h : ∃ a, IsDescendant projects a i
      · obtain ⟨a, ha⟩ := h
        obtain ⟨t, ht, htop⟩ := ih a ha.lt
        refine ⟨t, Or.inr ?_, htop⟩
        rcases ht with rfl | ht
        exacts [ha, ht.trans ha]
      · exact ⟨i, Or.inl rfl, fun a ha => h ⟨a, ha⟩⟩
  obtain ⟨t, ht⟩ := hex
  refine ⟨t, ht, fun u hu => ?_⟩
  rcases ht with ⟨rfl | ht, htop⟩ <;> rcases hu with ⟨rfl | hu, hutop⟩
  · rfl
  · exact absurd hu (htop u)
  · exact absurd ht (hutop t)
  · -- of two ancestors the later one descends from the earlier one
    rcases Nat.lt_trichotomy u t with h | h | h
    · exact absurd (hu.of_lt ht h) (htop u)
    · exact h
    · exact absurd (ht.of_lt hu h) (hutop t)

/-- An ancestor stands in the tree of the root. -/
theorem IsRoot.le_of_isDescendant {t : Nat} (ht : IsRoot projects t i)
    (ha : IsDescendant projects a i) : a = t ∨ IsDescendant projects t a := by
  rcases ht with ⟨rfl | ht, htop⟩
  · exact absurd ha (htop a)
  · rcases Nat.lt_trichotomy a t with h | h | h
    · exact absurd (ha.of_lt ht h) (htop a)
    · exact Or.inl h
    · exact Or.inr (ht.of_lt ha h)

end TextRoadmap.Chart
