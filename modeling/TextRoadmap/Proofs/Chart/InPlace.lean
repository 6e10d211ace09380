/-
TextRoadmap/Proofs/Chart/InPlace.lean

Rolling up in place computes what rolling up from the end of the list does.

While the pass runs, each project of the list is either the given one or the
final one of `rollUp` (`IsUnderway`), and a final project stays
(`Settles`).  For every step of the pass there is one lemma that says so and
names its result; the three of them call each other as the steps do.  The
bound on the length of the list keeps the totals from overflowing.
-/
import TextRoadmap.Chart.InPlace
import TextRoadmap.Proofs.Chart.Progress

namespace TextRoadmap.Chart

variable {n : Nat} {given : List Project} {v v' v'' : Vector Project n} {i j : Nat}

/-! ### Words -/

theorem addWords?_of_lt {a b : UInt32} (h : a.toNat + b.toNat < 0x100000000) :
    ∃ c, addWords? a b = some c ∧ c.toNat = a.toNat + b.toNat := by
  refine ⟨a + b, if_pos h, ?_⟩
  rw [UInt32.toNat_add, Nat.mod_eq_of_lt h]

/-- Totals that are small enough take a percentage more. -/
theorem Totals.add?_of_lt {t : Totals} {percentage : UInt8}
    (hsum : t.sum.toNat + percentage.toNat < 0x100000000)
    (hcount : t.count.toNat + 1 < 0x100000000) :
    ∃ t', t.add? percentage = some t' ∧ t'.sum.toNat = t.sum.toNat + percentage.toNat ∧
      t'.count.toNat = t.count.toNat + 1 := by
  obtain ⟨sum, hs, hsum'⟩ := addWords?_of_lt (a := t.sum) (b := percentage.toUInt32) hsum
  obtain ⟨count, hc, hcount'⟩ := addWords?_of_lt (a := t.count) (b := 1) hcount
  exact ⟨⟨sum, count⟩, by simp [add?, hs, hc], hsum', hcount'⟩

/-- Totals over a list of projects give their average. -/
theorem Totals.average?_eq {t : Totals} {l : List Project}
    (hsum : t.sum.toNat = (l.map (·.percentage.toNat)).sum) (hcount : t.count.toNat = l.length) :
    t.average? = some (average l) := by
  rw [average?]
  split
  · rename_i hzero
    rw [hzero] at hcount
    obtain rfl := List.eq_nil_of_length_eq_zero hcount.symm
    rfl
  · rename_i hne
    rw [divideWords?, if_neg hne, Option.map_some, Option.some.injEq]
    apply UInt8.toNat_inj.1
    rw [toNat_average, UInt32.toNat_toUInt8, UInt32.toNat_div, hsum, hcount]
    have hle := div_le_of_percentage_le (l := l) (b := 255) fun q _ =>
      Nat.le_of_lt_succ q.percentage.toNat_lt
    exact Nat.mod_eq_of_lt (by omega)

/-! ### Children along the list -/

/-- The children of a project with the given indentation. -/
def childrenBelow (indentation : UInt8) (following : List Project) : List Project :=
  (below indentation following).filter fun q => q.indentation.toNat = indentation.toNat + 1

theorem children_eq_childrenBelow (p : Project) (following : List Project) :
    children p following = childrenBelow p.indentation following := rfl

/-- Among deeper projects the indentation of children tells the children, also
where no indentation is one level deeper. -/
theorem eq_childIndentation_iff {a b : UInt8} (h : a < b) :
    b = childIndentation a ↔ b.toNat = a.toNat + 1 := by
  have hb := b.toNat_lt
  have hab : a.toNat < b.toNat := UInt8.lt_iff_toNat_lt.1 h
  have ha : a ≠ 255 := by
    rintro rfl
    have : (255 : UInt8).toNat = 255 := rfl
    omega
  rw [childIndentation, if_neg ha, ← UInt8.toNat_inj, UInt8.toNat_add, UInt8.toNat_one]
  omega

theorem childrenBelow_of_child {a : UInt8} {q : Project} (h : a < q.indentation)
    (hchild : q.indentation = childIndentation a) (l : List Project) :
    childrenBelow a (q :: l) = q :: childrenBelow a l := by
  have hnat := (eq_childIndentation_iff h).1 hchild
  simp [childrenBelow, below, h, hnat]

theorem childrenBelow_of_deeper {a : UInt8} {q : Project} (h : a < q.indentation)
    (hchild : q.indentation ≠ childIndentation a) (l : List Project) :
    childrenBelow a (q :: l) = childrenBelow a l := by
  have hnat := mt (eq_childIndentation_iff h).2 hchild
  simp [childrenBelow, below, h, hnat]

theorem childrenBelow_of_not_lt {a : UInt8} {q : Project} (h : ¬ a < q.indentation)
    (l : List Project) : childrenBelow a (q :: l) = [] := by
  simp [childrenBelow, below, h]

/-! ### Lists on the way -/

/-- Each project is the given or the final one. -/
def IsUnderway (given : List Project) (v : Vector Project n) : Prop :=
  ∀ i : Nat, v[i]? = given[i]? ∨ v[i]? = (rollUp given)[i]?

/-- On the way from `v` to `v'` nothing happens but that projects become
final. -/
def Settles (given : List Project) (v v' : Vector Project n) : Prop :=
  ∀ i : Nat, v'[i]? = v[i]? ∨ v'[i]? = (rollUp given)[i]?

theorem Settles.refl (given : List Project) (v : Vector Project n) : Settles given v v :=
  fun _ => Or.inl rfl

theorem Settles.trans (h : Settles given v v') (h' : Settles given v' v'') :
    Settles given v v'' := by
  intro i
  rcases h' i with hi | hi
  · rw [hi]
    exact h i
  · exact Or.inr hi

/-- What is final stays. -/
theorem Settles.final (h : Settles given v v') (hi : v[i]? = (rollUp given)[i]?) :
    v'[i]? = (rollUp given)[i]? := by
  rcases h i with h | h
  · rw [h, hi]
  · exact h

theorem IsUnderway.of_settles (hv : IsUnderway given v) (h : Settles given v v') :
    IsUnderway given v' := by
  intro i
  rcases h i with hi | hi
  · rw [hi]
    exact hv i
  · exact Or.inr hi

/-- What a project on the way has in common with the final one: all but an
unknown percentage, and that one is the average of the final children. -/
theorem IsUnderway.exists_final (hv : IsUnderway given v) (hn : given.length = n) (h : i < n) :
    ∃ q, (rollUp given)[i]? = some q ∧ { v[i] with percentage := q.percentage } = q ∧
      (v[i].percentage ≠ 0 → v[i] = q) ∧
      (v[i].percentage = 0 →
        q.percentage = average (childrenBelow q.indentation ((rollUp given).drop (i + 1)))) := by
  obtain ⟨p, hp⟩ : ∃ p, given[i]? = some p := ⟨_, List.getElem?_eq_getElem (by omega)⟩
  have hq := getElem?_rollUp given i
  rw [hp, Option.map_some] at hq
  obtain ⟨m, hm⟩ := exists_rolledUp_eq p ((rollUp given).drop (i + 1))
  have hcur : v[i] = p ∨ v[i] = rolledUp p ((rollUp given).drop (i + 1)) := by
    simpa [Vector.getElem?_eq_getElem h, hp, hq] using hv i
  refine ⟨_, hq, ?_, ?_, ?_⟩
  · rcases hcur with hc | hc <;> simp [hc, hm]
  · intro hne
    rcases hcur with hc | hc
    · rw [hc] at hne ⊢
      exact (rolledUp_of_ne hne).symm
    · exact hc
  · intro hzero
    have hp0 : p.percentage = 0 := by
      by_contra hne
      rw [rolledUp_of_ne hne, or_self] at hcur
      exact hne (hcur ▸ hzero)
    rw [rolledUp_of_eq hp0, children_eq_childrenBelow]

/-- Where the final project replaces the one on the way. -/
theorem settles_set (h : i < n) {q : Project} (hq : (rollUp given)[i]? = some q) :
    Settles given v (v.set i q) ∧ (v.set i q)[i]? = (rollUp given)[i]? := by
  have hi : (v.set i q)[i]? = (rollUp given)[i]? := by
    rw [Vector.getElem?_set_self, hq]
  refine ⟨fun j => ?_, hi⟩
  rcases eq_or_ne i j with rfl | hne
  · exact Or.inr hi
  · exact Or.inl (Vector.getElem?_set_ne h hne)

/-! ### The steps of the pass -/

-- One induction for all three steps, along their calls: `gather` goes on to
-- the next position, and from there to `fill` and `settle` at the same one.
mutual

/-- Settling a project gives its final percentage. -/
theorem settle_eq {v : Vector Project n} {i : Nat} (hv : IsUnderway given v)
    (hn : given.length = n) (hlen : n ≤ 0x1000000) (h : i < n) {q : Project}
    (hq : (rollUp given)[i]? = some q) :
    ∃ v', settle v i h = some (q.percentage, v') ∧ Settles given v v' := by
  obtain ⟨q', hq', hset, hknown, haverage⟩ := hv.exists_final hn h
  obtain rfl := Option.some.inj (hq.symm.trans hq')
  rw [settle]
  by_cases hzero : v[i].percentage = 0
  · -- 2²⁴ percentages of 255 are just below the largest word
    have hind : v[i].indentation = q.indentation := by rw [← hset]
    have hsum : (0 : UInt32).toNat + 255 * (n - (i + 1)) < 0x100000000 := by
      rw [UInt32.toNat_zero]
      omega
    have hcount : (0 : UInt32).toNat + (n - (i + 1)) < 0x100000000 := by
      rw [UInt32.toNat_zero]
      omega
    obtain ⟨t, v', hgather, hsettles, hsum', hcount'⟩ :=
      gather_eq (t := {}) q.indentation hv hn hlen hsum hcount
    rw [UInt32.toNat_zero, Nat.zero_add] at hsum' hcount'
    refine ⟨v', ?_, hsettles⟩
    rw [if_neg (not_not.2 hzero), hind, hgather, haverage hzero]
    simp [Totals.average?_eq hsum' hcount']
  · exact ⟨v, by rw [if_pos hzero, hknown hzero], .refl given v⟩
termination_by (n - i, 0)

/-- Filling in makes a project final. -/
theorem fill_eq {v : Vector Project n} {i : Nat} (hv : IsUnderway given v)
    (hn : given.length = n) (hlen : n ≤ 0x1000000) (h : i < n) :
    ∃ v', fill v i h = some v' ∧ Settles given v v' ∧ v'[i]? = (rollUp given)[i]? := by
  obtain ⟨q, hq, hset, hknown, -⟩ := hv.exists_final hn h
  rw [fill]
  by_cases hzero : v[i].percentage = 0
  · obtain ⟨v', hsettle, hsettles⟩ := settle_eq hv hn hlen h hq
    -- settling may have touched this project, but only its percentage
    obtain ⟨q', hq', hset', -⟩ := (hv.of_settles hsettles).exists_final hn h
    obtain rfl := Option.some.inj (hq.symm.trans hq')
    obtain ⟨hsettles', hfinal⟩ := settles_set (v := v') h hq
    refine ⟨v'.set i q, ?_, hsettles.trans hsettles', hfinal⟩
    rw [if_pos hzero, hsettle]
    simp [hset']
  · refine ⟨v, if_neg hzero, .refl given v, ?_⟩
    rw [Vector.getElem?_eq_getElem h, hknown hzero, hq]
termination_by (n - i, 1)

/-- The totals are those over the final children. -/
theorem gather_eq {v : Vector Project n} {i : Nat} {t : Totals} (a : UInt8)
    (hv : IsUnderway given v) (hn : given.length = n) (hlen : n ≤ 0x1000000)
    (hsum : t.sum.toNat + 255 * (n - i) < 0x100000000)
    (hcount : t.count.toNat + (n - i) < 0x100000000) :
    ∃ t' v', gather a i t v = some (t', v') ∧ Settles given v v' ∧
      t'.sum.toNat = t.sum.toNat +
        ((childrenBelow a ((rollUp given).drop i)).map (·.percentage.toNat)).sum ∧
      t'.count.toNat = t.count.toNat + (childrenBelow a ((rollUp given).drop i)).length := by
  rw [gather]
  by_cases h : i < n
  · obtain ⟨q, hq, hset, -⟩ := hv.exists_final hn h
    have hind : v[i].indentation = q.indentation := by rw [← hset]
    have hdrop : (rollUp given).drop i = q :: (rollUp given).drop (i + 1) := by
      obtain ⟨hlt, rfl⟩ := List.getElem?_eq_some_iff.1 hq
      exact List.drop_eq_getElem_cons hlt
    rw [dif_pos h, hind, hdrop]
    by_cases hlt : a < q.indentation
    · rw [if_pos hlt]
      by_cases hchild : q.indentation = childIndentation a
      · -- a child: it is final when its percentage is added
        obtain ⟨v', hfill, hsettles, hfinal⟩ := fill_eq hv hn hlen h
        have hpercentage : v'[i].percentage = q.percentage := by
          rw [hq, Vector.getElem?_eq_getElem h, Option.some.injEq] at hfinal
          rw [hfinal]
        have hbyte := q.percentage.toNat_lt
        have hsumLt : t.sum.toNat + q.percentage.toNat < 0x100000000 := by omega
        obtain ⟨t', hadd, hsum', hcount'⟩ := Totals.add?_of_lt hsumLt (by omega)
        obtain ⟨t'', v'', hgather, hsettles', hsum'', hcount''⟩ :=
          gather_eq (i := i + 1) (t := t') a (hv.of_settles hsettles) hn hlen
            (by omega) (by omega)
        refine ⟨t'', v'', ?_, hsettles.trans hsettles', ?_, ?_⟩
        · rw [if_pos hchild, hfill]
          simp [hpercentage, hadd, hgather]
        · rw [hsum'', hsum', childrenBelow_of_child hlt hchild, List.map_cons, List.sum_cons]
          omega
        · rw [hcount'', hcount', childrenBelow_of_child hlt hchild, List.length_cons]
          omega
      · rw [if_neg hchild, childrenBelow_of_deeper hlt hchild]
        exact gather_eq a hv hn hlen (by omega) (by omega)
    · refine ⟨t, v, if_neg hlt, .refl given v, ?_, ?_⟩ <;> simp [childrenBelow_of_not_lt hlt]
  · have hnil : (rollUp given).drop i = [] :=
      List.drop_eq_nil_of_le (by rw [length_rollUp]; omega)
    refine ⟨t, v, dif_neg h, .refl given v, ?_, ?_⟩ <;> simp [hnil, childrenBelow, below]
termination_by (n - i, 2)

end

/-! ### The whole pass -/

/-- From a position on everything becomes final, and what is final before it
stays. -/
theorem fillFrom_eq {v : Vector Project n} {i : Nat} (hv : IsUnderway given v)
    (hn : given.length = n) (hlen : n ≤ 0x1000000) :
    ∃ v', fillFrom i v = some v' ∧ Settles given v v' ∧
      ∀ j, i ≤ j → v'[j]? = (rollUp given)[j]? := by
  rw [fillFrom]
  by_cases h : i < n
  · obtain ⟨v', hfill, hsettles, hfinal⟩ := fill_eq hv hn hlen h
    obtain ⟨v'', hfrom, hsettles', hrest⟩ :=
      fillFrom_eq (i := i + 1) (hv.of_settles hsettles) hn hlen
    refine ⟨v'', ?_, hsettles.trans hsettles', fun j hij => ?_⟩
    · rw [dif_pos h, hfill]
      exact hfrom
    · rcases hij.eq_or_lt with rfl | hlt
      · exact hsettles'.final hfinal
      · exact hrest j hlt
  · refine ⟨v, dif_neg h, .refl given v, fun j hij => ?_⟩
    rw [Vector.getElem?_eq_none (by omega), List.getElem?_eq_none (by rw [length_rollUp]; omega)]
termination_by n - i

/-- Rolling up in place has a result, the one of rolling up from the end. -/
theorem rollUpInPlace?_eq (projects : List Project) (h : projects.length ≤ 0x1000000) :
    rollUpInPlace? projects = some (rollUp projects) := by
  have hv : IsUnderway projects projects.toArray.toVector := fun i => Or.inl (by simp)
  obtain ⟨v', hfrom, -, hfinal⟩ := fillFrom_eq (i := 0) hv (by simp) (by simpa using h)
  rw [rollUpInPlace?, hfrom, Option.map_some, Option.some.injEq]
  refine List.ext_getElem? fun j => ?_
  rw [← hfinal j j.zero_le]
  simp

/-- **Percentages of a chart**: rolling up in place, with words of 32 bits,
neither overflows nor divides by zero for up to 2²⁴ projects, and all that
it changes are the percentages.  They follow from the given ones by
`ProgressRule`, whatever the indentations: unknown ones are the averages over
the tree.  Percentages up to 100 stay there, and a second pass changes
nothing. -/
theorem rollUp_tree_average (projects : List Project) (h : projects.length ≤ 0x1000000) :
    rollUpInPlace? projects = some (rollUp projects) ∧
      (rollUp projects).length = projects.length ∧
      (∀ (i : Nat) (p : Project), projects[i]? = some p →
        ∃ n, (rollUp projects)[i]? = some { p with percentage := n }) ∧
      (∀ i, ProgressRule projects (rollUp projects) i) ∧
      ((∀ p ∈ projects, p.percentage.toNat ≤ 100) →
        ∀ p ∈ rollUp projects, p.percentage.toNat ≤ 100) ∧
      rollUpInPlace? (rollUp projects) = some (rollUp projects) := by
  refine ⟨rollUpInPlace?_eq projects h, length_rollUp projects, fun i p hp => ?_,
    progressRule_rollUp projects, percentage_le_of_mem_rollUp, ?_⟩
  · obtain ⟨n, hn⟩ := exists_rolledUp_eq p ((rollUp projects).drop (i + 1))
    exact ⟨n, by rw [getElem?_rollUp, hp, Option.map_some, hn]⟩
  · rw [rollUpInPlace?_eq _ (by rwa [length_rollUp]), rollUp_rollUp]

/-- A list that begins below the top, with a child that is two levels deeper
than its project, a project without children at the greatest depth, and a
child that stays at 0. -/
def jagged : List Project :=
  [{ indentation := 2, title := "A" }, { indentation := 3, title := "B", percentage := 41 },
   { indentation := 0, title := "C" }, { indentation := 2, title := "D", percentage := 90 },
   { indentation := 1, title := "E" }, { indentation := 2, title := "F", percentage := 25 },
   { indentation := 2, title := "G" }, { indentation := 254, title := "H" },
   { indentation := 255, title := "I", percentage := 200 },
   { indentation := 1, title := "J", percentage := 7 }]

theorem rollUp_tree_average_jagged :
    jagged.length ≤ 0x1000000 ∧ rollUpInPlace? jagged = some (rollUp jagged) ∧
      (rollUp jagged).map (·.percentage) = [41, 41, 9, 90, 12, 25, 0, 200, 200, 7] :=
  have h : jagged.length ≤ 0x1000000 := by decide
  ⟨h, (rollUp_tree_average jagged h).1, by decide⟩

end TextRoadmap.Chart
