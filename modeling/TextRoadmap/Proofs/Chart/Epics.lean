/-
TextRoadmap/Proofs/Chart/Epics.lean

Epics do not look at each other.

An epic ends the run of projects below any project before it, and a search
for dates that has come up to an epic finds nothing above it.  So each pass
over a list splits where an epic begins (`inferDates_append`,
`rollUp_append`), and what is filled in for one epic stays the same whatever
happens to the others (`chart_epics_apart`).

The pass in place splits as well (`rollUpInPlace?_append`): the projects from
the epic on are not touched before their turn comes, and those before it not
any more after that.  Nothing is assumed of the number of projects, so this
includes lists whose totals are too large for a word.
-/
import TextRoadmap.Proofs.Chart.Dates
import TextRoadmap.Proofs.Chart.InPlace

namespace TextRoadmap.Chart

variable {a b preceding : List Project} {p : Project} {indentation : UInt8}

/-- The list begins with an epic, if with anything. -/
def StartsWithEpic (projects : List Project) : Prop := ∀ p ∈ projects.head?, p.isEpic = true

theorem StartsWithEpic.indentation_eq {rest : List Project} (h : StartsWithEpic (p :: rest)) :
    p.indentation = 0 := by
  simpa [Project.isEpic] using h p rfl

/-! ### From below -/

/-- An epic ends what lies below a project before it. -/
theorem below_append (h : StartsWithEpic b) (indentation : UInt8) (a : List Project) :
    below indentation (a ++ b) = below indentation a := by
  induction a with
  | nil =>
    cases b with
    | nil => rfl
    | cons p b => simp [below, h.indentation_eq]
  | cons q a ih =>
    rw [below] at ih
    simp only [below, List.cons_append, List.takeWhile_cons, ih]

theorem datesFromBelow_append (h : StartsWithEpic b) (a : List Project) :
    datesFromBelow (a ++ b) = datesFromBelow a ++ datesFromBelow b := by
  induction a with
  | nil => rfl
  | cons p a ih =>
    rw [List.cons_append, datesFromBelow, ih, datesFromBelow, datedFromBelow, datedFromBelow,
      below_append h, List.cons_append]

theorem startsWithEpic_datesFromBelow (h : StartsWithEpic b) :
    StartsWithEpic (datesFromBelow b) := by
  cases b with
  | nil => exact h
  | cons p b => simpa [StartsWithEpic, datesFromBelow, datedFromBelow, Project.isEpic] using h

/-! ### From above -/

/-- Nothing lies above an epic. -/
theorem datesAbove?_zero (preceding : List Project) : datesAbove? 0 preceding = none := by
  induction preceding with
  | nil => rfl
  | cons p preceding ih => rw [datesAbove?, if_neg UInt8.not_lt_zero, ih]

/-- A search that meets an epic goes no further. -/
theorem datesAbove?_append (h : ∃ p ∈ a, p.indentation = 0) (indentation : UInt8)
    (b : List Project) : datesAbove? indentation (a ++ b) = datesAbove? indentation a := by
  induction a generalizing indentation with
  | nil => simp at h
  | cons q a ih =>
    rw [List.cons_append, datesAbove?, datesAbove?]
    obtain ⟨p, hp, hzero⟩ := h
    rcases List.mem_cons.1 hp with rfl | hp
    · -- from the epic on the search is one from the top
      rw [hzero, datesAbove?_zero, datesAbove?_zero]
      split
      · rfl
      · rename_i hnot
        obtain rfl : indentation = 0 := by
          rw [← UInt8.toNat_inj]
          simpa [UInt8.lt_iff_toNat_lt] using hnot
        rw [datesAbove?_zero, datesAbove?_zero]
    · rw [ih ⟨p, hp, hzero⟩, ih ⟨p, hp, hzero⟩]

theorem datesFromAbove_append (preceding a b : List Project) :
    datesFromAbove preceding (a ++ b) =
      datesFromAbove preceding a ++
        datesFromAbove ((datesFromAbove preceding a).reverse ++ preceding) b := by
  induction a generalizing preceding with
  | nil => rfl
  | cons p a ih => simp [datesFromAbove, ih]

/-- Behind an epic it makes no difference what stands before that epic. -/
theorem datesFromAbove_append_preceding (h : ∃ p ∈ a, p.indentation = 0)
    (preceding b : List Project) : datesFromAbove (a ++ preceding) b = datesFromAbove a b := by
  induction b generalizing a with
  | nil => rfl
  | cons p b ih =>
    have hdated : datedFromAbove (a ++ preceding) p = datedFromAbove a p := by
      rw [datedFromAbove, datedFromAbove, datesAbove?_append h]
    obtain ⟨q, hq, hzero⟩ := h
    rw [datesFromAbove, datesFromAbove, hdated]
    exact congrArg _ (ih ⟨q, List.mem_cons_of_mem _ hq, hzero⟩)

theorem datesFromAbove_of_startsWithEpic (h : StartsWithEpic b) (preceding : List Project) :
    datesFromAbove preceding b = datesFromAbove [] b := by
  cases b with
  | nil => rfl
  | cons p b =>
    have hzero := h.indentation_eq
    have hdated : datedFromAbove preceding p = datedFromAbove [] p := by
      rw [datedFromAbove, datedFromAbove, hzero, datesAbove?_zero, datesAbove?_zero]
    rw [datesFromAbove, datesFromAbove, hdated]
    exact congrArg _
      (datesFromAbove_append_preceding (a := [datedFromAbove [] p])
        ⟨_, List.mem_singleton_self _, hzero⟩ preceding b)

/-- Dates are inferred epic by epic. -/
theorem inferDates_append (h : StartsWithEpic b) (a : List Project) :
    inferDates (a ++ b) = inferDates a ++ inferDates b := by
  rw [inferDates, datesFromBelow_append h, datesFromAbove_append,
    datesFromAbove_of_startsWithEpic (startsWithEpic_datesFromBelow h), inferDates, inferDates]

/-! ### Percentages -/

theorem startsWithEpic_rollUp (h : StartsWithEpic b) : StartsWithEpic (rollUp b) := by
  cases b with
  | nil => exact h
  | cons p b => simpa [StartsWithEpic, rollUp, Project.isEpic] using h

/-- Percentages are rolled up epic by epic. -/
theorem rollUp_append (h : StartsWithEpic b) (a : List Project) :
    rollUp (a ++ b) = rollUp a ++ rollUp b := by
  induction a with
  | nil => rfl
  | cons p a ih =>
    rw [List.cons_append, rollUp, ih, rollUp, List.cons_append, rolledUp, rolledUp, children,
      children, below_append (startsWithEpic_rollUp h)]

/-! ### Percentages in place -/

section InPlace

variable {n m : Nat} {w : Vector Project m}

-- As in the pass itself, one induction along the calls of the three steps.
mutual

/-- Settling a project in front of an epic leaves the list from there on. -/
theorem settle_append_left (hw : ∀ h : 0 < m, w[0].indentation = 0) (v : Vector Project n)
    {i : Nat} (h : i < n) :
    settle (v ++ w) i (Nat.lt_add_right m h) =
      (settle v i h).map fun (percentage, v') => (percentage, v' ++ w) := by
  rw [settle, settle, Vector.getElem_append_left h, gather_append_left hw _ h]
  split
  · rfl
  · rcases gather v[i].indentation (i + 1) {} v with - | ⟨t, v'⟩
    · rfl
    · cases ht : t.average? <;> simp [ht]
termination_by (n - i, 0)

theorem fill_append_left (hw : ∀ h : 0 < m, w[0].indentation = 0) (v : Vector Project n)
    {i : Nat} (h : i < n) :
    fill (v ++ w) i (Nat.lt_add_right m h) = (fill v i h).map (· ++ w) := by
  rw [fill, fill, Vector.getElem_append_left h, settle_append_left hw v h]
  split
  · rcases settle v i h with - | ⟨percentage, v'⟩
    · rfl
    · simp [Vector.getElem_append_left h, Vector.set_append_left h]
  · rfl
termination_by (n - i, 1)

/-- The epic ends the run of projects over which totals are taken. -/
theorem gather_append_left (hw : ∀ h : 0 < m, w[0].indentation = 0) {i : Nat} (v : Vector Project n)
    (h : i ≤ n) (indentation : UInt8) (t : Totals) :
    gather indentation i t (v ++ w) =
      (gather indentation i t v).map fun (t', v') => (t', v' ++ w) := by
  rw [gather.eq_def _ _ _ (v ++ w), gather.eq_def _ _ _ v]
  rcases h.lt_or_eq with hi | rfl
  · rw [dif_pos (Nat.lt_add_right m hi), dif_pos hi, Vector.getElem_append_left hi,
      fill_append_left hw v hi, gather_append_left hw v hi]
    split
    · split
      · rcases fill v i hi with - | v'
        · rfl
        · cases ht : t.add? v'[i].percentage with
          | none => simp [Vector.getElem_append_left hi, ht]
          | some t' => simp [Vector.getElem_append_left hi, ht, gather_append_left hw v' hi]
      · rfl
    · rfl
  · rw [dif_neg (Nat.lt_irrefl i)]
    split
    · rename_i hlt
      have hzero : (v ++ w)[i].indentation = 0 := by
        rw [Vector.getElem_append_right hlt le_rfl]
        simpa using hw (by omega)
      rw [hzero, if_neg UInt8.not_lt_zero]
      rfl
    · rfl
termination_by (n - i, 2)

end

theorem getElem_append_add (v : Vector Project n) (w : Vector Project m) {j : Nat} (h : j < m) :
    (v ++ w)[n + j] = w[j] := by
  simp

-- What stands in front is never looked at again, whether an epic follows or not.
mutual

/-- Settling a project leaves the list in front of it. -/
theorem settle_append_right (v : Vector Project n) (w : Vector Project m) {j : Nat} (h : j < m) :
    settle (v ++ w) (n + j) (Nat.add_lt_add_left h n) =
      (settle w j h).map fun (percentage, w') => (percentage, v ++ w') := by
  rw [settle, settle, getElem_append_add v w h, Nat.add_assoc, gather_append_right]
  split
  · rfl
  · rcases gather w[j].indentation (j + 1) {} w with - | ⟨t, w'⟩
    · rfl
    · cases ht : t.average? <;> simp [ht]
termination_by (m - j, 0)

theorem fill_append_right (v : Vector Project n) (w : Vector Project m) {j : Nat} (h : j < m) :
    fill (v ++ w) (n + j) (Nat.add_lt_add_left h n) = (fill w j h).map (v ++ ·) := by
  rw [fill, fill, getElem_append_add v w h, settle_append_right v w h]
  split
  · rcases settle w j h with - | ⟨percentage, w'⟩
    · rfl
    · simp [Vector.set_append_right (Nat.add_lt_add_left h n) (Nat.le_add_right n j)]
  · rfl
termination_by (m - j, 1)

theorem gather_append_right (v : Vector Project n) (w : Vector Project m) (j : Nat)
    (indentation : UInt8) (t : Totals) :
    gather indentation (n + j) t (v ++ w) =
      (gather indentation j t w).map fun (t', w') => (t', v ++ w') := by
  rw [gather.eq_def _ _ _ (v ++ w), gather.eq_def _ _ _ w]
  by_cases h : j < m
  · rw [dif_pos (Nat.add_lt_add_left h n), dif_pos h, getElem_append_add v w h,
      fill_append_right v w h, Nat.add_assoc, gather_append_right v w]
    split
    · split
      · rcases fill w j h with - | w'
        · rfl
        · cases ht : t.add? w'[j].percentage with
          | none => simp [ht]
          | some t' => simp [ht, gather_append_right v w' (j + 1)]
      · rfl
    · rfl
  · rw [dif_neg (by omega), dif_neg h]
    rfl
termination_by (m - j, 2)

end

/-- In front of an epic the pass goes on as if the list ended there. -/
theorem fillFrom_append_left (hw : ∀ h : 0 < m, w[0].indentation = 0) {i : Nat}
    (v : Vector Project n) (h : i ≤ n) :
    fillFrom i (v ++ w) = (fillFrom i v).bind fun v' => fillFrom n (v' ++ w) := by
  rcases h.lt_or_eq with hi | rfl
  · rw [fillFrom.eq_def i (v ++ w), fillFrom.eq_def i v, dif_pos (Nat.lt_add_right m hi),
      dif_pos hi, fill_append_left hw v hi]
    rcases fill v i hi with - | v'
    · rfl
    · exact fillFrom_append_left hw v' hi
  · rw [fillFrom.eq_def i v, dif_neg (Nat.lt_irrefl i)]
    rfl
termination_by n - i

/-- Behind it, the pass goes on as if the list began there. -/
theorem fillFrom_append_right (v : Vector Project n) (w : Vector Project m) (j : Nat) :
    fillFrom (n + j) (v ++ w) = (fillFrom j w).map (v ++ ·) := by
  rw [fillFrom.eq_def _ (v ++ w), fillFrom.eq_def j w]
  by_cases h : j < m
  · rw [dif_pos (Nat.add_lt_add_left h n), dif_pos h, fill_append_right v w h]
    rcases fill w j h with - | w'
    · rfl
    · exact fillFrom_append_right v w' (j + 1)
  · rw [dif_neg (by omega), dif_neg h]
    rfl
termination_by m - j

/-- The pass gives the same list, whatever the length is called. -/
theorem fillFrom_cast (h : n = m) (i : Nat) (v : Vector Project n) :
    (fillFrom i (v.cast h)).map (·.toList) = (fillFrom i v).map (·.toList) := by
  subst h
  rfl

/-- Rolling up in place goes epic by epic, and has a result exactly if it has
one for every part. -/
theorem rollUpInPlace?_append (h : StartsWithEpic b) (a : List Project) :
    rollUpInPlace? (a ++ b) =
      (rollUpInPlace? a).bind fun a' => (rollUpInPlace? b).map (a' ++ ·) := by
  have hw : ∀ hb : 0 < b.toArray.size, b.toArray.toVector[0].indentation = 0 := by
    intro hb
    cases b with
    | nil => simp at hb
    | cons p b => exact h.indentation_eq
  have hsize : (a ++ b).toArray.size = a.toArray.size + b.toArray.size := by simp
  have hcast : (a ++ b).toArray.toVector.cast hsize = a.toArray.toVector ++ b.toArray.toVector := by
    apply Vector.toList_inj.1
    simp
  have hleft := fillFrom_append_left hw a.toArray.toVector (Nat.zero_le _)
  rw [rollUpInPlace?, ← fillFrom_cast hsize, hcast, hleft, rollUpInPlace?, rollUpInPlace?]
  rcases fillFrom 0 a.toArray.toVector with - | v
  · rfl
  · have hright := fillFrom_append_right v b.toArray.toVector 0
    rw [Nat.add_zero] at hright
    rw [Option.bind_some, hright]
    simp [Function.comp_def]

end InPlace

/-! ### Charts -/

/-- The percentages of a chart are rolled up from the given projects. -/
theorem map_percentage_compileProjects (baseUrl : String) (projects : List Project) :
    (compileProjects baseUrl projects).map (·.percentage) =
      (rollUp projects).map (·.percentage) := by
  have hbare : ∀ l : List Project, (l.map bare).map (·.percentage) = l.map (·.percentage) := by
    intro l
    simp [bare, Function.comp_def]
  have hlink : ∀ l : List Project,
      (l.map (linkedProject baseUrl)).map (·.percentage) = l.map (·.percentage) := by
    intro l
    simp [linkedProject, Function.comp_def]
  rw [compileProjects, hlink, ← hbare, ← rollUp_map keepsProgress_bare, map_bare_assignColors,
    map_bare_inferDates, rollUp_map keepsProgress_bare, hbare]

/-- What the other projects decide about a project: its dates and its
percentage. -/
def timings (projects : List Project) : List (Option Span × UInt8) :=
  projects.map fun p => (p.dates, p.percentage)

/-- The timings in the chart of a roadmap that has the given projects. -/
def chartTimings (r : Roadmap) (projects : List Project) : List (Option Span × UInt8) :=
  timings { r with projects }.chart.projects

theorem chartTimings_eq_zip (r : Roadmap) (projects : List Project) :
    chartTimings r projects =
      ((inferDates projects).map (·.dates)).zip ((rollUp projects).map (·.percentage)) := by
  rw [← map_dates_compileProjects r.baseUrl, ← map_percentage_compileProjects r.baseUrl,
    List.zip_map']
  rfl

theorem length_chartTimings (r : Roadmap) (projects : List Project) :
    (chartTimings r projects).length = projects.length := by
  simp [chartTimings_eq_zip, inferDates]

theorem chartTimings_append (r : Roadmap) (h : StartsWithEpic b) (a : List Project) :
    chartTimings r (a ++ b) = chartTimings r a ++ chartTimings r b := by
  have hlength : ((inferDates a).map (·.dates)).length =
      ((rollUp a).map (·.percentage)).length := by
    simp [inferDates]
  simp only [chartTimings_eq_zip, inferDates_append h, rollUp_append h, List.map_append,
    List.zip_append hlength]

/-- **Charts are made epic by epic**: where an epic begins, the timings of a
chart are those of the projects before it and those of the projects from
there on, each compiled alone; and rolling up in place, in words of 32 bits,
gives the one list and the other.  So if the projects of an epic are replaced
by others, the timings before and behind them stay. -/
theorem chart_epics_apart (r : Roadmap) {epic epic' after : List Project}
    (hepic : StartsWithEpic epic) (hepic' : StartsWithEpic epic') (hafter : StartsWithEpic after)
    (before : List Project) :
    chartTimings r (before ++ after) = chartTimings r before ++ chartTimings r after ∧
      (rollUpInPlace? (before ++ after) =
        (rollUpInPlace? before).bind fun x => (rollUpInPlace? after).map (x ++ ·)) ∧
      ((chartTimings r (before ++ epic ++ after)).take before.length =
          (chartTimings r (before ++ epic' ++ after)).take before.length ∧
        (chartTimings r (before ++ epic ++ after)).drop (before.length + epic.length) =
          (chartTimings r (before ++ epic' ++ after)).drop (before.length + epic'.length)) := by
  have hsplit : ∀ l, StartsWithEpic l → chartTimings r (before ++ l ++ after) =
      chartTimings r before ++ chartTimings r l ++ chartTimings r after := by
    intro l hl
    rw [chartTimings_append r hafter, chartTimings_append r hl]
  have hlength : ∀ l, (chartTimings r before ++ chartTimings r l).length =
      before.length + l.length := by
    intro l
    rw [List.length_append, length_chartTimings, length_chartTimings]
  have hbefore := length_chartTimings r before
  refine ⟨chartTimings_append r hafter before, rollUpInPlace?_append hafter before, ?_, ?_⟩
  · rw [hsplit _ hepic, hsplit _ hepic', List.append_assoc, List.append_assoc,
      List.take_left' hbefore, List.take_left' hbefore]
  · rw [hsplit _ hepic, hsplit _ hepic', List.drop_left' (hlength epic),
      List.drop_left' (hlength epic')]

/-- Two projects that no epic holds, the second one far below the first. -/
def loose : List Project :=
  [{ indentation := 2, title := "A" },
   { indentation := 5, title := "B", dates := some ⟨.startOf ⟨2022, 3, 1, by decide⟩,
      .startOf ⟨2022, 4, 1, by decide⟩⟩ }]

/-- An epic with a jump of two levels below its child. -/
def deep : List Project :=
  [{ indentation := 0, title := "C" }, { indentation := 1, title := "D" },
   { indentation := 3, title := "E", percentage := 90, dates := some
      ⟨.startOf ⟨2021, 1, 1, by decide⟩, .startOf ⟨2023, 1, 1, by decide⟩⟩ }]

/-- An epic without dates. -/
def undated : List Project :=
  [{ indentation := 0, title := "F" }, { indentation := 1, title := "G", percentage := 25 },
   { indentation := 1, title := "H" }]

theorem chart_epics_apart_loose :
    let r : Roadmap := .empty "Plan" .standard "" (.startOf ⟨2026, 1, 1, by decide⟩)
    (StartsWithEpic deep ∧ StartsWithEpic [] ∧ StartsWithEpic undated) ∧
      (chartTimings r (loose ++ deep ++ undated)).drop (2 + 3) =
        (chartTimings r (loose ++ [] ++ undated)).drop (2 + 0) ∧
      (chartTimings r (loose ++ [] ++ undated)).drop 2 = [(none, 12), (none, 25), (none, 0)] := by
  intro r
  have hdeep : StartsWithEpic deep := by simp [StartsWithEpic, deep, Project.isEpic]
  have hnil : StartsWithEpic [] := by simp [StartsWithEpic]
  have hundated : StartsWithEpic undated := by simp [StartsWithEpic, undated, Project.isEpic]
  exact ⟨⟨hdeep, hnil, hundated⟩, (chart_epics_apart r hdeep hnil hundated loose).2.2.2,
    by decide +kernel⟩

end TextRoadmap.Chart
