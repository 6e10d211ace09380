/-
TextRoadmap/Proofs/Chart/Dates.lean

What the two passes of `inferDates` compute.

Both passes change the list while they go through it.  The first one only
reads projects that it has not reached yet, so it gives every project the
hull of the dates *given* to its descendants.  The second one reads dates
that it has filled in itself; since the dates of an ancestor have been
settled before, all of it comes down to one equation
(`datesAt_inferDates_of_isParent`):

    final dates of i  =  dates of i after the first pass, or else
                         the final dates of the parent of i

Everything about ancestors follows from this equation by induction on the
position.  `chart_dates` collects the result as the rule `DatesRule`, which
mentions neither of the passes.
-/
import TextRoadmap.Proofs.Chart.Descendants
import TextRoadmap.Proofs.Chart.Gaps
import TextRoadmap.Proofs.Roadmap.Span

namespace TextRoadmap.Chart

variable {projects : List Project} {p q : Project} {a i j : Nat}

/-! ### The rule -/

/-- The dates of the project at a position. -/
def datesAt (projects : List Project) (i : Nat) : Option Span :=
  projects[i]?.bind (·.dates)

/-- The dates of the dated descendants of a project. -/
def datesBelow (projects : List Project) (i : Nat) : Set Span :=
  {s | ∃ j, IsDescendant projects i j ∧ datesAt projects j = some s}

/-- A project from which others can take dates: it has dates of its own or a
dated descendant. -/
def IsSource (projects : List Project) (i : Nat) : Prop :=
  (datesAt projects i).isSome ∨ (datesBelow projects i).Nonempty

/-- The nearest ancestor that is a source. -/
def IsNearestSource (projects : List Project) (a i : Nat) : Prop :=
  (IsDescendant projects a i ∧ IsSource projects a) ∧
    ∀ b, IsDescendant projects b i → IsSource projects b → b ≤ a

/-- How the dates of the project at position `i` of a compiled list follow
from the given ones. -/
structure DatesRule (given compiled : List Project) (i : Nat) : Prop where
  own : ∀ s, datesAt given i = some s → datesAt compiled i = some s
  fromBelow : datesAt given i = none → (datesBelow given i).Nonempty →
    ∃ s, datesAt compiled i = some s ∧ Span.IsHull (datesBelow given i) s
  fromAbove : ¬ IsSource given i → ∀ a, IsNearestSource given a i →
    datesAt compiled i = datesAt compiled a
  undated : ¬ IsSource given i → (¬ ∃ a, IsNearestSource given a i) → datesAt compiled i = none
  root : ∃! t, IsRoot given t i
  undated_iff : ∀ t, IsRoot given t i → (datesAt compiled i = none ↔
    ∀ j, (j = t ∨ IsDescendant given t j) → datesAt given j = none)

/-! ### Positions -/

theorem datesAt_of_getElem? (h : projects[i]? = some p) : datesAt projects i = p.dates := by
  simp [datesAt, h]

theorem datesAt_of_length_le (h : projects.length ≤ i) : datesAt projects i = none := by
  simp [datesAt, List.getElem?_eq_none h]

/-- What stands before the first item that fails a test. -/
theorem mem_takeWhile_iff {α : Type} {f : α → Bool} {l : List α} {x : α} :
    x ∈ l.takeWhile f ↔
      ∃ n : Nat, l[n]? = some x ∧ ∀ k ≤ n, ∃ y, l[k]? = some y ∧ f y = true := by
  induction l with
  | nil => simp
  | cons y l ih =>
    -- a first entry that fails stops at position 0, any other shifts the positions by one
    cases hy : f y with
    | false =>
      simp only [List.takeWhile_cons, hy, Bool.false_eq_true, if_false, List.not_mem_nil, false_iff]
      rintro ⟨n, -, hall⟩
      obtain ⟨z, hz, hfz⟩ := hall 0 n.zero_le
      obtain rfl : y = z := by simpa using hz
      simp [hy] at hfz
    | true =>
      simp only [List.takeWhile_cons, hy, if_true, List.mem_cons, ih]
      constructor
      · rintro (rfl | ⟨n, hn, hall⟩)
        · exact ⟨0, rfl, fun k hk => ⟨x, by simp [Nat.le_zero.1 hk], hy⟩⟩
        · refine ⟨n + 1, by simpa using hn, fun k hk => ?_⟩
          cases k with
          | zero => exact ⟨y, rfl, hy⟩
          | succ k => simpa using hall k (Nat.le_of_succ_le_succ hk)
      · rintro ⟨n, hn, hall⟩
        cases n with
        | zero => exact Or.inl (by simpa using hn.symm)
        | succ n =>
          refine Or.inr ⟨n, by simpa using hn, fun k hk => ?_⟩
          simpa using hall (k + 1) (Nat.succ_le_succ hk)

/-- The projects below a project are its descendants. -/
theorem mem_below_iff (hp : projects[i]? = some p) :
    q ∈ below p.indentation (projects.drop (i + 1)) ↔
      ∃ j, IsDescendant projects i j ∧ projects[j]? = some q := by
  rw [below, mem_takeWhile_iff]
  simp only [List.getElem?_drop, decide_eq_true_eq]
  constructor
  · rintro ⟨n, hn, hall⟩
    refine ⟨i + 1 + n, ⟨by omega, p, hp, fun k hik hkj => ?_⟩, hn⟩
    have := hall (k - (i + 1)) (by omega)
    rwa [show i + 1 + (k - (i + 1)) = k by omega] at this
  · rintro ⟨j, ⟨hij, p', hp', hall⟩, hq⟩
    obtain rfl := Option.some.inj (hp.symm.trans hp')
    refine ⟨j - (i + 1), by rwa [show i + 1 + (j - (i + 1)) = j by omega], fun k hk => ?_⟩
    exact hall (i + 1 + k) (by omega) (by omega)

/-! ### The pass from below -/

theorem getElem?_datesFromBelow (projects : List Project) (i : Nat) :
    (datesFromBelow projects)[i]? =
      projects[i]?.map fun p => datedFromBelow p (projects.drop (i + 1)) := by
  induction projects generalizing i with
  | nil => rfl
  | cons p rest ih =>
    cases i with
    | zero => rfl
    | succ i => simpa [datesFromBelow] using ih i

/-- The span of the dated projects below a project is the hull of the dates
below it. -/
theorem isHull_of_spanOf? {s : Span} (hp : projects[i]? = some p)
    (h : spanOf? (below p.indentation (projects.drop (i + 1))) = some s) :
    Span.IsHull (datesBelow projects i) s := by
  have hset : {t | t ∈ (below p.indentation (projects.drop (i + 1))).filterMap (·.dates)} =
      datesBelow projects i := by
    ext t
    simp only [Set.mem_ofPred_eq, List.mem_filterMap, mem_below_iff hp, datesBelow]
    constructor
    · rintro ⟨q, ⟨j, hj, hq⟩, ht⟩
      exact ⟨j, hj, (datesAt_of_getElem? hq).trans ht⟩
    · rintro ⟨j, hj, ht⟩
      obtain ⟨q, hq, hqt⟩ := Option.bind_eq_some_iff.1 ht
      exact ⟨q, ⟨j, hj, hq⟩, hqt⟩
  rw [← hset]
  exact Span.isHull_of_cover? h

/-- Without dates below a project there is no span. -/
theorem spanOf?_eq_none_iff (hp : projects[i]? = some p) :
    spanOf? (below p.indentation (projects.drop (i + 1))) = none ↔
      ¬ (datesBelow projects i).Nonempty := by
  simp only [spanOf?, Span.cover?_eq_none_iff, List.filterMap_eq_nil_iff, mem_below_iff hp]
  constructor
  · rintro h ⟨s, j, hj, hs⟩
    obtain ⟨q, hq, hqs⟩ := Option.bind_eq_some_iff.1 hs
    simp [h q ⟨j, hj, hq⟩] at hqs
  · rintro h q ⟨j, hj, hq⟩
    by_contra hne
    obtain ⟨s, hs⟩ := Option.ne_none_iff_exists'.1 hne
    exact h ⟨s, j, hj, (datesAt_of_getElem? hq).trans hs⟩

/-- After the first pass the projects with dates are the sources. -/
theorem datesAt_datesFromBelow_eq_none_iff :
    datesAt (datesFromBelow projects) i = none ↔ ¬ IsSource projects i := by
  rcases hp : projects[i]? with - | p
  · have hlen : projects.length ≤ i := List.getElem?_eq_none_iff.1 hp
    have hlen' : (datesFromBelow projects).length ≤ i := by simpa using hlen
    simp only [IsSource, datesAt_of_length_le hlen, datesAt_of_length_le hlen', Option.isSome_none,
      Bool.false_eq_true, false_or, true_iff]
    rintro ⟨s, j, hj, -⟩
    exact absurd (hj.lt.trans hj.lt_length) (by omega)
  · have hget := getElem?_datesFromBelow projects i
    rw [hp, Option.map_some] at hget
    rw [datesAt_of_getElem? hget, IsSource, datesAt_of_getElem? hp, datedFromBelow, not_or]
    rw [← spanOf?_eq_none_iff hp]
    cases p.dates <;> simp

/-! ### The pass from above -/

theorem getElem?_datesFromAbove (preceding projects : List Project) (i : Nat) :
    (datesFromAbove preceding projects)[i]? =
      projects[i]?.map
        (datedFromAbove (((datesFromAbove preceding projects).take i).reverse ++ preceding)) := by
  induction projects generalizing preceding i with
  | nil => rfl
  | cons p rest ih =>
    cases i with
    | zero => rfl
    | succ i => simpa [datesFromAbove] using ih (datedFromAbove preceding p :: preceding) i

/-- The search for dates passes over projects that are not indented less. -/
theorem datesAbove?_take_of_le {indentation : UInt8} {k : Nat} (hki : k ≤ i)
    (hall : ∀ j, k ≤ j → j < i → ∀ q, projects[j]? = some q → ¬ q.indentation < indentation) :
    datesAbove? indentation (projects.take i).reverse =
      datesAbove? indentation (projects.take k).reverse := by
  induction i, hki using Nat.le_induction with
  | base => rfl
  | succ i hki ih =>
    have ih := ih fun j hkj hji => hall j hkj (Nat.lt_succ_of_lt hji)
    rw [List.take_add_one]
    rcases hq : projects[i]? with - | q
    · simpa using ih
    · have hnot := hall i hki i.lt_succ_self q hq
      simpa [datesAbove?, hnot] using ih

/-- Where no ancestor stands, no project is indented less: the last one that
is would be an ancestor. -/
theorem not_indentation_lt {k : Nat} (hp : projects[i]? = some p)
    (h : ∀ j, k ≤ j → j < i → ¬ IsDescendant projects j i) :
    ∀ j, k ≤ j → j < i → ∀ q, projects[j]? = some q → ¬ q.indentation < p.indentation := by
  intro j hkj hji
  induction hd : i - j using Nat.strong_induction_on generalizing j with
  | _ d ih =>
    intro q hq hlt
    refine h j hkj hji ⟨hji, q, hq, fun m hjm hmi => ?_⟩
    rcases hmi.lt_or_eq with hmi | rfl
    · obtain ⟨r, hr⟩ : ∃ r, projects[m]? = some r :=
        ⟨_, List.getElem?_eq_getElem (hmi.trans (List.getElem?_eq_some_iff.1 hp).1)⟩
      have hnot := ih (i - m) (by omega) m (by omega) hmi rfl r hr
      exact ⟨r, hr, UInt8.lt_of_lt_of_le hlt (UInt8.not_lt.1 hnot)⟩
    · exact ⟨p, hp, hlt⟩

/-- Without an ancestor nothing is found. -/
theorem datesAbove?_of_no_ancestor (hp : projects[i]? = some p)
    (h : ∀ a, ¬ IsDescendant projects a i) :
    datesAbove? p.indentation (projects.take i).reverse = none := by
  rw [datesAbove?_take_of_le i.zero_le (not_indentation_lt hp fun j _ _ => h j)]
  rfl

/-- The search finds the dates of the parent, or goes on from there. -/
theorem datesAbove?_of_isParent (hp : projects[i]? = some p) (ha : IsParent projects a i)
    (hq : projects[a]? = some q) :
    datesAbove? p.indentation (projects.take i).reverse =
      (q.dates <|> datesAbove? q.indentation (projects.take a).reverse) := by
  obtain ⟨⟨hai, q', hq', hall⟩, hmax⟩ := ha
  obtain rfl := Option.some.inj (hq.symm.trans hq')
  obtain ⟨p', hp', hqp⟩ := hall i hai le_rfl
  obtain rfl := Option.some.inj (hp.symm.trans hp')
  have hnone : ∀ j, a + 1 ≤ j → j < i → ¬ IsDescendant projects j i := by
    intro j haj _ hj
    exact absurd (hmax j hj) (by omega)
  rw [datesAbove?_take_of_le hai (not_indentation_lt hp hnone), List.take_add_one, hq]
  simp [datesAbove?, hqp]

/-! ### Both passes -/

theorem map_indentation_inferDates (projects : List Project) :
    (inferDates projects).map (·.indentation) = projects.map (·.indentation) :=
  map_eq_map_of_forall₂ (forall₂_inferDates projects) fun _ _ h => h.indentation

/-- The second pass leaves a project as it is that has dates by then; the
others get what the search in the finished list finds. -/
theorem datesAt_inferDates (hp : (inferDates projects)[i]? = some p) :
    datesAt (inferDates projects) i =
      (datesAt (datesFromBelow projects) i <|>
        datesAbove? p.indentation ((inferDates projects).take i).reverse) := by
  have hget := getElem?_datesFromAbove [] (datesFromBelow projects) i
  rw [← inferDates, hp, List.append_nil] at hget
  obtain ⟨q, hq, rfl⟩ := Option.map_eq_some_iff.1 hget.symm
  rw [datesAt_of_getElem? hp, datesAt_of_getElem? hq]
  rfl

/-- Without an ancestor the second pass changes nothing. -/
theorem datesAt_inferDates_of_no_ancestor (h : ∀ a, ¬ IsDescendant projects a i) :
    datesAt (inferDates projects) i = datesAt (datesFromBelow projects) i := by
  rcases hp : (inferDates projects)[i]? with - | p
  · have hlen : (inferDates projects).length ≤ i := List.getElem?_eq_none_iff.1 hp
    rw [datesAt_of_length_le hlen, datesAt_of_length_le (by simpa [inferDates] using hlen)]
  · have hnone := datesAbove?_of_no_ancestor hp fun a ha =>
      h a ((isDescendant_congr (map_indentation_inferDates projects)).1 ha)
    rw [datesAt_inferDates hp, hnone]
    simp

/-- The equation that settles the second pass. -/
theorem datesAt_inferDates_of_isParent (ha : IsParent projects a i) :
    datesAt (inferDates projects) i =
      (datesAt (datesFromBelow projects) i <|> datesAt (inferDates projects) a) := by
  have hcongr := fun b i => isDescendant_congr (i := b) (j := i)
    (map_indentation_inferDates projects)
  have ha' : IsParent (inferDates projects) a i :=
    ⟨(hcongr a i).2 ha.1, fun b hb => ha.2 b ((hcongr b i).1 hb)⟩
  obtain ⟨p, hp⟩ : ∃ p, (inferDates projects)[i]? = some p :=
    ⟨_, List.getElem?_eq_getElem ha'.1.lt_length⟩
  obtain ⟨q, hq⟩ : ∃ q, (inferDates projects)[a]? = some q :=
    ⟨_, List.getElem?_eq_getElem (ha'.1.lt.trans ha'.1.lt_length)⟩
  rw [datesAt_inferDates hp, datesAbove?_of_isParent hp ha' hq]
  -- what lies above the parent has been looked up for the parent already
  have hself := datesAt_inferDates hq
  rw [datesAt_of_getElem? hq] at hself ⊢
  rcases hd : q.dates with - | s
  · rw [hd] at hself
    rcases hm : datesAt (datesFromBelow projects) a with - | t
    · have hnone : datesAbove? q.indentation ((inferDates projects).take a).reverse = none := by
        simpa [hm] using hself.symm
      rw [hnone]
      rfl
    · simp [hm] at hself
  · rfl

/-! ### Ancestors -/

theorem datesAt_inferDates_of_isSource (h : IsSource projects i) :
    datesAt (inferDates projects) i = datesAt (datesFromBelow projects) i := by
  have hne : datesAt (datesFromBelow projects) i ≠ none :=
    fun hnone => datesAt_datesFromBelow_eq_none_iff.1 hnone h
  obtain ⟨s, hs⟩ := Option.ne_none_iff_exists'.1 hne
  by_cases ha : ∃ a, IsDescendant projects a i
  · obtain ⟨a, ha⟩ := ha
    obtain ⟨b, hb⟩ := exists_isParent ha
    rw [datesAt_inferDates_of_isParent hb, hs]
    rfl
  · exact datesAt_inferDates_of_no_ancestor fun a h => ha ⟨a, h⟩

/-- A project that is no source has the final dates of its parent. -/
theorem datesAt_inferDates_eq_parent (h : ¬ IsSource projects i) (ha : IsParent projects a i) :
    datesAt (inferDates projects) i = datesAt (inferDates projects) a := by
  rw [datesAt_inferDates_of_isParent ha, datesAt_datesFromBelow_eq_none_iff.2 h]
  rfl

/-- Dates come down from the nearest source. -/
theorem datesAt_inferDates_of_isNearestSource (h : ¬ IsSource projects i)
    (ha : IsNearestSource projects a i) :
    datesAt (inferDates projects) i = datesAt (inferDates projects) a := by
  induction i using Nat.strong_induction_on with
  | _ i ih =>
    obtain ⟨⟨hai, hsource⟩, hmax⟩ := ha
    obtain ⟨b, hb⟩ := exists_isParent hai
    rw [datesAt_inferDates_eq_parent h hb]
    rcases (hb.2 a hai).lt_or_eq with hab | rfl
    · -- the parent is no source either, so the nearest source is the same for it
      have hbsource : ¬ IsSource projects b := fun hbs => absurd (hmax b hb.1 hbs) (by omega)
      exact ih b hb.1.lt hbsource
        ⟨⟨hai.of_lt hb.1 hab, hsource⟩, fun c hc => hmax c (hc.trans hb.1)⟩
    · rfl

/-- Without a source above there are no dates. -/
theorem datesAt_inferDates_eq_none (h : ¬ IsSource projects i)
    (ha : ∀ a, IsDescendant projects a i → ¬ IsSource projects a) :
    datesAt (inferDates projects) i = none := by
  induction i using Nat.strong_induction_on with
  | _ i ih =>
    by_cases hex : ∃ a, IsDescendant projects a i
    · obtain ⟨a, hai⟩ := hex
      obtain ⟨b, hb⟩ := exists_isParent hai
      rw [datesAt_inferDates_eq_parent h hb]
      exact ih b hb.1.lt (ha b hb.1) fun c hc => ha c (hc.trans hb.1)
    · rw [datesAt_inferDates_of_no_ancestor fun a h => hex ⟨a, h⟩]
      exact datesAt_datesFromBelow_eq_none_iff.2 h

/-- A project stays undated exactly if it is no source and has none above. -/
theorem datesAt_inferDates_eq_none_iff :
    datesAt (inferDates projects) i = none ↔
      ¬ IsSource projects i ∧ ∀ a, IsDescendant projects a i → ¬ IsSource projects a := by
  have hdated : ∀ {k}, IsSource projects k → datesAt (inferDates projects) k ≠ none := by
    intro k hk hnone
    rw [datesAt_inferDates_of_isSource hk] at hnone
    exact datesAt_datesFromBelow_eq_none_iff.1 hnone hk
  refine ⟨fun h => ?_, fun h => datesAt_inferDates_eq_none h.1 h.2⟩
  have hi : ¬ IsSource projects i := fun hs => hdated hs h
  refine ⟨hi, fun a hai hs => ?_⟩
  obtain ⟨b, hb, hmax⟩ := exists_nearest hai hs
  rw [datesAt_inferDates_of_isNearestSource hi ⟨hb, hmax⟩] at h
  exact hdated hb.2 h

/-- In a tree without dates nothing is a source, and conversely. -/
theorem tree_undated_iff {t : Nat} (ht : IsRoot projects t i) :
    (∀ j, (j = t ∨ IsDescendant projects t j) → datesAt projects j = none) ↔
      ¬ IsSource projects i ∧ ∀ a, IsDescendant projects a i → ¬ IsSource projects a := by
  constructor
  · intro h
    -- whatever is a source in the tree has dates in the tree
    have hnot : ∀ a, (a = t ∨ IsDescendant projects t a) → ¬ IsSource projects a := by
      rintro a ha (hdated | ⟨s, j, hj, hs⟩)
      · simp [h a ha] at hdated
      · have hjt : IsDescendant projects t j := by
          rcases ha with rfl | ha
          exacts [hj, ha.trans hj]
        simp [h j (Or.inr hjt)] at hs
    exact ⟨hnot i (ht.1.imp Eq.symm id), fun a ha => hnot a (ht.le_of_isDescendant ha)⟩
  · rintro ⟨hi, hall⟩ j hj
    have htop : ¬ IsSource projects t := by
      rcases ht.1 with rfl | hti
      exacts [hi, hall t hti]
    rcases hj with rfl | hj
    · by_contra hne
      exact htop (Or.inl (Option.isSome_iff_ne_none.2 hne))
    · by_contra hne
      obtain ⟨s, hs⟩ := Option.ne_none_iff_exists'.1 hne
      exact htop (Or.inr ⟨s, j, hj, hs⟩)

/-! ### The other passes -/

theorem map_dates_colorFrom (place : Place) (projects : List Project) :
    (colorFrom place projects).map (·.dates) = projects.map (·.dates) := by
  induction projects generalizing place with
  | nil => rfl
  | cons p rest ih => simp [colorFrom, ih]

theorem map_dates_rollUp (projects : List Project) :
    (rollUp projects).map (·.dates) = projects.map (·.dates) := by
  induction projects with
  | nil => rfl
  | cons p rest ih =>
    have hp : (rolledUp p (rollUp rest)).dates = p.dates := by
      unfold rolledUp
      split <;> rfl
    simp [rollUp, ih, hp]

/-- The passes after the second one leave the dates alone. -/
theorem map_dates_compileProjects (baseUrl : String) (projects : List Project) :
    (compileProjects baseUrl projects).map (·.dates) = (inferDates projects).map (·.dates) := by
  have hlink : ∀ l : List Project,
      (l.map (linkedProject baseUrl)).map (·.dates) = l.map (·.dates) := by
    intro l
    simp [linkedProject, Function.comp_def]
  rw [compileProjects, hlink, map_dates_rollUp, assignColors, map_dates_colorFrom]

theorem datesAt_eq_map_dates (projects : List Project) (i : Nat) :
    datesAt projects i = ((projects.map (·.dates))[i]?).join := by
  rw [List.getElem?_map, datesAt]
  cases projects[i]? <;> rfl

theorem datesAt_compileProjects (baseUrl : String) (projects : List Project) (i : Nat) :
    datesAt (compileProjects baseUrl projects) i = datesAt (inferDates projects) i := by
  rw [datesAt_eq_map_dates, map_dates_compileProjects, ← datesAt_eq_map_dates]

/-! ### The theorem -/

/-- Inferring dates follows the rule at every position. -/
theorem datesRule_compileProjects (baseUrl : String) (projects : List Project) (i : Nat) :
    DatesRule projects (compileProjects baseUrl projects) i where
  own s hs := by
    have hsource : IsSource projects i := Or.inl (by simp [hs])
    obtain ⟨p, hp, hps⟩ := Option.bind_eq_some_iff.1 hs
    have hget := getElem?_datesFromBelow projects i
    rw [hp, Option.map_some] at hget
    rw [datesAt_compileProjects, datesAt_inferDates_of_isSource hsource, datesAt_of_getElem? hget,
      datedFromBelow, hps]
    rfl
  fromBelow hnone hbelow := by
    -- the first pass has already found the dates that the second one keeps
    have hsource : IsSource projects i := Or.inr hbelow
    obtain ⟨s, j, hj, hs⟩ := hbelow
    obtain ⟨-, p, hp, -⟩ := id hj
    have hpnone : p.dates = none := (datesAt_of_getElem? hp).symm.trans hnone
    have hget := getElem?_datesFromBelow projects i
    rw [hp, Option.map_some] at hget
    have hne : spanOf? (below p.indentation (projects.drop (i + 1))) ≠ none :=
      fun h => (spanOf?_eq_none_iff hp).1 h ⟨s, j, hj, hs⟩
    obtain ⟨t, ht⟩ := Option.ne_none_iff_exists'.1 hne
    refine ⟨t, ?_, isHull_of_spanOf? hp ht⟩
    rw [datesAt_compileProjects, datesAt_inferDates_of_isSource hsource, datesAt_of_getElem? hget,
      datedFromBelow, hpnone, ht]
    rfl
  fromAbove hi a ha := by
    rw [datesAt_compileProjects, datesAt_compileProjects]
    exact datesAt_inferDates_of_isNearestSource hi ha
  undated hi hnone := by
    rw [datesAt_compileProjects]
    refine datesAt_inferDates_eq_none hi fun a ha hs => ?_
    obtain ⟨b, hb, hmax⟩ := exists_nearest ha hs
    exact hnone ⟨b, hb, hmax⟩
  root := existsUnique_isRoot projects i
  undated_iff t ht := by
    rw [datesAt_compileProjects, datesAt_inferDates_eq_none_iff, tree_undated_iff ht]

/-- **Dates of a chart**: the chart has the projects of the roadmap, and their
dates follow from the given ones by `DatesRule`, whatever the indentations. -/
theorem chart_dates (r : Roadmap) :
    r.chart.projects.length = r.projects.length ∧
      ∀ i, DatesRule r.projects r.chart.projects i := by
  refine ⟨?_, fun i => datesRule_compileProjects r.baseUrl r.projects i⟩
  have hlen := congrArg List.length (map_dates_compileProjects r.baseUrl r.projects)
  show (compileProjects r.baseUrl r.projects).length = r.projects.length
  simpa [inferDates] using hlen

end TextRoadmap.Chart
