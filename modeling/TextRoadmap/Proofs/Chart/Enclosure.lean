/-
TextRoadmap/Proofs/Chart/Enclosure.lean

Inferred dates enclose the tree below a project.

A project without dates of its own gets them from below or from above.  From
below they are the hull of all dates given there, and whatever a descendant
ends up with lies in it: its own dates, the hull of some of the same dates,
or dates that come down from a project in between, or from the project
itself.  Dates come from above only if none are given below, and then the
descendants take them from the same ancestor.

None of this looks at which end of a span comes first, so it holds for dates
that run backwards too (`inferDates_encloses`).
-/
import TextRoadmap.Proofs.Chart.Dates

namespace TextRoadmap

/-! ### Spans in spans -/

namespace Span

variable {S T : Set Span} {s t : Span}

/-- `t` neither starts before `s` nor ends after it. -/
def Encloses (s t : Span) : Prop := s.startAt ≤ t.startAt ∧ t.endAt ≤ s.endAt

instance : Decidable (s.Encloses t) := inferInstanceAs (Decidable (_ ∧ _))

theorem Encloses.refl (s : Span) : s.Encloses s := ⟨le_refl _, le_refl _⟩

/-- The hull of some spans encloses the hull of fewer. -/
theorem IsHull.encloses (hs : IsHull S s) (ht : IsHull T t) (hTS : T ⊆ S) : s.Encloses t := by
  obtain ⟨u, hu, hstart⟩ := ht.start_least.1
  obtain ⟨v, hv, hend⟩ := ht.end_greatest.1
  exact ⟨hstart ▸ hs.start_le (hTS hu), hend ▸ hs.end_le (hTS hv)⟩

end Span

namespace Chart

variable {projects : List Project} {a i j : Nat} {s t : Span}

/-! ### Dates from below -/

theorem datesBelow_subset_of_isDescendant (hij : IsDescendant projects i j) :
    datesBelow projects j ⊆ datesBelow projects i := by
  rintro s ⟨k, hk, hs⟩
  exact ⟨k, hij.trans hk, hs⟩

/-- Where a source lies below, dates are given below. -/
theorem IsSource.datesBelow_nonempty (hj : IsSource projects j) (hij : IsDescendant projects i j) :
    (datesBelow projects i).Nonempty := by
  rcases hj with hj | hj
  · obtain ⟨s, hs⟩ := Option.isSome_iff_exists.1 hj
    exact ⟨s, j, hij, hs⟩
  · exact hj.mono (datesBelow_subset_of_isDescendant hij)

/-- The final dates of a source: its own, or the hull of those below. -/
theorem exists_isHull_inferDates (hi : IsSource projects i) :
    ∃ s, datesAt (inferDates projects) i = some s ∧
      (datesAt projects i = some s ∨
        datesAt projects i = none ∧ Span.IsHull (datesBelow projects i) s) := by
  have hrule := datesRule_compileProjects "" projects i
  rcases hown : datesAt projects i with - | s
  · have hbelow : (datesBelow projects i).Nonempty := by
      rcases hi with hi | hi
      · simp [hown] at hi
      · exact hi
    obtain ⟨s, hs, hhull⟩ := hrule.fromBelow hown hbelow
    rw [datesAt_compileProjects] at hs
    exact ⟨s, hs, .inr ⟨rfl, hhull⟩⟩
  · have hs := hrule.own s hown
    rw [datesAt_compileProjects] at hs
    exact ⟨s, hs, .inl rfl⟩

/-- A source below a project ends up with the hull of dates that are given
below the project. -/
theorem exists_isHull_of_isDescendant (hij : IsDescendant projects i j)
    (hj : IsSource projects j) :
    ∃ t, datesAt (inferDates projects) j = some t ∧
      ∃ T ⊆ datesBelow projects i, Span.IsHull T t := by
  obtain ⟨t, ht, hown | ⟨-, hhull⟩⟩ := exists_isHull_inferDates hj
  · refine ⟨t, ht, {t}, ?_, Span.isHull_singleton t⟩
    rintro u rfl
    exact ⟨j, hij, hown⟩
  · exact ⟨t, ht, _, datesBelow_subset_of_isDescendant hij, hhull⟩

/-- Dates from below enclose the tree that they come from. -/
theorem encloses_of_datesBelow_nonempty (hown : datesAt projects i = none)
    (hbelow : (datesBelow projects i).Nonempty)
    (hs : datesAt (inferDates projects) i = some s) (hij : IsDescendant projects i j) :
    ∃ t, datesAt (inferDates projects) j = some t ∧ s.Encloses t := by
  have hi : IsSource projects i := .inr hbelow
  obtain ⟨s', hs', hown' | ⟨-, hhull⟩⟩ := exists_isHull_inferDates hi
  · rw [hown] at hown'
    cases hown'
  obtain rfl : s = s' := Option.some.inj (hs.symm.trans hs')
  -- all that a source below ends up with is a hull of dates from below
  have hsource : ∀ k, IsDescendant projects i k → IsSource projects k →
      ∃ t, datesAt (inferDates projects) k = some t ∧ s.Encloses t := by
    intro k hik hk
    obtain ⟨t, ht, T, hT, hhull'⟩ := exists_isHull_of_isDescendant hik hk
    exact ⟨t, ht, hhull.encloses hhull' hT⟩
  by_cases hj : IsSource projects j
  · exact hsource j hij hj
  · -- the nearest source above is the project itself or stands between
    obtain ⟨b, hb, hmax⟩ := exists_nearest hij hi
    rw [datesAt_inferDates_of_isNearestSource hj ⟨hb, hmax⟩]
    rcases (hmax i hij hi).eq_or_lt with rfl | hlt
    · exact ⟨s, hs, Span.Encloses.refl s⟩
    · exact hsource b (hij.of_lt hb.1 hlt) hb.2

/-! ### Dates from above -/

/-- A descendant with no source in between has the same nearest source. -/
theorem IsNearestSource.of_isDescendant (ha : IsNearestSource projects a i)
    (hbelow : ¬ (datesBelow projects i).Nonempty) (hi : ¬ IsSource projects i)
    (hij : IsDescendant projects i j) : IsNearestSource projects a j := by
  refine ⟨⟨ha.1.1.trans hij, ha.1.2⟩, fun b hb hsource => ?_⟩
  rcases Nat.lt_trichotomy b i with hlt | rfl | hlt
  · exact ha.2 b (hb.of_lt hij hlt) hsource
  · exact absurd hsource hi
  · exact absurd (hsource.datesBelow_nonempty (hij.of_lt hb hlt)) hbelow

/-- Where dates come from above, the tree below has the same ones. -/
theorem datesAt_inferDates_of_not_isSource (hi : ¬ IsSource projects i)
    (hs : datesAt (inferDates projects) i = some s) (hij : IsDescendant projects i j) :
    datesAt (inferDates projects) j = some s := by
  have hbelow : ¬ (datesBelow projects i).Nonempty := fun h => hi (.inr h)
  have hj : ¬ IsSource projects j := fun h => hbelow (h.datesBelow_nonempty hij)
  have hdated : ∃ a, IsDescendant projects a i ∧ IsSource projects a := by
    by_contra hnone
    rw [datesAt_inferDates_eq_none hi fun a ha hsource => hnone ⟨a, ha, hsource⟩] at hs
    cases hs
  obtain ⟨a, ha, hsource⟩ := hdated
  obtain ⟨b, hb, hmax⟩ := exists_nearest ha hsource
  have hnearest : IsNearestSource projects b i := ⟨hb, hmax⟩
  rw [datesAt_inferDates_of_isNearestSource hj (hnearest.of_isDescendant hbelow hi hij),
    ← datesAt_inferDates_of_isNearestSource hi hnearest, hs]

/-! ### The theorem -/

/-- **Inferred dates enclose what lies below**: if a project without dates of
its own gets some, then so do all of its descendants, none of which starts
before it or ends after it. -/
theorem inferDates_encloses (hown : datesAt projects i = none)
    (hs : datesAt (inferDates projects) i = some s) (hij : IsDescendant projects i j) :
    ∃ t, datesAt (inferDates projects) j = some t ∧ s.Encloses t := by
  by_cases hbelow : (datesBelow projects i).Nonempty
  · exact encloses_of_datesBelow_nonempty hown hbelow hs hij
  · have hi : ¬ IsSource projects i := by
      rintro (hdated | hnonempty)
      · simp [hown] at hdated
      · exact hbelow hnonempty
    exact ⟨s, datesAt_inferDates_of_not_isSource hi hs hij, Span.Encloses.refl s⟩

/-- A tree with levels left out, in which two spans run backwards and the last
project takes its dates from between. -/
def tangled : List Project :=
  [{ indentation := 1, title := "Launch" },
   { indentation := 4
     title := "Press"
     dates := some ⟨.startOf ⟨2027, 5, 1, by decide⟩, .startOf ⟨2027, 4, 1, by decide⟩⟩ },
   { indentation := 3, title := "Site" },
   { indentation := 7
     title := "Texts"
     dates := some ⟨.startOf ⟨2027, 6, 1, by decide⟩, .startOf ⟨2027, 3, 1, by decide⟩⟩ },
   { indentation := 6, title := "Pictures" }]

theorem inferDates_encloses_tangled :
    let s : Span := ⟨.startOf ⟨2027, 5, 1, by decide⟩, .startOf ⟨2027, 4, 1, by decide⟩⟩
    datesAt tangled 0 = none ∧ datesAt (inferDates tangled) 0 = some s ∧
      IsDescendant tangled 0 4 ∧
      ∃ t, datesAt (inferDates tangled) 4 = some t ∧ s.Encloses t := by
  intro s
  have hown : datesAt tangled 0 = none := rfl
  have hs : datesAt (inferDates tangled) 0 = some s := by decide +kernel
  have hij : IsDescendant tangled 0 4 := by decide
  exact ⟨hown, hs, hij, inferDates_encloses hown hs hij⟩

end Chart

end TextRoadmap
