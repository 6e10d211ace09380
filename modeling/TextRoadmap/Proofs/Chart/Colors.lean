/-
TextRoadmap/Proofs/Chart/Colors.lean

The colors of a chart by position.

Colors are given out along the list, with one counter for epics and one for
the projects of an epic, which begins anew at each epic.  Both counters are
known from the position alone: the first is the number of epics up to it, the
second the distance from the last of them (`at_after_first`, by induction on
the position).  With that a color is a cell of the palette in closed form
(`colorOf_compileProjects`), and which colors are equal is a question of
remainders (`chart_colors`).
-/
import Mathlib.Data.Nat.Find
import TextRoadmap.Proofs.Chart.Recompile
import TextRoadmap.Proofs.Color.Palette

namespace TextRoadmap.Chart

variable {projects : List Project} {p q : Project} {i j : Nat}

/-! ### Places by position -/

/-- An epic stands at the position. -/
def IsEpicAt (projects : List Project) (j : Nat) : Prop := ∃ p ∈ projects[j]?, p.isEpic = true

instance (projects : List Project) : DecidablePred (IsEpicAt projects) := fun _ =>
  decidable_of_iff _ (Option.any_eq_true Project.isEpic _)

/-- The number of epics up to a position. -/
def epicsUpTo (projects : List Project) (i : Nat) : Nat :=
  (projects.take (i + 1)).countP Project.isEpic

/-- The position of the last epic up to a position, 0 if there is none. -/
def lastEpic (projects : List Project) (i : Nat) : Nat := Nat.findGreatest (IsEpicAt projects) i

/-- The number of a project within its epic, which is the distance from it. -/
def taskOf (projects : List Project) (i : Nat) : Nat := i - lastEpic projects i

theorem isEpicAt_iff (hi : i < projects.length) :
    IsEpicAt projects i ↔ projects[i].isEpic = true := by
  simp [IsEpicAt, hi]

theorem epicsUpTo_zero (h : 0 < projects.length) :
    epicsUpTo projects 0 = if projects[0].isEpic then 1 else 0 := by
  rw [epicsUpTo, List.take_succ_eq_append_getElem h, List.take_zero, List.nil_append,
    List.countP_singleton]

theorem epicsUpTo_succ (hi : i + 1 < projects.length) :
    epicsUpTo projects (i + 1) =
      epicsUpTo projects i + if projects[i + 1].isEpic then 1 else 0 := by
  rw [epicsUpTo, List.take_succ_eq_append_getElem hi, List.countP_append, List.countP_singleton,
    epicsUpTo]

theorem taskOf_zero (projects : List Project) : taskOf projects 0 = 0 := Nat.zero_sub _

theorem taskOf_succ (hi : i + 1 < projects.length) :
    taskOf projects (i + 1) = if projects[i + 1].isEpic then 0 else taskOf projects i + 1 := by
  have hle : lastEpic projects i ≤ i := Nat.findGreatest_le i
  rw [taskOf, lastEpic, Nat.findGreatest_succ]
  simp only [isEpicAt_iff hi]
  split
  · exact Nat.sub_self _
  · rw [taskOf, ← lastEpic]
    omega

/-! ### The place that is reached -/

/-- The place behind a run of projects. -/
def Place.after (place : Place) (run : List Project) : Place :=
  run.foldl (fun place p => (place.at p).next) place

/-- At each position a project gets the color of the place that is reached. -/
theorem getElem?_colorFrom (place : Place) (projects : List Project) (i : Nat) :
    (colorFrom place projects)[i]? = projects[i]?.map fun p =>
      let here := (place.after (projects.take i)).at p
      { p with color := p.color <|> some (here.color p.indentation) } := by
  induction projects generalizing place i with
  | nil => rfl
  | cons p rest ih =>
    cases i with
    | zero => rfl
    | succ i => exact ih (place.at p).next i

/-- From the beginning on the place counts epics, and projects since the last
of them. -/
theorem at_after_first (hi : i < projects.length) :
    (Place.first.after (projects.take i)).at projects[i] =
      ⟨epicsUpTo projects i, taskOf projects i⟩ := by
  induction i with
  | zero =>
    rw [epicsUpTo_zero hi, taskOf_zero, List.take_zero]
    show Place.first.at projects[0] = _
    unfold Place.at
    split <;> rfl
  | succ i ih =>
    have hbefore : i < projects.length := by omega
    rw [List.take_succ_eq_append_getElem hbefore, Place.after, List.foldl_append]
    show ((Place.first.after (projects.take i)).at projects[i]).next.at projects[i + 1] = _
    rw [ih hbefore, epicsUpTo_succ hi, taskOf_succ hi]
    unfold Place.at
    split <;> rfl

/-! ### Colors by position -/

/-- The color of the project at a position. -/
def colorOf (projects : List Project) (i : Nat) : Option Color := projects[i]?.bind (·.color)

theorem epicsUpTo_congr {projects' : List Project}
    (h : projects'.map (·.indentation) = projects.map (·.indentation)) (i : Nat) :
    epicsUpTo projects' i = epicsUpTo projects i := by
  have hepics : ∀ l : List Project, epicsUpTo l i =
      ((l.map (·.indentation)).take (i + 1)).countP (· = 0) := fun l => by
    rw [epicsUpTo, ← List.map_take, List.countP_map]
    rfl
  rw [hepics, hepics, h]

theorem taskOf_congr {projects' : List Project}
    (h : projects'.map (·.indentation) = projects.map (·.indentation)) (i : Nat) :
    taskOf projects' i = taskOf projects i := by
  have hepic : ∀ (l : List Project) j, IsEpicAt l j ↔ (l.map (·.indentation))[j]? = some 0 := by
    intro l j
    simp [IsEpicAt, Project.isEpic]
  have hlast : lastEpic projects' i = lastEpic projects i := by
    unfold lastEpic
    congr 1
    funext j
    rw [hepic, hepic, h]
  rw [taskOf, taskOf, hlast]

/-- A project that is filled stands at the same position. -/
theorem exists_getElem?_of_forall₂_fills {link : String → String} {a b : List Project}
    (h : List.Forall₂ (Project.Fills link) a b) (hp : a[i]? = some p) :
    ∃ q, b[i]? = some q ∧ Project.Fills link p q := by
  induction h generalizing i with
  | nil => cases hp
  | @cons p' q' _ _ hfills _ ih =>
    cases i with
    | zero =>
      obtain rfl := Option.some.inj hp
      exact ⟨q', rfl, hfills⟩
    | succ i => exact ih hp

/-- Compiled colors are those that are given, and the others those of the place. -/
theorem colorOf_compileProjects (baseUrl : String) (hp : projects[i]? = some p) :
    colorOf (compileProjects baseUrl projects) i =
      (p.color <|> some (Palette.foreground (epicsUpTo projects i - 1) (taskOf projects i)
        p.indentation.toNat)) := by
  have hindent := map_indentation_inferDates projects
  have hdated := getElem?_inferDates projects i
  rw [hp, Option.map_some] at hdated
  obtain ⟨hi, hget⟩ := List.getElem?_eq_some_iff.1 hdated
  have hplace := at_after_first hi
  rw [epicsUpTo_congr hindent, taskOf_congr hindent, hget] at hplace
  have hcolored := getElem?_colorFrom Place.first (inferDates projects) i
  rw [hdated, Option.map_some, hplace] at hcolored
  -- the passes behind the coloring keep the color
  obtain ⟨q, hq, hfills⟩ :=
    exists_getElem?_of_forall₂_fills (forall₂_colored baseUrl projects) hcolored
  rw [colorOf, hq, Option.bind_some]
  cases hcolor : p.color with
  | none => exact hfills.color _ (by rw [hcolor]; rfl)
  | some color => exact hfills.color _ (by rw [hcolor]; rfl)

/-! ### The theorem -/

/-- The family of the place, where the projects in front of the first epic
count as part of it. -/
def familyOf (projects : List Project) (i : Nat) : Nat :=
  (max (epicsUpTo projects i) 1 - 1) % Palette.familyCount

/-- How the color of the project `p` at position `i` of a compiled list follows
from the given list. -/
structure ColorRule (given compiled : List Project) (i : Nat) (p : Project) : Prop where
  own : ∀ color ∈ p.color, colorOf compiled i = some color
  palette : p.color = none → ∃ shade, Palette.IsShade (taskOf given i) p.indentation.toNat shade ∧
    colorOf compiled i = some (Palette.colorAt (familyOf given i) shade)

/-- The color of a project without one, in the cell of its family and shade. -/
theorem colorOf_compileProjects_of_none (baseUrl : String) (hp : projects[i]? = some p)
    (hcolor : p.color = none) : colorOf (compileProjects baseUrl projects) i =
      some (Palette.colorAt (familyOf projects i)
        (Palette.shadeOf (taskOf projects i) p.indentation.toNat)) := by
  have hfamily : epicsUpTo projects i - 1 ≡ familyOf projects i [MOD Palette.familyCount] := by
    unfold familyOf Nat.ModEq
    rw [Nat.mod_mod]
    congr 1
    omega
  rw [colorOf_compileProjects baseUrl hp, hcolor]
  show some (Palette.colorAt _ _) = _
  rw [Palette.colorAt_eq_iff.2 ⟨hfamily, rfl⟩]

theorem colorRule_compileProjects (baseUrl : String) (hp : projects[i]? = some p) :
    ColorRule projects (compileProjects baseUrl projects) i p where
  own color hcolor := by
    rw [colorOf_compileProjects baseUrl hp, Option.mem_def.1 hcolor]
    rfl
  palette hcolor :=
    ⟨_, Palette.isShade_shadeOf .., colorOf_compileProjects_of_none baseUrl hp hcolor⟩

/-- **Palette colors follow the place**: given colors stay, and every other
project has the color in the cell of its family and its shade.  So at the same
depth below the top colors of one family are equal exactly if the tasks are a
multiple of half a ramp apart, and different families share no color. -/
theorem chart_colors (r : Roadmap) :
    (∀ i p, r.projects[i]? = some p → ColorRule r.projects r.chart.projects i p) ∧
    ∀ i j p q, r.projects[i]? = some p → r.projects[j]? = some q →
      p.color = none → q.color = none →
      (max (epicsUpTo r.projects i) 1 ≡ max (epicsUpTo r.projects j) 1 [MOD Palette.familyCount] →
        p.indentation = q.indentation → p.indentation ≠ 0 →
        (colorOf r.chart.projects i = colorOf r.chart.projects j ↔
          taskOf r.projects i ≡ taskOf r.projects j [MOD Palette.shadeCount / 2])) ∧
      (familyOf r.projects i ≠ familyOf r.projects j →
        colorOf r.chart.projects i ≠ colorOf r.chart.projects j) := by
  refine ⟨fun i p => colorRule_compileProjects r.baseUrl, ?_⟩
  intro i j p q hp hq hpcolor hqcolor
  have hequal : colorOf r.chart.projects i = colorOf r.chart.projects j ↔
      familyOf r.projects i ≡ familyOf r.projects j [MOD Palette.familyCount] ∧
        Palette.shadeOf (taskOf r.projects i) p.indentation.toNat ≡
          Palette.shadeOf (taskOf r.projects j) q.indentation.toNat [MOD Palette.shadeCount] := by
    have hi := colorOf_compileProjects_of_none r.baseUrl hp hpcolor
    have hj := colorOf_compileProjects_of_none r.baseUrl hq hqcolor
    show colorOf (compileProjects r.baseUrl r.projects) i =
      colorOf (compileProjects r.baseUrl r.projects) j ↔ _
    rw [hi, hj, Option.some_inj, Palette.colorAt_eq_iff]
  constructor
  · intro hepics hindent hdeep
    have hfamily : familyOf r.projects i ≡ familyOf r.projects j [MOD Palette.familyCount] := by
      unfold familyOf Palette.familyCount Nat.ModEq at *
      omega
    have hdepth : q.indentation.toNat ≠ 0 := by
      rw [← hindent]
      exact fun h => hdeep (UInt8.toNat_inj.1 h)
    rw [hequal, and_iff_right hfamily, hindent, Palette.shadeOf_modEq_iff hdepth]
  · intro hfamilies heq
    have hmod := (hequal.1 heq).1
    unfold familyOf Nat.ModEq at *
    rw [Nat.mod_mod, Nat.mod_mod] at hmod
    exact hfamilies hmod

end TextRoadmap.Chart
