/-
TextRoadmap/Proofs/Color/Palette.lean

The cells of the palette and the way through them.

No number stands in the table twice, so a color shows its cell: two places of
the palette have the same color exactly if they agree up to the repetition of
families and shades (`colorAt_eq_iff`).

The shade of a project is a remainder around its ramp (`isShade_shadeOf`).  At
the same depth below the top two tasks have the same shade exactly if half a
ramp of tasks, or a multiple of it, lies between them (`shadeOf_modEq_iff`).
-/
import Mathlib.Data.Int.ModEq
import Mathlib.Data.List.Nodup
import TextRoadmap.Color.Palette

namespace TextRoadmap.Palette

/-! ### Cells -/

/-- Every number of the palette is one of 24 bits. -/
theorem lt_of_mem_families : ∀ ramp ∈ families, ∀ n ∈ ramp, n < 0x1000000 := by decide

theorem length_of_mem_families : ∀ ramp ∈ families, ramp.length = shadeCount := by decide

theorem nodup_flatten_families : families.flatten.Nodup := by decide +kernel

theorem ofNumber_inj {m n : Nat} (hm : m < 0x1000000) (hn : n < 0x1000000)
    (h : ofNumber m = ofNumber n) : m = n := by
  obtain ⟨hred, hgreen, hblue⟩ := Color.mk.inj h
  replace hred := congrArg UInt8.toNat hred
  replace hgreen := congrArg UInt8.toNat hgreen
  replace hblue := congrArg UInt8.toNat hblue
  simp only [UInt8.toNat_ofNat'] at hred hgreen hblue
  omega

/-- In a table without a number twice, a number shows where it stands. -/
theorem eq_of_getElem_eq {rows : List (List Nat)} (h : rows.flatten.Nodup) {i i' j j' : Nat}
    {hi : i < rows.length} {hi' : i' < rows.length} {hj : j < rows[i].length}
    {hj' : j' < rows[i'].length} (heq : rows[i][j] = rows[i'][j']) : i = i' ∧ j = j' := by
  obtain ⟨hrows, hdisjoint⟩ := List.nodup_flatten.1 h
  rw [List.pairwise_iff_getElem] at hdisjoint
  have hmem : rows[i][j] ∈ rows[i] := List.getElem_mem hj
  have hmem' : rows[i][j] ∈ rows[i'] := heq ▸ List.getElem_mem hj'
  rcases Nat.lt_trichotomy i i' with hlt | rfl | hlt
  · exact absurd hmem' (hdisjoint i i' hi hi' hlt hmem)
  · exact ⟨rfl, (hrows _ (List.getElem_mem hi)).getElem_inj_iff.1 heq⟩
  · exact absurd hmem (hdisjoint i' i hi' hi hlt hmem')

/-- Families and shades repeat, and each place shows a number of the table. -/
theorem exists_colorAt (family shade : Nat) :
    ∃ (hf : family % familyCount < families.length)
      (hs : shade % shadeCount < families[family % familyCount].length),
      colorAt family shade = ofNumber families[family % familyCount][shade % shadeCount] := by
  have hf : family % familyCount < families.length := Nat.mod_lt _ (by decide)
  have hs : shade % shadeCount < families[family % familyCount].length := by
    rw [length_of_mem_families _ (List.getElem_mem hf)]
    exact Nat.mod_lt _ (by decide)
  refine ⟨hf, hs, ?_⟩
  simp [colorAt, hf, hs]

/-- No two cells of the palette have the same color. -/
theorem colorAt_eq_iff {family shade family' shade' : Nat} :
    colorAt family shade = colorAt family' shade' ↔
      family ≡ family' [MOD familyCount] ∧ shade ≡ shade' [MOD shadeCount] := by
  constructor
  · intro h
    obtain ⟨hf, hs, hcolor⟩ := exists_colorAt family shade
    obtain ⟨hf', hs', hcolor'⟩ := exists_colorAt family' shade'
    have hlt := lt_of_mem_families _ (List.getElem_mem hf) _ (List.getElem_mem hs)
    have hlt' := lt_of_mem_families _ (List.getElem_mem hf') _ (List.getElem_mem hs')
    rw [hcolor, hcolor'] at h
    exact eq_of_getElem_eq nodup_flatten_families (ofNumber_inj hlt hlt' h)
  · rintro ⟨hfamily, hshade⟩
    rw [colorAt, colorAt, hfamily, hshade]

/-! ### Shades -/

/-- The shade of a task at a depth: the middle one at the top, and below it two
less for every task and five less for every level after the first, around the
ramp. -/
def IsShade (task depth shade : Nat) : Prop :=
  shade < shadeCount ∧ if depth = 0 then shade = shadeCount / 2
    else (shade : Int) ≡ (shadeCount / 2 : Nat) - 2 * task - 5 * ((depth : Int) - 1)
      [ZMOD shadeCount]

theorem isShade_shadeOf (task depth : Nat) : IsShade task depth (shadeOf task depth) := by
  unfold IsShade shadeOf
  split
  · exact ⟨by decide, rfl⟩
  · have hnonneg := Int.emod_nonneg (10 - 2 * (task : Int) - 5 * ((depth : Int) - 1))
      (show (20 : Int) ≠ 0 by decide)
    refine ⟨by unfold shadeCount; omega, ?_⟩
    rw [Int.toNat_of_nonneg hnonneg]
    exact Int.mod_modEq _ _

/-- Half a ramp of tasks leads to the same shade again. -/
theorem shadeOf_modEq_iff {depth task task' : Nat} (h : depth ≠ 0) :
    shadeOf task depth ≡ shadeOf task' depth [MOD shadeCount] ↔
      task ≡ task' [MOD shadeCount / 2] := by
  unfold shadeOf shadeCount Nat.ModEq
  simp only [if_neg h]
  omega

end TextRoadmap.Palette
