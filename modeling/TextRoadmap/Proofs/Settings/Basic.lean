/-
TextRoadmap/Proofs/Settings/Basic.lean

Settings by their keys.

A project has a value for each key or none, and so has a user.  Changing a
setting gives one key a value and leaves the other alone, if there is such a
key and it can have the value, and is refused otherwise.  The value that
counts is the first that is there: that of a flag, that of the project, that
of the user, and the built-in one.
-/
import Mathlib.Tactic.SplitIfs
import TextRoadmap.Settings.Basic

namespace TextRoadmap

/-! ### Keys -/

/-- What can be set. -/
inductive SettingKey where
  | layout
  | baseUrl
  deriving DecidableEq

namespace SettingKey

/-- The name of the key. -/
def name : SettingKey → String
  | layout => "date_format"
  | baseUrl => "base_url"

/-- The built-in value of the key. -/
def standard : SettingKey → String
  | layout => "2006-01-02"
  | baseUrl => ""

/-- The values that the key can have: a layout that is not empty, a base that
is empty or names a host. -/
def Allows : SettingKey → String → Prop
  | layout, value => value ≠ ""
  | baseUrl, value => value = "" ∨ Link.isAbsolute value = true

/-- The value of the key that counts, of those that are there. -/
def counting (key : SettingKey) (flag project user : Option String) : String :=
  (flag <|> project <|> user).getD key.standard

end SettingKey

/-- There is a key of this name, and it can have the value. -/
def IsSetting (key value : String) : Prop := ∃ k : SettingKey, k.name = key ∧ k.Allows value

/-- What the settings of a project have for the key. -/
def ProjectSettings.value? (s : ProjectSettings) : SettingKey → Option String
  | .layout => s.layout
  | .baseUrl => s.baseUrl

/-- What the settings of a user have for the key. -/
def UserSettings.value? (s : UserSettings) : SettingKey → Option String
  | .layout => s.layout
  | .baseUrl => s.baseUrl

variable {key value : String}

/-! ### Changing -/

/-- One key gets the value, and the other one keeps its own. -/
theorem ProjectSettings.exists_set_eq_ok (s : ProjectSettings) (h : IsSetting key value) :
    ∃ s', s.set key value = .ok s' ∧
      ∀ k, s'.value? k = if k.name = key then some value else s.value? k := by
  obtain ⟨- | -, rfl, hallows⟩ := h
  · have hvalue : ¬ value.isEmpty = true := by simpa [SettingKey.Allows] using hallows
    refine ⟨{ s with layout := some value }, ?_, by rintro (- | -) <;> rfl⟩
    rw [set, SettingKey.name, if_pos rfl, if_neg hvalue]
  · have hvalue : ¬ (!value.isEmpty && !Link.isAbsolute value) = true := by
      rcases hallows with rfl | habsolute
      · simp
      · simp [habsolute]
    refine ⟨{ s with baseUrl := some value }, ?_, by rintro (- | -) <;> rfl⟩
    rw [set, SettingKey.name, if_neg (by decide), if_pos rfl, if_neg hvalue]

/-- All other changes are refused. -/
theorem ProjectSettings.exists_set_eq_error (s : ProjectSettings) (h : ¬ IsSetting key value) :
    ∃ e, s.set key value = .error e := by
  rw [set]
  split_ifs with hlayout hempty hbase hrelative
  · exact ⟨_, rfl⟩
  · exact absurd ⟨.layout, hlayout.symm, by simpa [SettingKey.Allows] using hempty⟩ h
  · exact ⟨_, rfl⟩
  · refine absurd ⟨.baseUrl, hbase.symm, ?_⟩ h
    by_cases hvalue : value = ""
    · exact .inl hvalue
    · exact .inr (by simpa [hvalue] using hrelative)
  · exact ⟨_, rfl⟩

/-! ### Values that count -/

theorem Settings.layout_eq (s : Settings) (flag : Option String) :
    s.layout flag =
      ⟨SettingKey.layout.counting flag (s.project.value? .layout) (s.user.value? .layout)⟩ := rfl

theorem Settings.baseUrl_eq (s : Settings) (flag : Option String) :
    s.baseUrl flag =
      SettingKey.baseUrl.counting flag (s.project.value? .baseUrl) (s.user.value? .baseUrl) := rfl

end TextRoadmap
