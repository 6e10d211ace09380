/-
TextRoadmap/Proofs/Settings/Document.lean

The settings of a project read back from the document that holds them.

The document has a line for each setting that there is.  A line is read up to
its end, whatever comes after it (`readLine?_line`), so a document of such
lines is read as the list of their keys and values, and the settings are those
keys (`ProjectSettings.read?_write`).
-/
import TextRoadmap.Proofs.Text.Cut
import TextRoadmap.Proofs.Toml.Strings
import TextRoadmap.Settings.Document

namespace TextRoadmap.Toml

open TextRoadmap.Text

variable {key value : String} {rest s : List Char} {c mark : Char}

/-! ### Keys -/

/-- The key can stand without quotes. -/
structure IsBare (key : String) : Prop where
  ne_nil : key.toList ≠ []
  isKeyChar_of_mem : ∀ c ∈ key.toList, isKeyChar c = true

/-- A character of a key has no meaning of its own. -/
theorem ne_of_isKeyChar (h : isKeyChar c = true) (hmark : isKeyChar mark = false) :
    c ≠ mark := by
  rintro rfl
  rw [h] at hmark
  cases hmark

theorem isGap_of_isKeyChar (h : isKeyChar c = true) : isGap c = false := by
  have hblank : c ≠ ' ' := ne_of_isKeyChar h (by decide)
  have htab : c ≠ '\t' := ne_of_isKeyChar h (by decide)
  simp [isGap, hblank, htab]

/-- A key that stands without quotes is read up to the blank behind it. -/
theorem IsBare.readKeyPart?_append (h : IsBare key) (rest : List Char) :
    readKeyPart? (key.toList ++ ' ' :: rest) = some (key, ' ' :: rest) := by
  obtain ⟨first, others, heq⟩ := List.exists_cons_of_ne_nil h.ne_nil
  have hfirst : isKeyChar first = true := h.isKeyChar_of_mem first (by simp [heq])
  have hdouble : first ≠ '"' := ne_of_isKeyChar hfirst (by decide)
  have hsingle : first ≠ '\'' := ne_of_isKeyChar hfirst (by decide)
  have htake : (key.toList ++ ' ' :: rest).takeWhile isKeyChar = key.toList := by
    rw [List.takeWhile_append_of_pos h.isKeyChar_of_mem,
      List.takeWhile_cons_of_neg (by decide), List.append_nil]
  have hdrop : (key.toList ++ ' ' :: rest).dropWhile isKeyChar = ' ' :: rest := by
    rw [dropWhile_append_of_forall h.isKeyChar_of_mem, List.dropWhile_cons_of_neg (by decide)]
  rw [readKeyPart?, if_neg (by simp [heq, hdouble, hsingle]), htake, hdrop]
  split
  · exact absurd ‹key.toList = []› h.ne_nil
  · rw [String.ofList_toList]

theorem IsBare.skipGap_append (h : IsBare key) (rest : List Char) :
    skipGap (key.toList ++ rest) = key.toList ++ rest := by
  obtain ⟨first, others, heq⟩ := List.exists_cons_of_ne_nil h.ne_nil
  refine dropWhile_eq_self fun c hc => ?_
  rw [heq] at hc
  cases hc
  exact isGap_of_isKeyChar (h.isKeyChar_of_mem first (by simp [heq]))

theorem IsBare.readKey?_append (h : IsBare key) (rest : List Char) :
    readKey? (key.toList ++ ' ' :: '=' :: rest) = some ([], key, '=' :: rest) := by
  have hparts : readKeyParts? (levelLimit - 1) (key.toList ++ ' ' :: '=' :: rest) =
      some ([key], '=' :: rest) := by
    rw [levelLimit, readKeyParts?, h.skipGap_append, h.readKeyPart?_append]
    rfl
  rw [readKey?, hparts]
  rfl

/-! ### Values -/

/-- A string begins with a quote. -/
theorem exists_quote_eq (s : List Char) :
    ∃ mark inner, (mark = '"' ∨ mark = '\'') ∧ quote s = mark :: inner := by
  rw [quote]
  rcases Quoting.of s
  · exact ⟨'"', _, .inl rfl, rfl⟩
  · exact ⟨'\'', _, .inr rfl, rfl⟩
  · exact ⟨'"', _, .inl rfl, rfl⟩
  · exact ⟨'\'', _, .inr rfl, rfl⟩

theorem skipGap_quote (s rest : List Char) : skipGap (' ' :: (quote s ++ rest)) =
    quote s ++ rest := by
  obtain ⟨mark, inner, hmark, heq⟩ := exists_quote_eq s
  rw [heq]
  rcases hmark with rfl | rfl <;> rfl

/-- A string on a line is a value. -/
theorem readValue?_quote (s rest : List Char) :
    readValue? (quote s ++ '\n' :: rest) = some (.text (String.ofList s), '\n' :: rest) := by
  have hread : readString? (quote s ++ '\n' :: rest) = some (String.ofList s, '\n' :: rest) :=
    readString?_quote s (by simp) (by simp)
  obtain ⟨mark, inner, hmark, heq⟩ := exists_quote_eq s
  rw [heq, List.cons_append] at hread ⊢
  rcases hmark with rfl | rfl
  all_goals
    rw [readValue?, readValueIn?, hread]
    rfl

/-! ### Lines -/

theorem line_some_append (key value : String) (rest : List Char) :
    line key (some value) ++ rest =
      key.toList ++ ' ' :: '=' :: ' ' :: (quote value.toList ++ '\n' :: rest) := by
  simp [line]

/-- Lines begin with the first character of a key. -/
theorem IsBare.exists_line_eq (h : IsBare key) (value : String) (rest : List Char) :
    ∃ first others, isKeyChar first = true ∧ line key (some value) ++ rest = first :: others := by
  obtain ⟨first, others, heq⟩ := List.exists_cons_of_ne_nil h.ne_nil
  have hfirst : isKeyChar first = true := h.isKeyChar_of_mem first (by simp [heq])
  rw [line_some_append, heq, List.cons_append]
  exact ⟨first, _, hfirst, rfl⟩

/-- A line that begins with a key sets it. -/
theorem readLine?_cons (h : isKeyChar c = true) (s : List Char) :
    readLine? (c :: s) = (readKeyValue? (c :: s)).map fun (st, after) => (some st, after) := by
  have hne : ∀ {mark}, isKeyChar mark = false → c ≠ mark := ne_of_isKeyChar h
  unfold readLine?
  split
  · exact absurd (List.cons.inj ‹_›).1 (hne (by decide))
  · exact absurd (List.cons.inj ‹_›).1 (hne (by decide))
  · exact absurd (List.cons.inj ‹_›).1 (hne (by decide))
  · exact absurd (List.cons.inj ‹_›).1 (hne (by decide))
  · exact absurd (List.cons.inj ‹_›).1 (hne (by decide))
  · rfl

/-- A line is read up to its end. -/
theorem readLine?_line (h : IsBare key) (value : String) (rest : List Char) :
    readLine? (line key (some value) ++ rest) = some (some (.entry [] key (.text value)), rest) := by
  have hentry : readKeyValue? (line key (some value) ++ rest) =
      some (.entry [] key (.text value), rest) := by
    have hend : endLine? ('\n' :: rest) = some rest := rfl
    rw [line_some_append, readKeyValue?, h.readKey?_append]
    simp only [Option.bind_eq_bind, Option.bind_some, stripPrefix?, if_true, skipGap_quote,
      readValue?_quote, hend, String.ofList_toList]
  obtain ⟨first, others, hfirst, heq⟩ := h.exists_line_eq value rest
  rw [heq] at hentry ⊢
  rw [readLine?_cons hfirst, hentry]
  rfl

theorem readStatements?_line (h : IsBare key) (value : String) (rest : List Char) (fuel : Nat) :
    readStatements? (fuel + 1) (line key (some value) ++ rest) =
      (readStatements? fuel rest).map (.entry [] key (.text value) :: ·) := by
  have hline := readLine?_line h value rest
  obtain ⟨first, others, hfirst, heq⟩ := h.exists_line_eq value rest
  have hskip : skipGap (first :: others) = first :: others :=
    List.dropWhile_cons_of_neg (by simp [isGap_of_isKeyChar hfirst])
  rw [heq] at hline ⊢
  rw [readStatements?, hskip]
  simp only [hline, Option.bind_eq_bind, Option.bind_some]
  cases readStatements? fuel rest <;> rfl

/-! ### Documents -/

/-- The document with a line for each entry. -/
def entryLines (entries : List (String × String)) : List Char :=
  entries.flatMap fun e => line e.1 (some e.2)

/-- The entries of a document as statements. -/
def statementsOf (entries : List (String × String)) : List Statement :=
  entries.map fun e => .entry [] e.1 (.text e.2)

variable {entries : List (String × String)}

theorem readStatements?_entryLines (h : ∀ e ∈ entries, IsBare e.1) {fuel : Nat}
    (hfuel : entries.length < fuel) :
    readStatements? fuel (entryLines entries) = some (statementsOf entries) := by
  induction entries generalizing fuel with
  | nil =>
    obtain ⟨fuel, rfl⟩ := Nat.exists_eq_add_one.2 hfuel
    rfl
  | cons e entries ih =>
    obtain ⟨fuel, rfl⟩ := Nat.exists_eq_add_one.2 (Nat.zero_lt_of_lt hfuel)
    obtain ⟨he, hrest⟩ := List.forall_mem_cons.1 h
    rw [entryLines, List.flatMap_cons, readStatements?_line he, ← entryLines,
      ih hrest (Nat.lt_of_succ_lt_succ hfuel)]
    rfl

theorem length_le_entryLines (entries : List (String × String)) :
    entries.length ≤ (entryLines entries).length := by
  induction entries with
  | nil => exact Nat.zero_le 0
  | cons e entries ih =>
    have hpos : 0 < (line e.1 (some e.2)).length := by
      rw [← List.append_nil (line ..), line_some_append, List.length_append, List.length_cons]
      omega
    rw [entryLines, List.flatMap_cons, List.length_append, ← entryLines, List.length_cons]
    omega

theorem dropByteOrderMark_entryLines (h : ∀ e ∈ entries, IsBare e.1) :
    dropByteOrderMark (entryLines entries) = entryLines entries := by
  rcases entries with - | ⟨e, entries⟩
  · rfl
  · obtain ⟨first, others, hfirst, heq⟩ :=
      (h e (List.mem_cons_self ..)).exists_line_eq e.2 (entryLines entries)
    have hcons : entryLines (e :: entries) = first :: others := heq
    rw [hcons]
    unfold dropByteOrderMark
    split
    · exact absurd (List.cons.inj ‹_›).1 (ne_of_isKeyChar hfirst (by decide))
    · rfl

/-- A document of lines is read as the table with its entries. -/
theorem read?_entryLines (h : ∀ e ∈ entries, IsBare e.1) :
    read? (String.ofList (entryLines entries)) = tableOf? (statementsOf entries) := by
  -- a line takes one unit of fuel, and no line is empty
  have hfuel : entries.length < (entryLines entries).length + 1 :=
    Nat.lt_succ_of_le (length_le_entryLines entries)
  rw [read?, String.toList_ofList, dropByteOrderMark_entryLines h, readStatements?_entryLines h hfuel,
    Option.bind_some]

end TextRoadmap.Toml

namespace TextRoadmap

open TextRoadmap.Toml

/-- The settings that there are, with their keys. -/
def ProjectSettings.entries (s : ProjectSettings) : List (String × String) :=
  (s.layout.map fun value => ("date_format", value)).toList ++
    (s.baseUrl.map fun value => ("base_url", value)).toList

theorem ProjectSettings.write_eq (s : ProjectSettings) :
    s.write = String.ofList (entryLines s.entries) := by
  obtain ⟨- | layout, - | baseUrl⟩ := s <;> simp [write, entries, entryLines, line]

theorem ProjectSettings.isBare_entries (s : ProjectSettings) : ∀ e ∈ s.entries, IsBare e.1 := by
  have hlayout : IsBare "date_format" := ⟨by decide, List.all_eq_true.1 (by decide)⟩
  have hbaseUrl : IsBare "base_url" := ⟨by decide, List.all_eq_true.1 (by decide)⟩
  intro e he
  rcases List.mem_append.1 he with he | he
  · obtain ⟨value, -, rfl⟩ := Option.map_eq_some_iff.1 (Option.mem_toList.1 he)
    exact hlayout
  · obtain ⟨value, -, rfl⟩ := Option.map_eq_some_iff.1 (Option.mem_toList.1 he)
    exact hbaseUrl

/-- **Settings read back**: the document that holds the settings of a project
is read as these settings. -/
theorem ProjectSettings.read?_write (s : ProjectSettings) :
    ProjectSettings.read? s.write = some s := by
  rw [write_eq, ProjectSettings.read?, read?_entryLines s.isBare_entries]
  obtain ⟨- | layout, - | baseUrl⟩ := s <;> rfl

end TextRoadmap
