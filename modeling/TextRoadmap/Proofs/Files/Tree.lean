/-
TextRoadmap/Proofs/Files/Tree.lean

What the operations do to a tree of files.

An operation that succeeds puts or erases one entry, and never takes a folder
away (`KeepsFolders`).  A path that has led to a folder therefore leads there
for good, and a path with a name of its own at the end leads to one and the
same place in all trees to come, whether there is anything or not (`Names`).

There is one inversion lemma for each operation; `Spares` sums up what
several of them leave alone.  Trees that differ in the content of files only
(`SameKinds`) have the same ways, and a file that can be moved in the one can
be moved in the other.
-/
import TextRoadmap.Files.Tree
import Mathlib.Data.List.Basic

namespace TextRoadmap.FileTree

variable {t t' t'' : FileTree} {entry : Entry} {place other here folder parent : Place}
variable {p : Path} {name : String} {names : List String} {content : ByteArray}

/-! ### Entries -/

theorem lookup_filter (keep : Place → Bool) (place : Place) (l : List (Place × Entry)) :
    (l.filter fun e => keep e.1).lookup place = if keep place then l.lookup place else none := by
  induction l with
  | nil => simp
  | cons e l ih =>
    obtain ⟨other, entry⟩ := e
    by_cases h : place = other
    · subst h
      cases hk : keep place <;> simp [hk, ih]
    · have hne : (place == other) = false := by simpa using h
      cases hk : keep other <;> simp [hk, List.lookup_cons, hne, ih]

theorem find?_erase (h : place ≠ []) : (t.erase place).find? place = none := by
  have hlookup := lookup_filter (· ≠ place) place t.entries
  simpa [find?, erase, h] using hlookup

theorem find?_erase_of_ne (h : other ≠ place) : (t.erase place).find? other = t.find? other := by
  have hlookup := lookup_filter (· ≠ place) other t.entries
  rw [if_pos (by simpa using h)] at hlookup
  rw [find?, find?, erase, hlookup]

theorem find?_put_of_ne (h : other ≠ place) : (t.put place entry).find? other = t.find? other := by
  have hne : (other == place) = false := by simpa using h
  have hlookup :
      (t.put place entry).entries.lookup other = (t.erase place).entries.lookup other := by
    rw [put, List.lookup_append]
    simp [List.lookup_cons, hne]
  rw [← find?_erase_of_ne (t := t) h, find?, hlookup, find?]

theorem isFolder_iff : t.isFolder place = true ↔ t.find? place = some .folder := by
  rw [isFolder]
  rcases t.find? place with - | - | content <;> simp [Entry.kind]

/-! ### Folders that stay -/

/-- Every folder of `t` is one of `t'`. -/
def KeepsFolders (t t' : FileTree) : Prop :=
  ∀ place, t.find? place = some .folder → t'.find? place = some .folder

theorem KeepsFolders.refl (t : FileTree) : KeepsFolders t t := fun _ h => h

theorem KeepsFolders.trans (h : KeepsFolders t t') (h' : KeepsFolders t' t'') :
    KeepsFolders t t'' := fun place hp => h' place (h place hp)

theorem keepsFolders_put (h : t.find? place ≠ some .folder) :
    KeepsFolders t (t.put place entry) := by
  intro other hother
  have hne : other ≠ place := by
    rintro rfl
    exact h hother
  rw [find?_put_of_ne hne]
  exact hother

theorem keepsFolders_erase (h : t.find? place ≠ some .folder) : KeepsFolders t (t.erase place) := by
  intro other hother
  have hne : other ≠ place := by
    rintro rfl
    exact h hother
  rw [find?_erase_of_ne hne]
  exact hother

/-- A file that is moved away and replaces no folder leaves all folders. -/
theorem keepsFolders_move (hplace : t.find? place ≠ some .folder)
    (hother : t.find? other ≠ some .folder) (hne : other ≠ place) :
    KeepsFolders t ((t.erase place).put other entry) := by
  refine (keepsFolders_erase hplace).trans (keepsFolders_put ?_)
  rw [find?_erase_of_ne hne]
  exact hother

/-- What is put at a free place and taken away again leaves nothing behind. -/
theorem find?_erase_put (hplace : place ≠ []) (hfree : t.find? place = none) (here : Place) :
    ((t.put place entry).erase place).find? here = t.find? here := by
  by_cases h : here = place
  · subst h
    rw [find?_erase hplace, hfree]
  · rw [find?_erase_of_ne h, find?_put_of_ne h]

/-- What is put at a free place and moved away changes only the place that it
is moved to. -/
theorem find?_put_move {entry' : Entry} (hplace : place ≠ []) (hfree : t.find? place = none)
    (hne : here ≠ other) :
    (((t.put place entry).erase place).put other entry').find? here = t.find? here := by
  rw [find?_put_of_ne hne, find?_erase_put hplace hfree]

/-! ### Ways through the tree -/

/-- Whoever has come to a folder has gone by way of folders only. -/
theorem isFolder_of_walk (h : t.walk here names = .ok place) (hplace : t.isFolder place = true) :
    t.isFolder here = true := by
  rcases names with - | ⟨name, names⟩
  · cases h
    exact hplace
  · rw [walk] at h
    by_contra hhere
    rw [if_pos (by simpa using hhere)] at h
    cases h

/-- A way to a folder stays open. -/
theorem walk_of_keepsFolders (hkeeps : KeepsFolders t t') (h : t.walk here names = .ok place)
    (hplace : t.isFolder place = true) : t'.walk here names = .ok place := by
  induction names generalizing here with
  | nil => exact h
  | cons name names ih =>
    have hhere := isFolder_of_walk h hplace
    have hhere' := isFolder_iff.2 (hkeeps here (isFolder_iff.1 hhere))
    simp only [walk, hhere, hhere', Bool.not_true, Bool.false_eq_true, if_false] at h ⊢
    split
    · rename_i hname
      rw [if_pos hname] at h
      exact ih h
    · rename_i hname
      rw [if_neg hname] at h
      split
      · rename_i hname'
        rw [if_pos hname'] at h
        exact ih h
      · rename_i hname'
        rw [if_neg hname'] at h
        split at h
        · have hnext := hkeeps _ (isFolder_iff.1 (isFolder_of_walk h hplace))
          rw [hnext, Option.isSome_some, if_pos rfl]
          exact ih h
        · cases h

theorem walk_append (t : FileTree) (here : Place) (names names' : List String) :
    t.walk here (names ++ names') = (t.walk here names).bind fun place => t.walk place names' := by
  induction names generalizing here with
  | nil => rfl
  | cons name names ih =>
    simp only [List.cons_append, walk, ih]
    split
    · rfl
    · split
      · rfl
      · split
        · rfl
        · split <;> rfl

theorem locate_of_keepsFolders (hkeeps : KeepsFolders t t') (h : t.locate folder p = .ok place)
    (hplace : t.find? place = some .folder) : t'.locate folder p = .ok place := by
  unfold locate at h ⊢
  split at h
  · cases h
  · rw [if_neg ‹_›]
    exact walk_of_keepsFolders hkeeps h (isFolder_iff.2 hplace)

/-! ### Places for something new -/

/-- The names between the slashes of a path. -/
def properNames (p : Path) : List String :=
  ((p.chars.splitOn '/').filter (!·.isEmpty)).map String.ofList

/-- Without a slash at its end a path ends in its last name. -/
theorem namesOf_eq_concat (hslash : endsInSlash p = false)
    (hlast : (properNames p).getLast? = some name) :
    namesOf p = (properNames p).dropLast ++ [name] := by
  have hof : namesOf p = properNames p := if_neg (by simpa [endsInSlash] using hslash)
  rw [hof, List.dropLast_append_getLast? _ (Option.mem_def.2 hlast)]

/-- The path ends in a name of its own, in a folder that is there. -/
structure Names (t : FileTree) (folder : Place) (p : Path) (parent : Place) (name : String) :
    Prop where
  ne_empty : p.text.isEmpty = false
  walk_eq : t.walk (startOf folder p) (properNames p).dropLast = .ok parent
  isFolder : t.isFolder parent = true
  getLast?_eq : (properNames p).getLast? = some name
  ne_point : name ≠ "."
  ne_points : name ≠ ".."

/-- What succeeds after a step has been given the result of that step. -/
theorem exists_of_bind_eq_ok {α β ε : Type} {x : Except ε α} {next : α → Except ε β} {b : β}
    (h : x >>= next = .ok b) : ∃ a, x = .ok a ∧ next a = .ok b := by
  rcases x with e | a
  · cases h
  · exact ⟨a, rfl, h⟩

theorem names_of_locateNew (h : t.locateNew folder p = .ok (parent, some name)) :
    Names t folder p parent name := by
  rw [locateNew] at h
  split at h
  · cases h
  · rename_i hne
    obtain ⟨parent', hwalk, h⟩ := exists_of_bind_eq_ok h
    split at h
    · cases h
    · rename_i hfolder
      obtain ⟨rfl, hname⟩ := Prod.mk.inj (Except.ok.inj h)
      obtain ⟨hlast, hproper⟩ := Option.filter_eq_some_iff.1 hname
      simp only [decide_eq_true_eq] at hproper
      exact ⟨by simpa using hne, hwalk, by simpa using hfolder, hlast, hproper.1, hproper.2⟩

theorem locateNew_of_names (h : Names t folder p parent name) :
    t.locateNew folder p = .ok (parent, some name) := by
  rw [locateNew, if_neg (by simp [h.ne_empty])]
  show (t.walk (startOf folder p) (properNames p).dropLast).bind _ = _
  rw [h.walk_eq]
  show (if !t.isFolder parent then _ else Except.ok (parent, (properNames p).getLast?.filter _)) = _
  rw [if_neg (by simp [h.isFolder]), h.getLast?_eq, Option.filter_some_pos]
  simp [h.ne_point, h.ne_points]

/-- In all trees to come the path leads to its place, once there is something. -/
theorem Names.locate_eq (h : Names t folder p parent name) (hkeeps : KeepsFolders t t')
    (hslash : endsInSlash p = false) :
    t'.locate folder p =
      if (t'.find? (parent ++ [name])).isSome then .ok (parent ++ [name]) else .error .missing := by
  have hparent := isFolder_iff.2 (hkeeps _ (isFolder_iff.1 h.isFolder))
  rw [locate, if_neg (by simp [h.ne_empty]), namesOf_eq_concat hslash h.getLast?_eq, walk_append,
    walk_of_keepsFolders hkeeps h.walk_eq h.isFolder, Except.bind]
  simp only [walk, hparent, Bool.not_true, Bool.false_eq_true, if_false, if_neg h.ne_point,
    if_neg h.ne_points]

/-- What has been put there is found. -/
theorem Names.locate_put (h : Names t folder p parent name) (hslash : endsInSlash p = false)
    (hnot : t.find? (parent ++ [name]) ≠ some .folder) :
    (t.put (parent ++ [name]) entry).locate folder p = .ok (parent ++ [name]) := by
  rw [h.locate_eq (keepsFolders_put hnot) hslash, find?_put (by simp), Option.isSome_some,
    if_pos rfl]

/-- A folder that has been made there is found, with or without a slash. -/
theorem Names.locate_of_folder (h : Names t folder p parent name) (hkeeps : KeepsFolders t t')
    (hfound : t'.find? (parent ++ [name]) = some .folder) :
    t'.locate folder p = .ok (parent ++ [name]) := by
  cases hslash : endsInSlash p with
  | false => rw [h.locate_eq hkeeps hslash, hfound, Option.isSome_some, if_pos rfl]
  | true =>
    have hnames : namesOf p = (properNames p).dropLast ++ ([name] ++ ["."]) := by
      have hof : namesOf p = properNames p ++ ["."] :=
        if_pos (by simpa [endsInSlash] using hslash)
      rw [hof, ← List.append_assoc,
        List.dropLast_append_getLast? _ (Option.mem_def.2 h.getLast?_eq)]
    have hparent := isFolder_iff.2 (hkeeps _ (isFolder_iff.1 h.isFolder))
    rw [locate, if_neg (by simp [h.ne_empty]), hnames, walk_append,
      walk_of_keepsFolders hkeeps h.walk_eq h.isFolder, Except.bind]
    simp [walk, hparent, h.ne_point, h.ne_points, hfound, isFolder_iff.2 hfound]

/-! ### Operations -/

theorem makeFolder_ok (h : t.makeFolder folder p = .ok t') :
    ∃ parent name, Names t folder p parent name ∧ t.find? (parent ++ [name]) = none ∧
      t' = t.put (parent ++ [name]) .folder := by
  obtain ⟨⟨parent, - | name⟩, hnew, h⟩ := exists_of_bind_eq_ok h
  · cases h
  · dsimp only at h
    split at h
    · cases h
    · rename_i hnone
      exact ⟨parent, name, names_of_locateNew hnew, by simpa using hnone, (Except.ok.inj h).symm⟩

theorem write_ok (h : t.write folder p content = .ok t') :
    ∃ parent name, Names t folder p parent name ∧ endsInSlash p = false ∧
      t.find? (parent ++ [name]) ≠ some .folder ∧
      t' = t.put (parent ++ [name]) (.file content) := by
  obtain ⟨⟨parent, - | name⟩, hnew, h⟩ := exists_of_bind_eq_ok h
  · cases h
  · dsimp only at h
    split at h
    · cases h
    · rename_i hslash
      split at h
      · cases h
      · rename_i hnot
        exact ⟨parent, name, names_of_locateNew hnew, by simpa using hslash, hnot,
          (Except.ok.inj h).symm⟩

theorem rename_ok {source target : Path} (h : t.rename folder source target = .ok t') :
    ∃ place content parent name, t.locate folder source = .ok place ∧
      t.find? place = some (.file content) ∧ Names t folder target parent name ∧
      endsInSlash target = false ∧ t.find? (parent ++ [name]) ≠ some .folder ∧
      t' = (t.erase place).put (parent ++ [name]) (.file content) := by
  obtain ⟨place, hplace, h⟩ := exists_of_bind_eq_ok h
  obtain ⟨⟨parent, name⟩, hnew, h⟩ := exists_of_bind_eq_ok h
  dsimp only at h
  split at h
  · rename_i content name hfile
    split at h
    · cases h
    · rename_i hslash
      split at h
      · cases h
      · rename_i hnot
        exact ⟨place, content, parent, name, hplace, hfile, names_of_locateNew hnew,
          by simpa using hslash, hnot, (Except.ok.inj h).symm⟩
  · cases h

/-- What is written by one path and renamed to another is moved from the place
of the one to that of the other. -/
theorem rename_of_write {source target : Path} (hwrite : t.write folder source content = .ok t')
    (hrename : t'.rename folder source target = .ok t'') :
    ∃ parent name parent' name', Names t folder source parent name ∧
      endsInSlash source = false ∧ t.find? (parent ++ [name]) ≠ some .folder ∧
      t' = t.put (parent ++ [name]) (.file content) ∧ Names t' folder target parent' name' ∧
      endsInSlash target = false ∧ t'.find? (parent' ++ [name']) ≠ some .folder ∧
      t'' = (t'.erase (parent ++ [name])).put (parent' ++ [name']) (.file content) := by
  obtain ⟨parent, name, hnames, hslash, hnot, hput⟩ := write_ok hwrite
  obtain ⟨place, content', parent', name', hlocate, hcontent, hnames', hslash', hnot', hmove⟩ :=
    rename_ok hrename
  -- the source still leads to what has just been written
  have hplace : place = parent ++ [name] :=
    Except.ok.inj (hlocate.symm.trans (hput ▸ hnames.locate_put hslash hnot))
  have hsame : content' = content := by
    rw [hplace, hput, find?_put (by simp)] at hcontent
    cases hcontent
    rfl
  rw [hplace, hsame] at hmove
  exact ⟨parent, name, parent', name', hnames, hslash, hnot, hput, hnames', hslash', hnot', hmove⟩

theorem remove_ok (h : t.remove folder p = .ok t') :
    ∃ place content, t.locate folder p = .ok place ∧ t.find? place = some (.file content) ∧
      t' = t.erase place := by
  obtain ⟨place, hplace, h⟩ := exists_of_bind_eq_ok h
  split at h
  · rename_i content hfile
    exact ⟨place, content, hplace, hfile, (Except.ok.inj h).symm⟩
  · cases h

theorem remove_of_locate (h : t.locate folder p = .ok place)
    (hfile : t.find? place = some (.file content)) : t.remove folder p = .ok (t.erase place) := by
  rw [remove, h]
  dsimp only [bind, Except.bind]
  rw [hfile]

/-! ### Trees that differ in the content of files -/

/-- At every place there is the same kind of entry. -/
def SameKinds (t t' : FileTree) : Prop :=
  ∀ place, (t'.find? place).map Entry.kind = (t.find? place).map Entry.kind

theorem sameKinds_put (t : FileTree) (place : Place) (content content' : ByteArray) :
    SameKinds (t.put place (.file content)) (t.put place (.file content')) := by
  intro here
  rcases eq_or_ne here place with rfl | hne
  · rcases eq_or_ne here [] with rfl | hroot
    · rfl
    · rw [find?_put hroot, find?_put hroot]
      rfl
  · rw [find?_put_of_ne hne, find?_put_of_ne hne]

theorem SameKinds.isSome_eq (h : SameKinds t t') (here : Place) :
    (t'.find? here).isSome = (t.find? here).isSome := by
  simpa using congrArg Option.isSome (h here)

theorem SameKinds.isFolder_eq (h : SameKinds t t') (here : Place) :
    t'.isFolder here = t.isFolder here := by
  have hkind := congrArg (Option.any (· = .folder)) (h here)
  rwa [Option.any_map, Option.any_map] at hkind

theorem SameKinds.walk_eq (h : SameKinds t t') (here : Place) (names : List String) :
    t'.walk here names = t.walk here names := by
  induction names generalizing here with
  | nil => rfl
  | cons name names ih => simp only [walk, h.isFolder_eq, h.isSome_eq, ih]

theorem SameKinds.locate_eq (h : SameKinds t t') (folder : Place) (p : Path) :
    t'.locate folder p = t.locate folder p := by
  rw [locate, locate, h.walk_eq]

theorem SameKinds.locateNew_eq (h : SameKinds t t') (folder : Place) (p : Path) :
    t'.locateNew folder p = t.locateNew folder p := by
  simp only [locateNew, h.walk_eq, h.isFolder_eq]

/-- The place of a file, or the error, does not depend on its content. -/
theorem exists_write_eq (t : FileTree) (folder : Place) (p : Path) :
    (∃ e, ∀ content, t.write folder p content = .error e) ∨
    ∃ place, ∀ content, t.write folder p content = .ok (t.put place (.file content)) := by
  simp only [write]
  rcases t.locateNew folder p with e | ⟨parent, - | name⟩
  · exact .inl ⟨e, fun _ => rfl⟩
  · exact .inl ⟨.isFolder, fun _ => rfl⟩
  dsimp only [bind, Except.bind]
  cases endsInSlash p with
  | true => exact .inl ⟨.isFolder, fun _ => rfl⟩
  | false =>
    -- a file that is there already is replaced, a folder is not
    rcases t.find? (parent ++ [name]) with - | - | old
    · exact .inr ⟨parent ++ [name], fun _ => rfl⟩
    · exact .inl ⟨.isFolder, fun _ => rfl⟩
    · exact .inr ⟨parent ++ [name], fun _ => rfl⟩

/-- A file can be moved to the place of another or to a new one, but not to
that of a folder. -/
theorem isOk_rename_iff {source target : Path} :
    (t.rename folder source target).isOk = true ↔
      ∃ place parent name, t.locate folder source = .ok place ∧
        (t.find? place).map Entry.kind = some .file ∧
        t.locateNew folder target = .ok (parent, some name) ∧ endsInSlash target = false ∧
        t.isFolder (parent ++ [name]) = false := by
  constructor
  · intro hok
    rcases hrename : t.rename folder source target with e | t'
    · rw [hrename] at hok
      cases hok
    · obtain ⟨place, content, parent, name, hlocate, hfind, hnames, hslash, hnot, -⟩ :=
        rename_ok hrename
      exact ⟨place, parent, name, hlocate, by rw [hfind]; rfl, locateNew_of_names hnames, hslash,
        by simpa using mt isFolder_iff.1 hnot⟩
  · rintro ⟨place, parent, name, hlocate, hkind, hnew, hslash, hfolder⟩
    obtain ⟨entry, hfind, hentry⟩ := Option.map_eq_some_iff.1 hkind
    rcases entry with - | content
    · cases hentry
    · have hnot : t.find? (parent ++ [name]) ≠ some .folder :=
        mt isFolder_iff.2 (by simp [hfolder])
      simp only [rename, hlocate, hnew, hfind, hslash, bind, Except.bind]
      rcases hother : t.find? (parent ++ [name]) with - | - | other
      · rfl
      · exact absurd hother hnot
      · rfl

theorem SameKinds.isOk_rename_eq (h : SameKinds t t') (folder : Place) (source target : Path) :
    (t'.rename folder source target).isOk = (t.rename folder source target).isOk := by
  rw [Bool.eq_iff_iff, isOk_rename_iff, isOk_rename_iff]
  simp only [h.locate_eq, h.locateNew_eq, h _, h.isFolder_eq]

/-! ### What is left alone -/

/-- Apart from the touched places there is in `t'` what there is in `t`, but
for new folders, and to each of them one of the ways leads. -/
def Spares (folder : Place) (ways : List Path) (touched : List Place) (t t' : FileTree) : Prop :=
  ∀ place ∉ touched, t'.find? place = t.find? place ∨
    t.find? place = none ∧ t'.find? place = some .folder ∧
      ∃ way ∈ ways, t'.locate folder way = .ok place

variable {ways ways' : List Path} {touched touched' : List Place}

theorem Spares.refl (folder : Place) (ways : List Path) (touched : List Place) (t : FileTree) :
    Spares folder ways touched t t := fun _ _ => .inl rfl

theorem Spares.mono (h : Spares folder ways touched t t') (hways : ways ⊆ ways')
    (htouched : touched ⊆ touched') : Spares folder ways' touched' t t' := by
  intro place hplace
  rcases h place fun hmem => hplace (htouched hmem) with heq | ⟨hnone, hnew, way, hway, hlocate⟩
  · exact .inl heq
  · exact .inr ⟨hnone, hnew, way, hways hway, hlocate⟩

/-- One operation after another: the ways to new folders stay open. -/
theorem Spares.trans (h : Spares folder ways touched t t') (h' : Spares folder ways touched t' t'')
    (hkeeps : KeepsFolders t' t'') : Spares folder ways touched t t'' := by
  intro place hplace
  rcases h place hplace with heq | ⟨hnone, hnew, way, hway, hlocate⟩
  · rcases h' place hplace with heq' | ⟨hnone', hnew', hway'⟩
    · exact .inl (heq'.trans heq)
    · exact .inr ⟨heq ▸ hnone', hnew', hway'⟩
  · exact .inr ⟨hnone, hkeeps place hnew, way, hway, locate_of_keepsFolders hkeeps hlocate hnew⟩

end TextRoadmap.FileTree
