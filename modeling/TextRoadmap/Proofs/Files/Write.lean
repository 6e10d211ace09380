/-
TextRoadmap/Proofs/Files/Write.lean

Writing a file in one step leaves everything else alone.

Folders may come into being on the way to the file, and stay (`Makes`).  Then
there are two ends: the file has its new content and nothing else has changed,
or nothing has changed at all (`writeFile_cases`).  In both ends the temporary
file is gone, provided that there was no file of its name when it was made.
Which end it is does not depend on the content (`isOk_writeFile_eq`).
-/
import TextRoadmap.Proofs.Files.Path

namespace TextRoadmap

open FileTree

variable {α β : Type} {w w' w'' : World} {ways : List Path} {touched : List Place} {p : Path}
variable {place : Place} {bytes : ByteArray}

/-! ### Machines before and after -/

/-- Apart from the touched places and new folders on the ways, the machine is
as before. -/
structure World.Spares (ways : List Path) (touched : List Place) (w w' : World) : Prop where
  tree : FileTree.Spares w.folder ways touched w.tree w'.tree
  folders : KeepsFolders w.tree w'.tree
  rest : w' = { w with tree := w'.tree }

theorem World.Spares.refl (ways : List Path) (touched : List Place) (w : World) :
    w.Spares ways touched w :=
  ⟨FileTree.Spares.refl w.folder ways touched w.tree, KeepsFolders.refl w.tree, rfl⟩

theorem World.Spares.trans (h : w.Spares ways touched w') (h' : w'.Spares ways touched w'') :
    w.Spares ways touched w'' where
  tree := by
    have htree := h'.tree
    rw [h.rest] at htree
    exact h.tree.trans htree h'.folders
  folders := h.folders.trans h'.folders
  rest := by rw [h'.rest, h.rest]

theorem World.Spares.mono {ways' : List Path} {touched' : List Place}
    (h : w.Spares ways touched w') (hways : ways ⊆ ways') (htouched : touched ⊆ touched') :
    w.Spares ways' touched' w' :=
  ⟨h.tree.mono hways htouched, h.folders, h.rest⟩

/-! ### Folders -/

/-- The operation makes folders on the ways at most. -/
def Makes (ways : List Path) (operation : StateM World α) : Prop :=
  ∀ w : World, w.Spares ways [] (operation w).2

theorem makes_pure (ways : List Path) (a : α) : Makes ways (pure a) :=
  fun w => World.Spares.refl ways [] w

theorem Makes.bind {x : StateM World α} {f : α → StateM World β} (hx : Makes ways x)
    (hf : ∀ a, Makes ways (f a)) : Makes ways (x >>= f) :=
  fun w => (hx w).trans (hf (x w).1 (x w).2)

theorem makes_kind? (ways : List Path) (p : Path) : Makes ways (Machine.kind? p) :=
  fun w => World.Spares.refl ways [] w

theorem makes_makeFolder (h : p ∈ ways) : Makes ways (Machine.makeFolder p) := by
  intro w
  show w.Spares ways [] (World.change (fun w => w.tree.makeFolder w.folder p) w).2
  rcases hmake : w.tree.makeFolder w.folder p with e | t
  · simp only [World.change, hmake]
    exact .refl _ _ w
  · -- the new folder is the only new entry, and the path leads to it
    simp only [World.change, hmake]
    obtain ⟨parent, name, hnames, hnone, rfl⟩ := makeFolder_ok hmake
    have hfolders : KeepsFolders w.tree (w.tree.put (parent ++ [name]) .folder) :=
      keepsFolders_put (by simp [hnone])
    have hfound : (w.tree.put (parent ++ [name]) .folder).find? (parent ++ [name]) =
        some .folder := find?_put (by simp)
    refine ⟨fun place _ => ?_, hfolders, rfl⟩
    by_cases hplace : place = parent ++ [name]
    · subst hplace
      exact .inr ⟨hnone, hfound, p, h, hnames.locate_of_folder hfolders hfound⟩
    · exact .inl (find?_put_of_ne hplace)

theorem makes_ensureFolder (h : p ∈ ways) :
    Makes ways (Machine.ensureFolder (m := StateM World) p) := by
  refine (makes_makeFolder h).bind fun result => ?_
  rcases result with e | _
  · refine (makes_kind? ways p).bind fun kind => ?_
    split <;> exact makes_pure ways _
  · exact makes_pure ways _

theorem makes_makeFolders {paths : List Path} (h : paths ⊆ ways) :
    Makes ways (Machine.makeFolders (m := StateM World) paths) := by
  induction paths with
  | nil => exact makes_pure ways _
  | cons p above ih =>
    have hp := h (List.mem_cons_self ..)
    rw [Machine.makeFolders]
    split
    · exact makes_pure ways _
    · refine (makes_makeFolder hp).bind fun result => ?_
      split
      · exact makes_pure ways _
      · -- the folder above is missing, so it is made first
        refine (ih fun q hq => h (List.mem_cons_of_mem _ hq)).bind fun result => ?_
        rcases result with e | _
        · exact makes_pure ways _
        · exact makes_ensureFolder hp
      · refine (makes_kind? ways p).bind fun kind => ?_
        split <;> exact makes_pure ways _

/-! ### The file -/

theorem isFile_eq_false_iff : (Machine.isFile (m := StateM World) p w).1 = false ↔
    ∀ place content, w.tree.locate w.folder p = .ok place →
      w.tree.find? place ≠ some (.file content) := by
  show decide (((w.tree.locate w.folder p).toOption.bind fun place =>
    (w.tree.find? place).map Entry.kind) = some .file) = false ↔ _
  rcases w.tree.locate w.folder p with e | place
  · simp [Except.toOption]
  · -- a path leads to one place at most
    have hone : (∀ place' content, Except.ok (ε := FileError) place = .ok place' →
        w.tree.find? place' ≠ some (.file content)) ↔
        ∀ content, w.tree.find? place ≠ some (.file content) := by
      simp only [Except.ok.injEq]
      exact ⟨fun h content => h place content rfl,
        fun h place' content hplace => hplace ▸ h content⟩
    rw [hone]
    change decide ((w.tree.find? place).map Entry.kind = some .file) = false ↔ _
    rcases w.tree.find? place with - | - | content <;> simp [Entry.kind]

/-- What has become of the file at the end of writing it. -/
structure Written (ways : List Path) (p : Path) (bytes : ByteArray) (place : Place)
    (w w' : World) : Prop where
  spares : w.Spares ways [place] w'
  locate_eq : w'.tree.locate w'.folder p = .ok place
  find?_eq : w'.tree.find? place = some (.file bytes)
  temporary : (Machine.isFile (m := StateM World) (Machine.temporaryOf p) w').1 = false

theorem write_eq (p : Path) (bytes : ByteArray) (w : World) :
    Machine.write (m := StateM World) p bytes w =
      match w.tree.write w.folder p bytes with
      | .ok tree => (.ok (), { w with tree })
      | .error e => (.error ⟨.create, e⟩, w) := by
  simp only [Machine.write, World.change, bind, StateT.bind]
  rcases w.tree.write w.folder p bytes with e | t <;> rfl

theorem rename_eq (source target : Path) (w : World) :
    Machine.rename (m := StateM World) source target w =
      match w.tree.rename w.folder source target with
      | .ok tree => (.ok (), { w with tree })
      | .error e => (.error e, w) := rfl

theorem remove_eq (p : Path) (w : World) :
    Machine.remove (m := StateM World) p w =
      match w.tree.remove w.folder p with
      | .ok tree => (.ok (), { w with tree })
      | .error e => (.error e, w) := rfl

/-- Writing in place changes the file or nothing. -/
theorem write_cases (p : Path) (bytes : ByteArray) (w : World) :
    (∃ e, Machine.write (m := StateM World) p bytes w = (.error e, w)) ∨
    ∃ place w', Machine.write (m := StateM World) p bytes w = (.ok (), w') ∧
      w.Spares [] [place] w' ∧ w'.tree.locate w'.folder p = .ok place ∧
      w'.tree.find? place = some (.file bytes) := by
  rw [write_eq]
  rcases hwrite : w.tree.write w.folder p bytes with e | t
  · exact .inl ⟨_, rfl⟩
  · obtain ⟨parent, name, hnames, hslash, hnot, rfl⟩ := write_ok hwrite
    refine .inr ⟨parent ++ [name], _, rfl,
      ⟨fun place hplace => .inl ?_, keepsFolders_put hnot, rfl⟩,
      hnames.locate_put hslash hnot, find?_put (by simp)⟩
    exact find?_put_of_ne (by simpa using hplace)

/-- Where there is no file, removing one changes nothing. -/
theorem remove_of_isFile_eq_false (h : (Machine.isFile (m := StateM World) p w).1 = false) :
    (Machine.remove (m := StateM World) p w).2 = w := by
  rw [remove_eq]
  rcases hremove : w.tree.remove w.folder p with e | t
  · rfl
  · obtain ⟨place, content, hlocate, hfind, -⟩ := remove_ok hremove
    exact absurd hfind (isFile_eq_false_iff.1 h place content hlocate)

/-- A place for a file at which there is neither a file nor a folder is free. -/
theorem find?_eq_none_of_isFile_eq_false {parent : Place} {name : String}
    (hfree : (Machine.isFile (m := StateM World) p w).1 = false)
    (hnames : Names w.tree w.folder p parent name) (hslash : endsInSlash p = false)
    (hnot : w.tree.find? (parent ++ [name]) ≠ some .folder) :
    w.tree.find? (parent ++ [name]) = none := by
  rcases hfind : w.tree.find? (parent ++ [name]) with - | - | content
  · rfl
  · exact absurd hfind hnot
  · have hlocate := hnames.locate_eq (.refl w.tree) hslash
    rw [hfind, Option.isSome_some, if_pos rfl] at hlocate
    exact absurd hfind (isFile_eq_false_iff.1 hfree _ content hlocate)

/-- A temporary file that could not be put in its place is removed, and
nothing is left of it. -/
theorem spares_remove_of_write {t : FileTree}
    (hfree : (Machine.isFile (m := StateM World) p w).1 = false)
    (hwrite : w.tree.write w.folder p bytes = .ok t) :
    w.Spares [] [] (Machine.remove (m := StateM World) p { w with tree := t }).2 := by
  obtain ⟨parent, name, hnames, hslash, hnot, rfl⟩ := write_ok hwrite
  have hne : parent ++ [name] ≠ [] := by simp
  have hnone := find?_eq_none_of_isFile_eq_false hfree hnames hslash hnot
  have hput : KeepsFolders w.tree (w.tree.put (parent ++ [name]) (.file bytes)) :=
    keepsFolders_put hnot
  have hfound : (w.tree.put (parent ++ [name]) (.file bytes)).find? (parent ++ [name]) =
      some (.file bytes) := find?_put hne
  simp only [remove_eq, remove_of_locate (hnames.locate_put hslash hnot) hfound]
  exact ⟨fun place _ => .inl (find?_erase_put hne hnone place),
    hput.trans (keepsFolders_erase (by simp [hfound])), rfl⟩

/-- A temporary file that has been put in its place has become the file, and
nothing else has changed. -/
theorem exists_written_of_rename {t t' : FileTree}
    (hfree : (Machine.isFile (m := StateM World) (Machine.temporaryOf p) w).1 = false)
    (hwrite : w.tree.write w.folder (Machine.temporaryOf p) bytes = .ok t)
    (hrename : t.rename w.folder (Machine.temporaryOf p) p = .ok t') :
    ∃ place, Written [] p bytes place w { w with tree := t' } := by
  obtain ⟨parent, name, parent', name', hnames, hslash, hnot, rfl, hnames', hslash', hnot', rfl⟩ :=
    rename_of_write hwrite hrename
  have hnone := find?_eq_none_of_isFile_eq_false hfree hnames hslash hnot
  have hother := hnames.temporaryOf_ne hnames' hslash'
  have hput : KeepsFolders w.tree (w.tree.put (parent ++ [name]) (.file bytes)) :=
    keepsFolders_put hnot
  have hmove : KeepsFolders (w.tree.put (parent ++ [name]) (.file bytes))
      (((w.tree.put (parent ++ [name]) (.file bytes)).erase (parent ++ [name])).put
        (parent' ++ [name']) (.file bytes)) :=
    keepsFolders_move (by simp [find?_put]) hnot' hother.symm
  have hmoved : (((w.tree.put (parent ++ [name]) (.file bytes)).erase (parent ++ [name])).put
      (parent' ++ [name']) (.file bytes)).find? (parent' ++ [name']) = some (.file bytes) :=
    find?_put (by simp)
  refine ⟨parent' ++ [name'], ⟨fun place hplace => .inl ?_, hput.trans hmove, rfl⟩, ?_, hmoved, ?_⟩
  · exact find?_put_move (by simp) hnone (by simpa using hplace)
  · have htarget := hnames'.locate_eq hmove hslash'
    rw [hmoved, Option.isSome_some, if_pos rfl] at htarget
    exact htarget
  · -- the temporary file was the only one at its place
    refine isFile_eq_false_iff.2 fun place content hplace _ => ?_
    have hgone := hnames.locate_eq (hput.trans hmove) hslash
    rw [find?_put_move (by simp) hnone hother, hnone, Option.isSome_none, if_neg (by simp)] at hgone
    rw [hgone] at hplace
    cases hplace

/-! ### Writing -/

/-- Writing by way of a temporary file, when the folders have been made. -/
theorem replaceFile_eq (p : Path) (bytes : ByteArray) (w : World) :
    Machine.replaceFile (m := StateM World) p bytes w =
      match w.tree.write w.folder (Machine.temporaryOf p) bytes with
      | .error e => (.error (.temporary (Machine.temporaryOf p) ⟨.create, e⟩), w)
      | .ok t =>
        match t.rename w.folder (Machine.temporaryOf p) p with
        | .error e => (.error (.rename (Machine.temporaryOf p) p e), { w with tree := t })
        | .ok t' => (.ok (), { w with tree := t' }) := by
  simp only [Machine.replaceFile, bind, StateT.bind, write_eq]
  rcases w.tree.write w.folder (Machine.temporaryOf p) bytes with e | t
  · rfl
  · simp only [StateT.bind, rename_eq]
    rcases t.rename w.folder (Machine.temporaryOf p) p with e | t' <;> rfl

/-- Writing: folders first, and the temporary file is cleared away at last. -/
theorem writeFile_eq (p : Path) (bytes : ByteArray) (w : World) :
    Machine.writeFile (m := StateM World) p bytes w =
      match Machine.makeFolders (m := StateM World) (Machine.foldersOf p) w with
      | (.error e, w') => (.error (.folder ((p.parent?).getD p) e), w')
      | (.ok (), w') =>
        match Machine.replaceFile (m := StateM World) p bytes w' with
        | (.ok (), w'') => (.ok (), w'')
        | (.error e, w'') =>
          (.error e, (Machine.remove (m := StateM World) (Machine.temporaryOf p) w'').2) := by
  rw [Machine.writeFile]
  simp only [bind, StateT.bind]
  rcases Machine.makeFolders (m := StateM World) (Machine.foldersOf p) w with ⟨e | ⟨⟨⟩⟩, w'⟩
  · rfl
  · simp only [StateT.bind]
    rcases Machine.replaceFile (m := StateM World) p bytes w' with ⟨e | ⟨⟨⟩⟩, w''⟩ <;> rfl

/-- A file is written when the folders have been made; if that fails there is
nothing left to be removed. -/
theorem replaceFile_cases (bytes : ByteArray)
    (hfree : (Machine.isFile (m := StateM World) (Machine.temporaryOf p) w).1 = false) :
    (∃ e w', Machine.replaceFile (m := StateM World) p bytes w = (.error e, w') ∧
      w.Spares [] [] (Machine.remove (m := StateM World) (Machine.temporaryOf p) w').2) ∨
    ∃ place w', Machine.replaceFile (m := StateM World) p bytes w = (.ok (), w') ∧
      Written [] p bytes place w w' := by
  rw [replaceFile_eq]
  rcases hwrite : w.tree.write w.folder (Machine.temporaryOf p) bytes with e | t
  · refine .inl ⟨_, w, rfl, ?_⟩
    rw [remove_of_isFile_eq_false hfree]
    exact .refl ..
  · dsimp only
    rcases hrename : t.rename w.folder (Machine.temporaryOf p) p with e | t'
    · exact .inl ⟨_, _, rfl, spares_remove_of_write hfree hwrite⟩
    · obtain ⟨place, hwritten⟩ := exists_written_of_rename hfree hwrite hrename
      exact .inr ⟨place, _, rfl, hwritten⟩

/-- **Writing a file** changes it or nothing, but for folders on the way to
it: if there is no file of the temporary name when the folders have been made,
there is none afterwards either. -/
theorem writeFile_cases (bytes : ByteArray)
    (hfree : (Machine.isFile (m := StateM World) (Machine.temporaryOf p)
      (Machine.makeFolders (m := StateM World) (Machine.foldersOf p) w).2).1 = false) :
    (∃ e w', Machine.writeFile (m := StateM World) p bytes w = (.error e, w') ∧
      w.Spares (Machine.foldersOf p) [] w') ∨
    ∃ place w', Machine.writeFile (m := StateM World) p bytes w = (.ok (), w') ∧
      Written (Machine.foldersOf p) p bytes place w w' := by
  have hmakes := makes_makeFolders (List.Subset.refl (Machine.foldersOf p)) w
  rw [writeFile_eq]
  generalize Machine.makeFolders (m := StateM World) (Machine.foldersOf p) w = made
    at hfree hmakes ⊢
  rcases made with ⟨e | ⟨⟨⟩⟩, w'⟩
  · exact .inl ⟨_, w', rfl, hmakes⟩
  · rcases replaceFile_cases bytes hfree with
      ⟨e, w'', hreplace, hspares⟩ | ⟨place, w'', hreplace, hwritten⟩
    · simp only [hreplace]
      exact .inl ⟨e, _, rfl,
        hmakes.trans (hspares.mono (List.nil_subset _) (List.Subset.refl _))⟩
    · simp only [hreplace]
      refine .inr ⟨place, w'', rfl, ?_, hwritten.locate_eq, hwritten.find?_eq, hwritten.temporary⟩
      exact (hmakes.mono (List.Subset.refl _) (List.nil_subset _)).trans
        (hwritten.spares.mono (List.nil_subset _) (List.Subset.refl _))

/-! ### Writing, whatever the content -/

/-- With the temporary file there, it only remains to rename it. -/
theorem isOk_replaceFile {t : FileTree}
    (h : w.tree.write w.folder (Machine.temporaryOf p) bytes = .ok t) :
    (Machine.replaceFile (m := StateM World) p bytes w).1.isOk =
      (t.rename w.folder (Machine.temporaryOf p) p).isOk := by
  rw [replaceFile_eq, h]
  dsimp only
  cases t.rename w.folder (Machine.temporaryOf p) p <;> rfl

theorem isOk_writeFile (p : Path) (bytes : ByteArray) (w : World) :
    (Machine.writeFile (m := StateM World) p bytes w).1.isOk =
      let made := Machine.makeFolders (m := StateM World) (Machine.foldersOf p) w
      (made.1.isOk && (Machine.replaceFile (m := StateM World) p bytes made.2).1.isOk) := by
  rw [writeFile_eq]
  rcases Machine.makeFolders (m := StateM World) (Machine.foldersOf p) w with ⟨e | ⟨⟨⟩⟩, w'⟩
  · rfl
  · dsimp only
    rcases Machine.replaceFile (m := StateM World) p bytes w' with ⟨e | ⟨⟨⟩⟩, w''⟩ <;> rfl

theorem isOk_replaceFile_eq (p : Path) (bytes bytes' : ByteArray) (w : World) :
    (Machine.replaceFile (m := StateM World) p bytes' w).1.isOk =
      (Machine.replaceFile (m := StateM World) p bytes w).1.isOk := by
  rcases exists_write_eq w.tree w.folder (Machine.temporaryOf p) with ⟨e, hwrite⟩ | ⟨place, hwrite⟩
  · rw [replaceFile_eq, replaceFile_eq, hwrite, hwrite]
  · -- what has been written is a file in either case
    rw [isOk_replaceFile (hwrite bytes), isOk_replaceFile (hwrite bytes')]
    exact (sameKinds_put w.tree place bytes bytes').isOk_rename_eq w.folder _ p

/-- **Whether a file can be written** does not depend on what is to be in
it. -/
theorem isOk_writeFile_eq (p : Path) (bytes bytes' : ByteArray) (w : World) :
    (Machine.writeFile (m := StateM World) p bytes' w).1.isOk =
      (Machine.writeFile (m := StateM World) p bytes w).1.isOk := by
  rw [isOk_writeFile, isOk_writeFile]
  dsimp only
  rw [isOk_replaceFile_eq p bytes bytes']

end TextRoadmap
