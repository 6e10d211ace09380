/-
TextRoadmap/Proofs/CommandLine/Loading.lean

Which settings a run of the program loads.

What is loaded from a file depends on what stands at its path and on nothing
else (`loadFile_eq`).  A run that is started in a place below a project, with
no other project on the way, finds that project and loads its settings
together with those of the user (`load_eq`); the file of the user has a name
of its own, so a change of the project's file does not touch it
(`loadUser_eq_of_sameBut`).
-/
import Mathlib.Data.List.Induction
import TextRoadmap.Proofs.CommandLine.Task
import TextRoadmap.Proofs.Files.Folder

namespace TextRoadmap.CommandLine

open FileTree

variable {α : Type} {w : World} {t t' : FileTree} {root here q : Place} {env : Environment}

/-! ### Files with settings -/

/-- The settings in what stands at the path of a file. -/
def settingsIn (whose : String) (empty : α) (read? : String → Option α) (file : Path) :
    Option Entry → Except Failure α
  | none => .ok empty
  | some .folder => .error (.reading s!"{whose} config: {file.text}" .isFolder)
  | some (.file content) =>
    match Machine.decode content with
    | .error e => .error (.reading s!"{whose} config: {file.text}" e)
    | .ok text =>
      match read? text with
      | some settings => .ok settings
      | none => .error (.settingsDocument whose)

theorem kind?_eq (p : Path) (w : World) :
    (Machine.kind? (m := StateM World) p w).1 = (w.tree.at? w.folder p).map Entry.kind := by
  show ((w.tree.locate w.folder p).toOption.bind fun place =>
    (w.tree.find? place).map Entry.kind) = _
  rw [at?]
  cases w.tree.locate w.folder p <;> rfl

/-- What stands at a path can be read if it is a file. -/
theorem readText_of_at? {p : Path} {entry : Entry} (h : w.tree.at? w.folder p = some entry) :
    Machine.readText (m := StateM World) p w =
      (match entry with
        | .folder => .error .isFolder
        | .file content => Machine.decode content, w) := by
  rcases hlocate : w.tree.locate w.folder p with e | place
  · rw [at?, hlocate] at h
    cases h
  · have hfind : w.tree.find? place = some entry := by
      rw [at?, hlocate] at h
      exact h
    show ((w.tree.read w.folder p).bind Machine.decode, w) = _
    rw [FileTree.read, hlocate]
    dsimp only [bind, Except.bind]
    rw [hfind]
    cases entry <;> rfl

/-- A file is read if there is anything at its path. -/
theorem loadFile_eq (whose : String) (empty : α) (read? : String → Option α) (file : Path)
    (w : World) :
    (loadFile (m := StateM World) whose empty read? file w).1 =
      settingsIn whose empty read? file (w.tree.at? w.folder file) := by
  have hkind : Machine.kind? (m := StateM World) file w =
      ((w.tree.at? w.folder file).map Entry.kind, w) := Prod.ext (kind?_eq file w) rfl
  simp only [loadFile, Machine.exists?, bind_assoc, pure_bind]
  simp only [bind, StateT.bind, hkind]
  rcases hat : w.tree.at? w.folder file with - | entry
  · rfl
  · simp only [Option.map_some, Option.isSome_some, if_true, StateT.bind, readText_of_at? hat]
    rcases entry with - | content
    · rfl
    · dsimp only [settingsIn]
      rcases Machine.decode content with e | text
      · rfl
      · show ((match read? text with
          | some settings => pure (.ok settings)
          | none => pure (.error (.settingsDocument whose)) :
            StateM World (Except Failure α)) w).1 =
          match read? text with
          | some settings => .ok settings
          | none => .error (.settingsDocument whose)
        cases read? text <;> rfl

theorem isFile_eq (p : Path) (w : World) :
    (Machine.isFile (m := StateM World) p w).1 =
      (w.tree.at? w.folder p).any fun entry => entry.kind = .file := by
  show decide ((Machine.kind? (m := StateM World) p w).1 = some .file) = _
  rw [kind?_eq]
  rcases w.tree.at? w.folder p with - | - | content <;> rfl

/-! ### The file of the project -/

/-- The place of the file with the settings of the project in a folder. -/
def settingsPlace (root : Place) : Place := root ++ [projectFile.text]

theorem isName_projectFile : IsName projectFile.text := by decide

theorem isName_of_mem_settingsPlace (hnames : ∀ n ∈ here, IsName n) :
    ∀ n ∈ settingsPlace here, IsName n := by
  simpa [settingsPlace, or_imp, forall_and] using ⟨hnames, isName_projectFile⟩

theorem join_projectFile (hnames : ∀ n ∈ here, IsName n) :
    (pathTo here).join projectFile = pathTo (settingsPlace here) :=
  join_pathTo hnames isName_projectFile

/-- A file with settings of a project stands in the folder. -/
def HasSettings (t : FileTree) (root : Place) : Prop :=
  ∃ content, t.find? (settingsPlace root) = some (.file content)

theorem hasSettings_iff : HasSettings t root ↔
    ((t.find? (settingsPlace root)).any fun entry => entry.kind = .file) = true := by
  rw [HasSettings]
  rcases t.find? (settingsPlace root) with - | - | content <;> simp [Entry.kind]

instance (t : FileTree) (root : Place) : Decidable (HasSettings t root) :=
  decidable_of_iff _ hasSettings_iff.symm

theorem at?_settingsPlace (hnames : ∀ n ∈ here, IsName n) (hopen : t.IsOpen here)
    (folder : Place) :
    t.at? folder (pathTo (settingsPlace here)) = t.find? (settingsPlace here) :=
  at?_pathTo (isName_of_mem_settingsPlace hnames) hopen folder

theorem isFile_settingsPlace (hnames : ∀ n ∈ here, IsName n) (hopen : w.tree.IsOpen here) :
    (Machine.isFile (m := StateM World) ((pathTo here).join projectFile) w).1 = true ↔
      HasSettings w.tree here := by
  rw [join_projectFile hnames, isFile_eq, at?_settingsPlace hnames hopen, hasSettings_iff]

/-! ### The folder of the project -/

theorem findRoot_cons (folder : Path) (above : List Path) (w : World) :
    (findRoot (m := StateM World) (folder :: above) w).1 =
      if (Machine.isFile (m := StateM World) (folder.join projectFile) w).1 = true then some folder
      else (findRoot (m := StateM World) above w).1 := by
  have hfile : Machine.isFile (m := StateM World) (folder.join projectFile) w =
      ((Machine.isFile (m := StateM World) (folder.join projectFile) w).1, w) := rfl
  simp only [findRoot, bind, StateT.bind]
  rw [hfile]
  cases (Machine.isFile (m := StateM World) (folder.join projectFile) w).1 <;> rfl

theorem findRoot_eq_none (hnames : ∀ n ∈ here, IsName n) (hopen : w.tree.IsOpen here)
    (h : ∀ q, q <+: here → ¬ HasSettings w.tree q) :
    (findRoot (m := StateM World) (pathTo here).ancestors w).1 = none := by
  induction here using List.reverseRecOn with
  | nil =>
    rw [ancestors_pathTo_nil, findRoot_cons,
      if_neg fun hfile => h [] (List.prefix_refl _) ((isFile_settingsPlace hnames hopen).1 hfile)]
    rfl
  | append_singleton place name ih =>
    have hplace : place <+: place ++ [name] := List.prefix_append ..
    rw [ancestors_pathTo_concat hnames, findRoot_cons,
      if_neg fun hfile => h _ (List.prefix_refl _) ((isFile_settingsPlace hnames hopen).1 hfile)]
    exact ih (fun n hn => hnames n (List.mem_append_left _ hn)) (hopen.above hplace)
      fun q hq => h q (hq.trans hplace)

/-- The project is found from all folders below it, if there is no other on
the way. -/
theorem findRoot_eq_some (hnames : ∀ n ∈ here, IsName n) (hopen : w.tree.IsOpen here)
    (hroot : root <+: here) (hfile : HasSettings w.tree root)
    (honly : ∀ q, q <+: here → HasSettings w.tree q → q = root) :
    (findRoot (m := StateM World) (pathTo here).ancestors w).1 = some (pathTo root) := by
  -- the folders are asked nearest first, so the induction is from the end of the place
  induction here using List.reverseRecOn with
  | nil =>
    obtain rfl := List.prefix_nil.1 hroot
    rw [ancestors_pathTo_nil, findRoot_cons, if_pos ((isFile_settingsPlace hnames hopen).2 hfile)]
  | append_singleton place name ih =>
    have hplace : place <+: place ++ [name] := List.prefix_append ..
    rw [ancestors_pathTo_concat hnames, findRoot_cons]
    by_cases hhere : HasSettings w.tree (place ++ [name])
    · rw [if_pos ((isFile_settingsPlace hnames hopen).2 hhere),
        honly _ (List.prefix_refl _) hhere]
    · rw [if_neg fun hfile => hhere ((isFile_settingsPlace hnames hopen).1 hfile)]
      rcases List.prefix_concat_iff.1 hroot with rfl | hroot
      · exact absurd hfile hhere
      · exact ih (fun n hn => hnames n (List.mem_append_left _ hn)) (hopen.above hplace) hroot
          fun q hq => honly q (hq.trans hplace)

/-! ### The file of the user -/

/-- A name below a path ends the path. -/
theorem exists_endsIn_join {p : Path} (h : '/' ∉ p.chars) (folder : Path) :
    ∃ front, EndsIn (folder.join p).chars front p.chars := by
  rw [Path.join]
  split_ifs with htop hslash
  · exact ⟨[], rfl, h, .inl rfl⟩
  · obtain ⟨rest, hrest⟩ := List.getLast?_eq_some_iff.1 hslash
    exact ⟨folder.chars, by simp [Path.chars], h, .inr ⟨rest, hrest⟩⟩
  · exact ⟨folder.chars ++ ['/'], by simp [Path.chars], h, .inr ⟨folder.chars, rfl⟩⟩

/-- What the user's settings are read from is no file of a project. -/
theorem at?_userFile_of_sameBut (h : SameBut (settingsPlace root) t t') (folder : Path)
    (here : Place) : t'.at? here (folder.join userFile) = t.at? here (folder.join userFile) := by
  obtain ⟨front, hends⟩ := exists_endsIn_join (p := userFile) (by decide) folder
  have hname : (properNames (folder.join userFile)).getLast? = some userFile.text :=
    hends.getLast?_properNames (by decide)
  have hslash : endsInSlash (folder.join userFile) = false := by
    rw [endsInSlash, hends.eq_append, List.getLast?_append_of_ne_nil _ (by decide)]
    decide
  refine h.at?_eq hname hslash (by decide) (by decide) ?_ here
  rw [settingsPlace, List.getLast?_concat]
  decide

theorem loadUser_eq_of_sameBut (h : SameBut (settingsPlace root) t t') (env : Environment)
    (w : World) :
    (loadUser (m := StateM World) env { w with tree := t' }).1 =
      (loadUser (m := StateM World) env { w with tree := t }).1 := by
  rw [loadUser]
  rcases env.userFolder? with - | folder
  · rfl
  · dsimp only
    rw [loadFile_eq, loadFile_eq]
    exact congrArg _ (at?_userFile_of_sameBut h folder w.folder)

/-! ### Loading -/

/-- The settings of the project in a folder, if they can be read; without a
file there are none. -/
def projectSettings? (t : FileTree) (root : Place) : Option ProjectSettings :=
  match t.find? (settingsPlace root) with
  | some (.file content) => (Machine.decode content).toOption.bind ProjectSettings.read?
  | _ => some {}

theorem projectSettings?_of_not_hasSettings (h : ¬ HasSettings t root) :
    projectSettings? t root = some {} := by
  rw [projectSettings?]
  split
  · exact absurd ⟨_, ‹_›⟩ h
  · rfl

theorem settingsIn_project {project : ProjectSettings} (hfile : HasSettings t root)
    (h : projectSettings? t root = some project) (file : Path) :
    settingsIn "project" {} ProjectSettings.read? file (t.find? (settingsPlace root)) =
      .ok project := by
  obtain ⟨content, hcontent⟩ := hfile
  simp only [projectSettings?, hcontent] at h
  rw [hcontent, settingsIn]
  obtain ⟨text, htext, hread⟩ := Option.bind_eq_some_iff.1 h
  rcases hdecode : Machine.decode content with e | text'
  · rw [hdecode] at htext
    cases htext
  · rw [hdecode] at htext
    cases htext
    simp only [hread]

/-- A run below a project that is the only one on the way loads its settings
and those of the user. -/
theorem load_eq {user : UserSettings} {project : ProjectSettings}
    (hfolder : env.folder = pathTo w.folder) (hnames : ∀ n ∈ w.folder, IsName n)
    (hopen : w.tree.IsOpen w.folder) (hroot : root <+: w.folder)
    (honly : ∀ q, q <+: w.folder → HasSettings w.tree q → q = root)
    (huser : (loadUser (m := StateM World) env w).1 = .ok user)
    (hproject : projectSettings? w.tree root = some project) :
    ∃ found, (load (m := StateM World) env w).1 = .ok ⟨⟨project, user⟩, found⟩ ∧
      (HasSettings w.tree root → found = some (pathTo root)) ∧
      (¬ HasSettings w.tree root → found = none) := by
  have hload : ∀ found, (findRoot (m := StateM World) env.folder.ancestors w).1 = found →
      (loadProject (m := StateM World) found w).1 = .ok project →
      (load (m := StateM World) env w).1 = .ok ⟨⟨project, user⟩, found⟩ := by
    intro found hfound hfile
    have huser' : loadUser (m := StateM World) env w = (.ok user, w) :=
      Prod.ext huser (readOnly_loadUser env w)
    have hfound' : findRoot (m := StateM World) env.folder.ancestors w = (found, w) :=
      Prod.ext hfound (readOnly_findRoot _ w)
    have hfile' : loadProject (m := StateM World) found w = (.ok project, w) :=
      Prod.ext hfile (readOnly_loadProject found w)
    simp only [load, bind, StateT.bind, huser', hfound', hfile']
    rfl
  by_cases hfile : HasSettings w.tree root
  · refine ⟨some (pathTo root), hload _ ?_ ?_, fun _ => rfl, fun h => absurd hfile h⟩
    · rw [hfolder]
      exact findRoot_eq_some hnames hopen hroot hfile honly
    · have hnames' : ∀ n ∈ root, IsName n := fun n hn => hnames n (hroot.subset hn)
      rw [loadProject, join_projectFile hnames', loadFile_eq,
        at?_settingsPlace hnames' (hopen.above hroot)]
      exact settingsIn_project hfile hproject _
  · refine ⟨none, hload _ ?_ ?_, fun h => absurd h hfile, fun _ => rfl⟩
    · rw [hfolder]
      refine findRoot_eq_none hnames hopen fun q hq hq' => hfile ?_
      exact honly q hq hq' ▸ hq'
    · rw [projectSettings?_of_not_hasSettings hfile] at hproject
      exact congrArg Except.ok (Option.some.inj hproject)

end TextRoadmap.CommandLine
