/-
TextRoadmap/Proofs/CommandLine/Settings.lean

Settings that are changed one after another.

Each change reads the file of the project, and writes the whole of it again.
A session is any number of changes, started in the folder of the project or,
once there is a file, in folders below it; some of them may be refused.  What
one change does is told by `Invocation.Sets.outcome_cases`, and by induction
on the session the file holds for each key what was set last
(`Session.projectSettings?_eq`).  The commands that follow use that value
unless a flag names another, and otherwise that of the user or the built-in
one (`settings_persist`).  An empty base that was set is a value as well.
-/
import TextRoadmap.Proofs.CommandLine.Documents
import TextRoadmap.Proofs.CommandLine.Effects
import TextRoadmap.Proofs.CommandLine.Loading
import TextRoadmap.Proofs.Settings.Basic
import TextRoadmap.Proofs.Settings.Document

namespace TextRoadmap.CommandLine

open FileTree

variable {start t : FileTree} {root : Place} {user : UserSettings} {project : ProjectSettings}
variable {key value : String} {x y : Invocation}

/-! ### Where the program is started -/

/-- The program is started in a folder in which it finds the project at the
root and no other, and the settings of the user that it finds can be read. -/
structure Invocation.StartsBelow (x : Invocation) (tree : FileTree) (root : Place)
    (user : UserSettings) : Prop where
  folder_eq : x.env.folder = pathTo x.world.folder
  isName : ∀ n ∈ x.world.folder, IsName n
  isOpen : tree.IsOpen x.world.folder
  below : root <+: x.world.folder
  only : ∀ q, q <+: x.world.folder → HasSettings tree q → q = root
  user : (loadUser (m := StateM World) x.env { x.world with tree }).1 = .ok user

/-- What has happened to the file of the project makes no difference for what
is found. -/
theorem Invocation.StartsBelow.exists_load_eq (h : x.StartsBelow start root user)
    (hsame : SameBut (settingsPlace root) start x.world.tree)
    (hproject : projectSettings? x.world.tree root = some project) :
    ∃ found, (load (m := StateM World) x.env x.world).1 = .ok ⟨⟨project, user⟩, found⟩ ∧
      (HasSettings x.world.tree root → found = some (pathTo root)) ∧
      (¬ HasSettings x.world.tree root → found = none) := by
  refine load_eq h.folder_eq h.isName (hsame.isOpen h.isOpen) h.below ?_ ?_ hproject
  · intro q hq ⟨content, hcontent⟩
    by_contra hne
    have hplace : settingsPlace q ≠ settingsPlace root := fun heq =>
      hne (List.append_cancel_right heq)
    rw [hsame.find?_eq _ hplace] at hcontent
    exact hne (h.only q hq ⟨content, hcontent⟩)
  · exact (loadUser_eq_of_sameBut hsame x.env x.world).trans h.user

/-! ### One change -/

/-- The run asks for a change of the project's settings, in the folder of the
project or, if there is a file, below. -/
structure Invocation.Sets (x : Invocation) (start t : FileTree) (root : Place)
    (key value : String) : Prop where
  tree_eq : x.world.tree = t
  starts : ∃ user, x.StartsBelow start root user
  request : ∃ named verbose, readRequest x.args = .ok ⟨named, verbose, .set key value⟩
  folder : x.world.folder = root ∨ HasSettings t root

/-- A run ends as its command does, and leaves what that leaves. -/
theorem Invocation.exists_outcome_after_eq {named : Option OutputFormat} {verbose : Bool}
    {command : Command} {c : Configuration} {result : Except Failure String} {w' : World}
    (hread : readRequest x.args = .ok ⟨named, verbose, command⟩)
    (hload : (load (m := StateM World) x.env x.world).1 = .ok c)
    (h : Task.Yields (perform x.env (named.getD c.settings.user.format) c command) x.world result
      w') :
    ∃ notes, x.outcome = Outcome.of (named.getD c.settings.user.format) verbose result notes ∧
      x.after = w' := by
  obtain ⟨notes, hanswer⟩ := exists_answer_eq named verbose hload rfl h
  refine ⟨notes, ?_, ?_⟩
  · rw [outcome, run, hread]
    exact congrArg Prod.fst hanswer
  · rw [after, run, hread]
    exact congrArg Prod.snd hanswer

/-- The settings are written to the file, if there is no folder in its
place. -/
theorem yields_changeSetting {w : World} {env : Environment} {c : Configuration}
    {settings : ProjectSettings} (format : OutputFormat)
    (hset : c.settings.project.set key value = .ok settings)
    (hfile : (c.root.getD env.folder).join projectFile = pathTo (settingsPlace root))
    (hnames : ∀ n ∈ root, IsName n) (hopen : w.tree.IsOpen root) :
    if w.tree.isFolder (settingsPlace root) then
      Task.Yields (changeSetting env format c key value) w
        (.error (.saving (pathTo (settingsPlace root)) .isFolder)) w
    else
      ∃ out, Task.Yields (changeSetting env format c key value) w (.ok out)
        { w with tree := w.tree.put (settingsPlace root) (.file settings.write.toUTF8) } := by
  have hwrite : Machine.write (m := StateM World) (pathTo (settingsPlace root))
      settings.write.toUTF8 w =
      if w.tree.isFolder (settingsPlace root) then (.error ⟨.create, .isFolder⟩, w)
      else (.ok (), { w with
        tree := w.tree.put (settingsPlace root) (.file settings.write.toUTF8) }) := by
    rw [write_eq, settingsPlace, write_pathTo (isName_of_mem_settingsPlace hnames) hopen]
    cases w.tree.isFolder (root ++ [projectFile.text]) <;> rfl
  have hask := Task.yields_ask (Machine.write (m := StateM World) (pathTo (settingsPlace root))
    settings.write.toUTF8) w
  rw [hwrite] at hask
  rw [changeSetting]
  dsimp only
  rw [hfile]
  split
  · rw [if_pos ‹_›] at hask
    exact (Task.yields_note _ _ w).bind <| (Task.yields_attempt_ok hset w).bind <|
      hask.bind (Task.yields_attempt _ _ w).bind_error
  · rw [if_neg ‹_›] at hask
    cases format
    all_goals exact ⟨_, (Task.yields_note _ _ w).bind <| (Task.yields_attempt_ok hset w).bind <|
      hask.bind <| (Task.yields_attempt_ok rfl _).bind (Task.yields_pure _ _)⟩

theorem projectSettings?_put (t : FileTree) (root : Place) (project : ProjectSettings) :
    projectSettings? (t.put (settingsPlace root) (.file project.write.toUTF8)) root =
      some project := by
  rw [projectSettings?, find?_put (by simp [settingsPlace])]
  dsimp only
  rw [decode_toUTF8]
  exact ProjectSettings.read?_write project

/-- **One change**: it is written to the file of the project, or refused. -/
theorem Invocation.Sets.outcome_cases (h : x.Sets start t root key value)
    (hsame : SameBut (settingsPlace root) start t)
    (hproject : projectSettings? t root = some project) :
    (x.outcome.code = 0 ∧ (IsSetting key value ∧ t.isFolder (settingsPlace root) = false) ∧
      ∃ project' : ProjectSettings,
        (∀ k, project'.value? k = if k.name = key then some value else project.value? k) ∧
        x.after.tree = t.put (settingsPlace root) (.file project'.write.toUTF8)) ∨
    (x.outcome.code = 1 ∧ ¬ (IsSetting key value ∧ t.isFolder (settingsPlace root) = false) ∧
      x.after.tree = t) := by
  obtain ⟨rfl, ⟨user, hstarts⟩, ⟨named, verbose, hread⟩, hfolder⟩ := h
  obtain ⟨found, hload, hfound, hnone⟩ := hstarts.exists_load_eq hsame hproject
  have hnames : ∀ n ∈ root, IsName n := fun n hn => hstarts.isName n (hstarts.below.subset hn)
  have hopen : x.world.tree.IsOpen root := (hsame.isOpen hstarts.isOpen).above hstarts.below
  -- the file is that of the root, whether it is there yet or not
  have hfile : (found.getD x.env.folder).join projectFile = pathTo (settingsPlace root) := by
    rw [← join_projectFile hnames]
    by_cases hhas : HasSettings x.world.tree root
    · rw [hfound hhas, Option.getD_some]
    · rw [hnone hhas, Option.getD_none, hstarts.folder_eq, hfolder.resolve_right hhas]
  by_cases hsetting : IsSetting key value
  · obtain ⟨project', hset, hvalue⟩ := project.exists_set_eq_ok hsetting
    have hyields := yields_changeSetting (c := ⟨⟨project, user⟩, found⟩)
      (named.getD user.format) hset hfile hnames hopen
    split at hyields
    · rename_i hblocked
      obtain ⟨notes, houtcome, hafter⟩ := Invocation.exists_outcome_after_eq hread hload hyields
      refine .inr ⟨by rw [houtcome]; rfl, ?_, by rw [hafter]⟩
      rintro ⟨-, hfree⟩
      rw [hblocked] at hfree
      cases hfree
    · rename_i hfree
      obtain ⟨out, hyields⟩ := hyields
      obtain ⟨notes, houtcome, hafter⟩ := Invocation.exists_outcome_after_eq hread hload hyields
      exact .inl ⟨by rw [houtcome]; rfl, ⟨hsetting, by simpa using hfree⟩, project', hvalue,
        by rw [hafter]⟩
  · obtain ⟨e, hset⟩ := project.exists_set_eq_error hsetting
    have hyields : Task.Yields (changeSetting x.env (named.getD user.format)
        ⟨⟨project, user⟩, found⟩ key value) x.world (.error (.setting e)) x.world := by
      refine (Task.yields_note _ _ _).bind ?_
      rw [hset]
      exact (Task.yields_attempt _ _ _).bind_error
    obtain ⟨notes, houtcome, hafter⟩ := Invocation.exists_outcome_after_eq hread hload hyields
    exact .inr ⟨by rw [houtcome]; rfl, fun h => hsetting h.1, by rw [hafter]⟩

/-! ### Many changes -/

/-- The tree that comes of changes made one after another, with the keys and
values of those that were not refused. -/
inductive Session (start : FileTree) (root : Place) : List (String × String) → FileTree → Prop
  | start : Session start root [] start
  | change {assignments t key value} {x : Invocation} : Session start root assignments t →
      x.Sets start t root key value →
      Session start root
        (if x.outcome.code = 0 then assignments ++ [(key, value)] else assignments) x.after.tree

/-- The value that the key was given last. -/
def lastGiven (assignments : List (String × String)) (key : SettingKey) : Option String :=
  assignments.reverse.lookup key.name

variable {assignments : List (String × String)} {initial : ProjectSettings}

theorem lastGiven_concat (assignments : List (String × String)) (key value : String)
    (k : SettingKey) : lastGiven (assignments ++ [(key, value)]) k =
      if k.name = key then some value else lastGiven assignments k := by
  rw [lastGiven, List.reverse_append, List.reverse_singleton, List.singleton_append,
    List.lookup_cons]
  by_cases h : k.name = key
  · simp [h]
  · have hne : (k.name == key) = false := by simpa using h
    rw [hne, if_neg h]
    rfl

/-- The file holds what was given last, and what it held to begin with where
nothing was given.  Apart from it the tree is as it was. -/
theorem Session.projectSettings?_eq (h : Session start root assignments t)
    (hinitial : projectSettings? start root = some initial) :
    SameBut (settingsPlace root) start t ∧
      ∃ project, projectSettings? t root = some project ∧
        ∀ k, project.value? k = (lastGiven assignments k <|> initial.value? k) := by
  induction h with
  | start => exact ⟨.refl _ _, initial, hinitial, fun k => rfl⟩
  | @change assignments t key value x _ hsets ih =>
    obtain ⟨hsame, project, hproject, hvalue⟩ := ih
    rcases hsets.outcome_cases hsame hproject with
      ⟨hcode, ⟨-, hfree⟩, project', hvalue', htree⟩ | ⟨hcode, -, htree⟩
    · -- the whole file is new, and holds the other key as it was read
      rw [if_pos hcode, htree]
      refine ⟨hsame.trans (sameBut_put hfree _), project', projectSettings?_put t root project',
        fun k => ?_⟩
      rw [hvalue' k, lastGiven_concat, hvalue k]
      split <;> rfl
    · rw [if_neg (by rw [hcode]; decide), htree]
      exact ⟨hsame, project, hproject, hvalue⟩

/-! ### Values in use -/

/-- The output shows the values of both keys. -/
def ShowsValues (format : OutputFormat) (layout baseUrl out : String) : Prop :=
  match format with
  | .text => ∃ rest, out = rowsText (["date_format", layout] :: ["base_url", baseUrl] :: rest)
  | .json => ∃ rest, out = dataText .json
      (.object (("base_url", .string baseUrl) :: ("date_format", .string layout) :: rest))

/-- The heading of an outline that is read with the given values. -/
def Source.headingBy (s : Source) (value : SettingKey → Option String → String) : Heading where
  id := 0
  prevId := none
  title := s.title.getD s.defaultTitle
  layout := ⟨value .layout s.layout⟩
  baseUrl := value .baseUrl s.baseUrl

/-- An outline is read with the values that the settings have. -/
theorem Source.roadmap_of_outline {s : Source} (hjson : s.json = false) (settings : Settings)
    (now : Calendar.Instant) (text : String) :
    s.roadmap settings now text = .ok (Roadmap.ofOutline
      (s.headingBy fun key flag =>
        key.counting flag (settings.project.value? key) (settings.user.value? key)) now text) := by
  rw [Source.roadmap, if_neg (by simp [hjson]), heading, settings.layout_eq, settings.baseUrl_eq,
    headingBy]

/-- The run uses the given values, which may depend on flags: it shows them,
or reads an outline with them. -/
structure Invocation.Uses (y : Invocation) (command : Command) (format : OutputFormat)
    (value : SettingKey → Option String → String) : Prop where
  shown : command = .showSettings →
    y.outcome.code = 0 ∧
      ShowsValues format (value .layout none) (value .baseUrl none) y.outcome.out
  viewed : ∀ (view : View) (s : Source) (text : String), command = view.command s →
    s.json = false → textOf s.input y.world = .ok text →
    ∃ verbose notes, y.outcome = Outcome.of format verbose
      (view.shown format s (Roadmap.ofOutline (s.headingBy value) y.world.now text) y.world) notes
  exported : ∀ (s : Source) (text : String), command = .parse s → s.json = false →
    textOf s.input y.world = .ok text →
    ∃ (id : Nat) (d : Document) (verbose : Bool) (notes : List String),
      y.outcome = Outcome.of format verbose (.ok (dataText format d.json)) notes ∧
      ∀ now, d.roadmap now =
        { (Roadmap.ofOutline (s.headingBy value) y.world.now text).renewed now with id }

/-- A run uses the values that its settings have where it has no flags. -/
theorem Invocation.Executes.uses {command : Command} {format : OutputFormat}
    {settings : Settings} (h : y.Executes command settings format) :
    y.Uses command format fun key flag =>
      key.counting flag (settings.project.value? key) (settings.user.value? key) where
  shown := by
    rintro rfl
    obtain ⟨⟨named, verbose, hread, rfl⟩, found, hload⟩ := h
    obtain ⟨notes, houtcome, -⟩ :=
      Invocation.exists_outcome_after_eq hread hload (Task.yields_pure _ _)
    rw [houtcome]
    refine ⟨rfl, ?_⟩
    show ShowsValues _ _ _ (showSettings y.env _ _)
    cases named.getD settings.user.format <;> exact ⟨_, rfl⟩
  viewed := by
    rintro view s text rfl hjson htext
    exact exists_outcome_view_eq h htext (Source.roadmap_of_outline hjson settings _ text)
  exported := by
    rintro s text rfl hjson htext
    have hr := Source.roadmap_of_outline hjson settings y.world.now text
    obtain ⟨id, d, hyields, hroadmap⟩ :=
      exists_yields_exportRoadmap format (yields_loadRoadmap htext hr) (Nat.zero_le _) rfl
    obtain ⟨verbose, notes, houtcome⟩ := h.exists_outcome_eq fun _ => ⟨_, hyields⟩
    exact ⟨id, d, verbose, notes, houtcome, hroadmap⟩

/-! ### The theorem -/

/-- **Settings persist**: after any changes the file of the project holds for
each key the value that was given last, or the one that was there to begin
with.  One more change gives a key its value and leaves the other one, if the
key can have the value and no folder is in the way of the file, and otherwise
is refused and leaves both.  A command that runs in the folder of the project
or below uses for each key the value of the flag, or else that of the project,
or else that of the user, or else the built-in one. -/
theorem settings_persist (hinitial : projectSettings? start root = some initial)
    (hsession : Session start root assignments t) :
    let current : SettingKey → Option String :=
      fun k => lastGiven assignments k <|> initial.value? k
    (∃ project, projectSettings? t root = some project ∧ ∀ k, project.value? k = current k) ∧
    (∀ (x : Invocation) (key value : String), x.Sets start t root key value →
      (x.outcome.code = 0 ∧ (IsSetting key value ∧ t.isFolder (settingsPlace root) = false) ∧
        ∃ project, projectSettings? x.after.tree root = some project ∧
          ∀ k, project.value? k = if k.name = key then some value else current k) ∨
      (x.outcome.code = 1 ∧ ¬ (IsSetting key value ∧ t.isFolder (settingsPlace root) = false) ∧
        x.after.tree = t)) ∧
    (∀ (y : Invocation) (user : UserSettings) (request : Request), y.world.tree = t →
      y.StartsBelow start root user → readRequest y.args = .ok request →
      y.Uses request.command (request.format.getD user.format) fun key flag =>
        key.counting flag (current key) (user.value? key)) := by
  intro current
  obtain ⟨hsame, project, hproject, hvalue⟩ := hsession.projectSettings?_eq hinitial
  refine ⟨⟨project, hproject, hvalue⟩, fun x key value hsets => ?_, ?_⟩
  · rcases hsets.outcome_cases hsame hproject with
      ⟨hcode, hallowed, project', hvalue', htree⟩ | hrefused
    · refine .inl ⟨hcode, hallowed, project', ?_, fun k => ?_⟩
      · rw [htree]
        exact projectSettings?_put t root project'
      · rw [hvalue' k, hvalue k]
    · exact .inr hrefused
  · rintro y user request rfl hstarts hread
    obtain ⟨found, hload, -⟩ := hstarts.exists_load_eq hsame hproject
    have hexecutes : y.Executes request.command ⟨project, user⟩
        (request.format.getD user.format) :=
      ⟨⟨request.format, request.verbose, hread, rfl⟩, found, hload⟩
    have huses := hexecutes.uses
    simp only [hvalue] at huses
    exact huses

/-- Plans without settings of their own, and a user with settings. -/
def unset : FileTree where
  entries :=
    [(["plans"], .folder), (["plans", "q3"], .folder), (["settings"], .folder),
     (["settings", "config.toml"],
      .file "date_format = \"02.01.2006\"\nbase_url = \"https://example.org/\"\n".toUTF8)]

/-- The program, started in a folder of the tree. -/
def startedIn (t : FileTree) (here : Place) (args : List String) : Invocation where
  env := { folder := pathTo here, settingsFolder := some ⟨"/settings"⟩ }
  world := ⟨t, here, ByteArray.empty, .startOf ⟨2028, 1, 1, by decide⟩⟩
  args

theorem startsBelow_plans {here : Place} (h : here ∈ [["plans"], ["plans", "q3"]])
    (t : FileTree) (args : List String) :
    (startedIn t here args).StartsBelow unset ["plans"]
      { layout := some "02.01.2006", baseUrl := some "https://example.org/" } where
  folder_eq := rfl
  isName := by
    have hall : ∀ here ∈ [["plans"], ["plans", "q3"]], ∀ n ∈ here, IsName n := by decide
    exact hall here h
  isOpen := by
    have hall : ∀ here ∈ [["plans"], ["plans", "q3"]], unset.IsOpen here := by decide
    exact hall here h
  below := by
    have hall : ∀ here ∈ [["plans"], ["plans", "q3"]], ["plans"] <+: here := by decide
    exact hall here h
  only := by
    have hall : ∀ here ∈ [["plans"], ["plans", "q3"]], ∀ q ∈ here.inits,
        ¬ HasSettings unset q := by decide
    exact fun q hq hfile => absurd hfile (hall here h q ((List.mem_inits q here).2 hq))
  user := by
    have hall : ∀ here ∈ [["plans"], ["plans", "q3"]],
        (loadUser (m := StateM World) (startedIn unset here []).env
          (startedIn unset here []).world).1 =
        .ok { layout := some "02.01.2006", baseUrl := some "https://example.org/" } := by
      decide +kernel
    exact hall here h

/-- A layout with all kinds of quotes, and an empty base that hides that of
the user. -/
theorem settings_persist_quotes :
    let layout := "02/01/2006 \"\"\" ''' \\ \n\x07"
    let first := startedIn unset ["plans"] ["config", "set", "date_format", layout]
    let second := startedIn first.after.tree ["plans", "q3"] ["config", "set", "base_url", ""]
    let shown := startedIn second.after.tree ["plans", "q3"] ["config", "show"]
    projectSettings? unset ["plans"] = some {} ∧
      Session unset ["plans"] [("date_format", layout), ("base_url", "")] second.after.tree ∧
      projectSettings? second.after.tree ["plans"] = some ⟨some layout, some ""⟩ ∧
      shown.outcome.code = 0 ∧ ShowsValues .text layout "" shown.outcome.out := by
  intro layout first second shown
  have hinitial : projectSettings? unset ["plans"] = some {} := by decide +kernel
  have hfirst : first.Sets unset unset ["plans"] "date_format" layout :=
    ⟨rfl, ⟨_, startsBelow_plans (by simp) _ _⟩, ⟨none, false, by decide +kernel⟩, .inl rfl⟩
  have hcode : first.outcome.code = 0 := by decide +kernel
  have hsession := Session.change (.start) hfirst
  rw [if_pos hcode] at hsession
  have hsecond : second.Sets unset first.after.tree ["plans"] "base_url" "" :=
    ⟨rfl, ⟨_, startsBelow_plans (by simp) _ _⟩, ⟨none, false, by decide +kernel⟩,
      .inr (by decide +kernel)⟩
  have hcode' : second.outcome.code = 0 := by decide +kernel
  have hsession' := Session.change hsession hsecond
  rw [if_pos hcode'] at hsession'
  obtain ⟨⟨project, hproject, hvalue⟩, -, huses⟩ := settings_persist hinitial hsession'
  have hshown := (huses shown _ ⟨none, false, .showSettings⟩ rfl
    (startsBelow_plans (by simp) _ _) (by decide +kernel)).shown rfl
  refine ⟨hinitial, hsession', ?_, hshown⟩
  have hlayout : project.layout = some layout := hvalue .layout
  have hbaseUrl : project.baseUrl = some "" := hvalue .baseUrl
  rw [hproject, ← hlayout, ← hbaseUrl]

end TextRoadmap.CommandLine
