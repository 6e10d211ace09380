/-
TextRoadmap/Proofs/CommandLine/Effects.lean

What a run of the program does to files and what it puts out.

A run that fails puts out nothing, reports one error behind its notes, and
leaves all files as they are; a run that succeeds has the effect of its
command and no other (`run_effects`).  Two commands have an effect at all: an
outline is written to a file, or a setting to the file of the project.

`Task.Ensures` says how a task may end, and there is one rule for every way in
which tasks are put together.  What is written goes by way of a temporary file,
so there must be no file of its name.  That is asked when the folders on the
way to the file have been made, and asking it before is not enough
(`run_fmt_through_new_folder`): a path can lead through a folder that is only
made then.
-/
import TextRoadmap.Proofs.CommandLine.Documents
import TextRoadmap.Proofs.Files.Write

namespace TextRoadmap.CommandLine

variable {α β ε : Type} {w w' : World} {ends : Except Failure α → World → Prop}

/-! ### What a task ensures -/

/-- A line that tells what the program is doing. -/
def IsNote (line : String) : Prop := ∃ rest, line = "[verbose" ++ rest

/-- On the machine `w` the task ends with a result and a machine as described,
and only adds notes to those that have been taken before. -/
def Task.Ensures (task : Task (StateM World) α) (w : World)
    (ends : Except Failure α → World → Prop) : Prop :=
  ∀ notes, ∃ result added w', task.run.run notes w = ((result, notes ++ added), w') ∧
    (∀ line ∈ added, IsNote line) ∧ ends result w'

namespace Task

/-- A task that takes no notes. -/
theorem ensures_of_run {task : Task (StateM World) α} {result : Except Failure α}
    (hrun : ∀ notes, task.run.run notes w = ((result, notes), w')) (h : ends result w') :
    Ensures task w ends := by
  intro notes
  refine ⟨result, [], w', ?_, by simp, h⟩
  rw [List.append_nil]
  exact hrun notes

/-- A task that does nothing but take a note. -/
theorem ensures_of_note {task : Task (StateM World) Unit} (rest : String)
    (hrun : ∀ notes, task.run.run notes w = ((.ok (), notes ++ ["[verbose" ++ rest]), w)) :
    Ensures task w fun result w' => result = .ok () ∧ w' = w :=
  fun notes => ⟨.ok (), ["[verbose" ++ rest], w, hrun notes, by simpa using ⟨rest, rfl⟩, rfl, rfl⟩

theorem ensures_pure {a : α} (h : ends (.ok a) w) : Ensures (pure a) w ends :=
  ensures_of_run (fun _ => rfl) h

theorem ensures_note (topic text : String) (w : World) :
    Ensures (note topic text) w fun result w' => result = .ok () ∧ w' = w := by
  refine ensures_of_note (":" ++ topic ++ "] " ++ text) fun notes => ?_
  have hnote : s!"[verbose:{topic}] {text}" = "[verbose" ++ (":" ++ topic ++ "] " ++ text) := by
    show "[verbose" ++ ":" ++ topic ++ "] " ++ text = _
    simp only [String.append_assoc]
  rw [← hnote]
  rfl

theorem ensures_remark (text : String) (w : World) :
    Ensures (remark text) w fun result w' => result = .ok () ∧ w' = w := by
  refine ensures_of_note ("] " ++ text) fun notes => ?_
  have hnote : s!"[verbose] {text}" = "[verbose" ++ ("] " ++ text) := by
    show "[verbose" ++ "] " ++ text = _
    rw [String.append_assoc]
  rw [← hnote]
  rfl

theorem ensures_ask (operation : StateM World α) (w : World) :
    Ensures (ask operation) w fun result w' =>
      result = .ok (operation w).1 ∧ w' = (operation w).2 :=
  ensures_of_run (fun _ => rfl) ⟨rfl, rfl⟩

theorem ensures_attempt (failure : ε → Failure) (result : Except ε α) (w : World) :
    Ensures (attempt failure result) w fun result' w' =>
      result' = result.mapError failure ∧ w' = w := by
  rcases result with e | a <;> exact ensures_of_run (fun _ => rfl) ⟨rfl, rfl⟩

/-- What a task ensures can be said with less. -/
theorem Ensures.mono {ends' : Except Failure α → World → Prop} {task : Task (StateM World) α}
    (h : Ensures task w ends) (himp : ∀ result w', ends result w' → ends' result w') :
    Ensures task w ends' := by
  intro notes
  obtain ⟨result, added, w', hrun, hnotes, hends⟩ := h notes
  exact ⟨result, added, w', hrun, hnotes, himp result w' hends⟩

/-- A step, and what comes after it if it succeeds. -/
theorem Ensures.bind {task : Task (StateM World) α} {next : α → Task (StateM World) β}
    {between : Except Failure α → World → Prop} {ends : Except Failure β → World → Prop}
    (h : Ensures task w between) (hok : ∀ a w', between (.ok a) w' → Ensures (next a) w' ends)
    (herror : ∀ e w', between (.error e) w' → ends (.error e) w') :
    Ensures (task >>= next) w ends := by
  intro notes
  obtain ⟨result, added, w', hrun, hnotes, hbetween⟩ := h notes
  rcases result with e | a
  · refine ⟨.error e, added, w', ?_, hnotes, herror e w' hbetween⟩
    rw [run_bind, hrun]
    rfl
  · -- what comes after the step starts with its notes
    obtain ⟨result, added', w'', hrun', hnotes', hends⟩ := hok a w' hbetween (notes ++ added)
    refine ⟨result, added ++ added', w'', ?_, ?_, hends⟩
    · rw [run_bind, hrun, ← List.append_assoc]
      exact hrun'
    · intro line hline
      rcases List.mem_append.1 hline with hline | hline
      · exact hnotes line hline
      · exact hnotes' line hline

/-- A step that can only end in one way, and what comes after it. -/
theorem Ensures.bind_ok {task : Task (StateM World) α} {next : α → Task (StateM World) β} {a : α}
    {ends : Except Failure β → World → Prop}
    (h : Ensures task w fun result w'' => result = .ok a ∧ w'' = w')
    (hnext : Ensures (next a) w' ends) : Ensures (task >>= next) w ends := by
  refine h.bind ?_ ?_
  · rintro b w'' ⟨⟨⟩, rfl⟩
    exact hnext
  · rintro e w'' ⟨⟨⟩, -⟩

/-- A result is used, unless it is an error. -/
theorem Ensures.attempt_bind {failure : ε → Failure} {result : Except ε β}
    {next : β → Task (StateM World) α} (hok : ∀ b, result = .ok b → Ensures (next b) w ends)
    (herror : ∀ e, result = .error e → ends (.error (failure e)) w) :
    Ensures (attempt failure result >>= next) w ends := by
  rcases result with e | b
  · refine (ensures_attempt failure (.error e) w).bind ?_ ?_
    · rintro b w' ⟨⟨⟩, -⟩
    · rintro _ w' ⟨⟨⟩, rfl⟩
      exact herror e rfl
  · exact (ensures_attempt failure (.ok b) w).bind_ok (hok b rfl)

/-! ### Tasks that look -/

/-- The task leaves the machine as it is. -/
def Looks (task : Task (StateM World) α) : Prop := ∀ w, Ensures task w fun _ w' => w' = w

theorem Looks.bind {task : Task (StateM World) α} {next : α → Task (StateM World) β}
    (h : Looks task) (hnext : ∀ a, Looks (next a)) : Looks (task >>= next) := by
  intro w
  refine (h w).bind ?_ fun _ _ heq => heq
  rintro a w' rfl
  exact hnext a w'

theorem looks_pure (a : α) : Looks (pure a) := fun _ => ensures_pure rfl

theorem looks_note (topic text : String) : Looks (note topic text) :=
  fun w => (ensures_note topic text w).mono fun _ _ h => h.2

theorem looks_attempt (failure : ε → Failure) (result : Except ε α) :
    Looks (attempt failure result) :=
  fun w => (ensures_attempt failure result w).mono fun _ _ h => h.2

theorem looks_ask {operation : StateM World α} (h : ReadOnly operation) : Looks (ask operation) :=
  fun w => (ensures_ask operation w).mono fun _ _ hends => hends.2.trans (h w)

end Task

/-! ### Reading -/

/-- The source holds the roadmap. -/
def Source.Holds (s : Source) (settings : Settings) (w : World) (r : Roadmap) : Prop :=
  ∃ text, textOf s.input w = .ok text ∧ s.roadmap settings w.now text = .ok r

theorem ok_of_mapError {f : ε → Failure} {x : Except ε α} {a : α} (h : .ok a = x.mapError f) :
    x = .ok a := by
  rcases x with e | b
  · cases h
  · cases h
    rfl

theorem ensures_readSource (s : Source) (w : World) :
    Task.Ensures (readSource s) w fun result w' =>
      (∀ text, result = .ok text → textOf s.input w = .ok text) ∧ w' = w := by
  rw [readSource, textOf]
  rcases fileOf s.input with - | p
  all_goals
    refine (Task.ensures_ask _ w).bind_ok ((Task.ensures_attempt _ _ w).mono ?_)
    rintro result w' ⟨hresult, rfl⟩
    exact ⟨fun text htext => ok_of_mapError (htext.symm.trans hresult), rfl⟩

theorem ensures_loadRoadmap (settings : Settings) (s : Source) (w : World) :
    Task.Ensures (loadRoadmap settings s) w fun result w' =>
      (∀ r, result = .ok r → s.Holds settings w r) ∧ w' = w := by
  refine (Task.ensures_note _ _ w).bind_ok ?_
  refine (ensures_readSource s w).bind ?_ ?_
  · rintro text w' ⟨htext, rfl⟩
    refine (Task.ensures_note _ _ _).bind_ok <| (Task.ensures_ask _ _).bind_ok ?_
    refine Task.Ensures.attempt_bind (fun r hr => ?_) fun e _ => ⟨by rintro r ⟨⟩, rfl⟩
    refine (Task.ensures_note _ _ _).bind_ok (Task.ensures_pure ⟨?_, rfl⟩)
    rintro r ⟨⟩
    exact ⟨text, htext text rfl, hr⟩
  · rintro e w' ⟨-, rfl⟩
    exact ⟨by rintro r ⟨⟩, rfl⟩

/-! ### Commands -/

theorem looks_loadRoadmap (settings : Settings) (s : Source) :
    Task.Looks (loadRoadmap settings s) :=
  fun w => (ensures_loadRoadmap settings s w).mono fun _ _ h => h.2

theorem looks_numbered (r : Roadmap) : Task.Looks (numbered r) := by
  rw [numbered]
  split
  · exact Task.looks_pure r
  · exact (Task.looks_ask fun _ => rfl).bind fun _ =>
      (Task.looks_note _ _).bind fun _ => Task.looks_pure _

theorem looks_exportRoadmap (format : OutputFormat) (settings : Settings) (s : Source) :
    Task.Looks (exportRoadmap format settings s) :=
  (looks_loadRoadmap settings s).bind fun r => (looks_numbered r).bind fun _ =>
    (Task.looks_attempt _ _).bind fun _ => Task.looks_pure _

theorem looks_chartRoadmap (format : OutputFormat) (settings : Settings) (s : Source) :
    Task.Looks (chartRoadmap format settings s) :=
  (looks_loadRoadmap settings s).bind fun _ => by cases format <;> exact Task.looks_pure _

theorem looks_checkRoadmap (format : OutputFormat) (settings : Settings) (s : Source) :
    Task.Looks (checkRoadmap format settings s) :=
  (looks_loadRoadmap settings s).bind fun _ => (Task.looks_attempt _ _).bind fun _ => by
    cases format <;> exact Task.looks_pure _

theorem looks_encodeNumber (format : OutputFormat) (id : Nat) :
    Task.Looks (encodeNumber (m := StateM World) format id) :=
  (Task.looks_attempt _ _).bind fun _ => (Task.looks_note _ _).bind fun _ => Task.looks_pure _

theorem looks_decodeCode (format : OutputFormat) (text : String) :
    Task.Looks (decodeCode (m := StateM World) format text) :=
  (Task.looks_attempt _ _).bind fun _ => (Task.looks_note _ _).bind fun _ => Task.looks_pure _

theorem looks_makeCode (format : OutputFormat) (seed : String) :
    Task.Looks (makeCode (m := StateM World) format seed) :=
  (Task.looks_ask fun _ => rfl).bind fun _ => (Task.looks_note _ _).bind fun _ =>
    Task.looks_pure _

/-- The file that a command writes its output to. -/
def Command.target? : Command → Option Path
  | .fmt _ target => fileOf target
  | _ => none

/-- The folders that a command may make: those on the way to its file. -/
def Command.ways (command : Command) : List Path :=
  (command.target?.map Machine.foldersOf).getD []

/-- What a command that succeeds has done.  An outline has been written to the
file that is named for it, or a changed setting to the file of the project;
nothing else has an effect. -/
def Command.Effect (env : Environment) (c : Configuration) (w w' : World) : Command → Prop
  | .fmt s target =>
    match fileOf target with
    | none => w' = w
    | some p => ∃ r place, s.Holds c.settings w r ∧
        Written (Machine.foldersOf p) p (lineOf r.outline).toUTF8 place w w'
  | .set key value =>
    let file := (c.root.getD env.folder).join projectFile
    ∃ settings place, c.settings.project.set key value = .ok settings ∧
      w.Spares [] [place] w' ∧ w'.tree.locate w'.folder file = .ok place ∧
      w'.tree.find? place = some (.file settings.write.toUTF8)
  | _ => w' = w

/-- How a command may end: it has its effect, or it fails and all files are as
they were. -/
def Command.Ends (env : Environment) (c : Configuration) (w : World) (command : Command) :
    Except Failure String → World → Prop
  | .ok _, w' => command.Effect env c w w'
  | .error _, w' => w.Spares command.ways [] w'

/-- When the folders on the way to the file have been made, there is no file
of the name of its temporary one. -/
def TemporaryIsFree (p : Path) (w : World) : Prop :=
  (Machine.isFile (m := StateM World) (Machine.temporaryOf p)
    (Machine.makeFolders (m := StateM World) (Machine.foldersOf p) w).2).1 = false

theorem ensures_formatRoadmap {env : Environment} {c : Configuration} (format : OutputFormat)
    (s : Source) (target : Option Path) (w : World)
    (hfree : ∀ p ∈ fileOf target, TemporaryIsFree p w) :
    Task.Ensures (formatRoadmap format c.settings s target) w
      (Command.Ends env c w (.fmt s target)) := by
  rw [formatRoadmap]
  refine (Task.ensures_note _ _ w).bind_ok <| (ensures_loadRoadmap c.settings s w).bind ?_ ?_
  · rintro r w' ⟨hr, rfl⟩
    rcases hp : fileOf target with - | p
    · refine Task.ensures_pure ?_
      rw [Command.Ends, Command.Effect, hp]
    · refine (Task.ensures_note _ _ _).bind_ok <| (Task.ensures_ask _ _).bind_ok ?_
      -- the machine is still as it was, so the temporary file is free when it is made
      rcases writeFile_cases (lineOf r.outline).toUTF8 (hfree p hp) with
        ⟨e, w'', hwrite, hspares⟩ | ⟨place, w'', hwrite, hwritten⟩
      · rw [hwrite]
        refine Task.Ensures.attempt_bind (by rintro b ⟨⟩) fun e _ => ?_
        rw [Command.Ends, Command.ways, Command.target?, hp]
        exact hspares
      · rw [hwrite]
        refine Task.Ensures.attempt_bind (fun b _ => Task.ensures_pure ?_) (by rintro e ⟨⟩)
        rw [Command.Ends, Command.Effect, hp]
        exact ⟨r, place, hr r rfl, hwritten⟩
  · rintro e w' ⟨-, rfl⟩
    exact .refl ..

theorem ensures_changeSetting (env : Environment) (format : OutputFormat) (c : Configuration)
    (key value : String) (w : World) :
    Task.Ensures (changeSetting env format c key value) w
      (Command.Ends env c w (.set key value)) := by
  refine (Task.ensures_note _ _ w).bind_ok ?_
  refine Task.Ensures.attempt_bind (fun settings hsettings => ?_) fun e _ => .refl ..
  refine (Task.ensures_ask _ _).bind_ok ?_
  rcases write_cases ((c.root.getD env.folder).join projectFile) settings.write.toUTF8 w with
    ⟨e, hwrite⟩ | ⟨place, w', hwrite, hspares, hlocate, hfind⟩
  · rw [hwrite]
    exact Task.Ensures.attempt_bind (by rintro b ⟨⟩) fun e _ => .refl ..
  · rw [hwrite]
    refine Task.Ensures.attempt_bind (fun b _ => ?_) (by rintro e ⟨⟩)
    have heffect : Command.Effect env c w w' (.set key value) :=
      ⟨settings, place, hsettings, hspares, hlocate, hfind⟩
    cases format <;> exact Task.ensures_pure heffect

/-- A command that only looks ends with everything as it was. -/
theorem Task.Looks.ensures_ends {task : Task (StateM World) String} (h : Task.Looks task)
    {env : Environment} {c : Configuration} {command : Command}
    (heffect : command.Effect env c w w) : Task.Ensures task w (command.Ends env c w) := by
  refine (h w).mono ?_
  rintro (e | out) w' rfl
  · exact .refl ..
  · exact heffect

/-- Every command ends with its own effect or without any. -/
theorem ensures_perform (env : Environment) (format : OutputFormat) (c : Configuration)
    (command : Command) (w : World) (hfree : ∀ p ∈ command.target?, TemporaryIsFree p w) :
    Task.Ensures (perform env format c command) w (command.Ends env c w) := by
  cases command with
  | fmt s target => exact ensures_formatRoadmap format s target w hfree
  | parse s => exact (looks_exportRoadmap format c.settings s).ensures_ends rfl
  | compile s => exact (looks_chartRoadmap format c.settings s).ensures_ends rfl
  | validate s => exact (looks_checkRoadmap format c.settings s).ensures_ends rfl
  | encode id => exact (looks_encodeNumber format id).ensures_ends rfl
  | decode text => exact (looks_decodeCode format text).ensures_ends rfl
  | newCode seed => exact (looks_makeCode format seed).ensures_ends rfl
  | showSettings => exact (Task.looks_pure _).ensures_ends rfl
  | set key value => exact ensures_changeSetting env format c key value w

/-! ### Runs -/

/-- The machine after a run. -/
def Invocation.after (x : Invocation) : World :=
  (run (m := StateM World) x.env x.args x.world).2

/-- The format in which a request is answered. -/
def Request.outputFormat (request : Request) (env : Environment) (w : World) : OutputFormat :=
  request.format.getD <|
    match (load (m := StateM World) env w).1 with
    | .ok c => c.settings.user.format
    | .error _ => .text

/-- Nothing is put out, and one failure is reported behind the notes. -/
def Outcome.Reports (format : OutputFormat) (verbose : Bool) (outcome : Outcome) : Prop :=
  outcome.out = "" ∧ ∃ notes failure, (∀ line ∈ notes, IsNote line) ∧
    outcome.err = notesText verbose notes ++ failureText format (Failure.message failure)

/-- A request whose settings can not be loaded is answered with a report. -/
theorem answer_of_load_eq_error {env : Environment} {request : Request} {failure : Failure}
    (hload : (load (m := StateM World) env w).1 = .error failure) :
    answer (m := StateM World) env request w =
      (Outcome.of (request.outputFormat env w) request.verbose (.error failure) [], w) := by
  have hboth : load (m := StateM World) env w = (.error failure, w) :=
    Prod.ext hload (readOnly_load env w)
  simp only [answer, bind, StateT.bind, Request.outputFormat, hboth]
  rfl

theorem exists_answer_of_ends {env : Environment} {request : Request} {c : Configuration}
    {ends : Except Failure String → World → Prop}
    (hload : (load (m := StateM World) env w).1 = .ok c)
    (h : ∀ format, Task.Ensures (perform env format c request.command) w ends) :
    ∃ result notes w', answer (m := StateM World) env request w =
        (Outcome.of (request.outputFormat env w) request.verbose result notes, w') ∧
      (∀ line ∈ notes, IsNote line) ∧ ends result w' := by
  have hboth : load (m := StateM World) env w = (.ok c, w) := Prod.ext hload (readOnly_load env w)
  have hexecute :
      Task.Ensures (execute env (request.outputFormat env w) c request.command) w ends :=
    (Task.ensures_remark _ w).bind_ok <| (Task.ensures_note _ _ w).bind_ok (h _)
  obtain ⟨result, notes, w', hrun, hnotes, hends⟩ := hexecute []
  refine ⟨result, notes, w', ?_, hnotes, hends⟩
  rw [Request.outputFormat, hload] at hrun
  simp only [answer, bind, StateT.bind, Request.outputFormat, hboth, hrun]
  rfl

/-- **What a run does**: if it fails, nothing is put out, its notes end in the
report of one failure, and all files are as they were; if it succeeds, its
command has had its own effect and no other.  Folders on the way to a file
that was to be written may stay in both cases. -/
theorem run_effects {x : Invocation}
    (hfree : ∀ request, readRequest x.args = .ok request →
      ∀ p ∈ request.command.target?, TemporaryIsFree p x.world) :
    (x.outcome.code = 1 → ∃ request, readRequest x.args = .ok request ∧
      x.outcome.Reports (request.outputFormat x.env x.world) request.verbose ∧
      x.world.Spares request.command.ways [] x.after) ∧
    (x.outcome.code = 0 →
      (∃ stop, readRequest x.args = .error stop ∧ x.after = x.world) ∨
      ∃ request c, readRequest x.args = .ok request ∧
        (load (m := StateM World) x.env x.world).1 = .ok c ∧
        request.command.Effect x.env c x.world x.after) ∧
    (x.outcome.code ∉ [0, 1] → x.after = x.world) := by
  rw [Invocation.outcome, Invocation.after, run]
  rcases hread : readRequest x.args with stop | request
  · -- without a request the machine is not asked for anything
    rcases stop with - | - | name
    all_goals refine ⟨?_, fun _ => .inl ⟨_, rfl, rfl⟩, fun _ => rfl⟩
    all_goals rintro ⟨⟩
  · dsimp only
    rcases hload : (load (m := StateM World) x.env x.world).1 with failure | c
    · -- the settings are read before the command starts, and no note has been taken
      rw [answer_of_load_eq_error hload]
      refine ⟨fun _ => ⟨request, rfl, ⟨rfl, [], failure, by simp, rfl⟩, .refl ..⟩, ?_, ?_⟩
      · rintro ⟨⟩
      · exact fun _ => rfl
    · obtain ⟨result, notes, w', hanswer, hnotes, hends⟩ := exists_answer_of_ends hload
        fun format => ensures_perform x.env format c request.command x.world (hfree request hread)
      rw [hanswer]
      rcases result with failure | out
      · refine ⟨fun _ => ⟨request, rfl, ⟨rfl, notes, failure, hnotes, rfl⟩, hends⟩, ?_, ?_⟩
        · rintro ⟨⟩
        · exact fun hcode => absurd (List.mem_cons_of_mem _ (List.mem_cons_self ..)) hcode
      · refine ⟨?_, fun _ => .inr ⟨request, c, rfl, rfl, hends⟩, ?_⟩
        · rintro ⟨⟩
        · exact fun hcode => absurd (List.mem_cons_self ..) hcode

/-- An outline in a folder that is made for it. -/
theorem run_effects_new_folder :
    let x := amongPlans ["fmt", "q3.txt", "-o", "out/q3.txt"]
    let target : Path := ⟨"out/q3.txt"⟩
    TemporaryIsFree target x.world ∧ x.outcome.code = 0 ∧
      ∃ c r place, (load (m := StateM World) x.env x.world).1 = .ok c ∧
        Source.Holds ⟨some ⟨"q3.txt"⟩, none, none, none, false⟩ c.settings x.world r ∧
        Written (Machine.foldersOf target) target (lineOf r.outline).toUTF8 place x.world
          x.after := by
  intro x target
  have hread : readRequest x.args =
      .ok ⟨none, false, .fmt ⟨some ⟨"q3.txt"⟩, none, none, none, false⟩ (some target)⟩ := by
    decide +kernel
  have hfree : TemporaryIsFree target x.world := by
    show (_ : Bool) = false
    decide +kernel
  have hcode : x.outcome.code = 0 := by decide +kernel
  have heffects := run_effects (x := x) (by
    rintro request hrequest p hp
    obtain rfl := Except.ok.inj (hread.symm.trans hrequest)
    obtain rfl := Option.some.inj (show some target = some p from hp)
    exact hfree)
  refine ⟨hfree, hcode, ?_⟩
  rcases heffects.2.1 hcode with ⟨stop, hstop, -⟩ | ⟨request, c, hrequest, hload, heffect⟩
  · cases hread.symm.trans hstop
  · obtain rfl := Except.ok.inj (hread.symm.trans hrequest)
    obtain ⟨r, place, hholds, hwritten⟩ := heffect
    exact ⟨c, r, place, hload, hholds, hwritten⟩

/-- Two files in the root. -/
def beside : FileTree where
  entries := [(["plan.txt"], .file "A".toUTF8), (["t.roadmap.tmp"], .file "keep".toUTF8)]

/-- A path that goes through a folder which is only made on the way: there is
no file of the temporary name to begin with, but then there is one, and it is
lost. -/
theorem run_fmt_through_new_folder :
    let x : Invocation :=
      { env := { folder := ⟨"/"⟩ }
        world := ⟨beside, [], ByteArray.empty, .startOf ⟨2026, 3, 1, by decide⟩⟩
        args := ["fmt", "plan.txt", "-o", "new/../t.txt"] }
    let target : Path := ⟨"new/../t.txt"⟩
    let other : Path := ⟨"t.roadmap.tmp"⟩
    (Machine.isFile (m := StateM World) (Machine.temporaryOf target) x.world).1 = false ∧
      x.outcome.code = 0 ∧
      (Machine.readText (m := StateM World) other x.world).1 = .ok "keep" ∧
      (Machine.readText (m := StateM World) other x.after).1 = .error .missing ∧
      (Machine.readText (m := StateM World) target x.after).1 = .ok "A\n" := by
  decide +kernel

end TextRoadmap.CommandLine
