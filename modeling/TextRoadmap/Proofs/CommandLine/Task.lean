/-
TextRoadmap/Proofs/CommandLine/Task.lean

Tasks on a machine that is a value.

A task takes notes while it runs, and later steps add to the notes of earlier
ones, but no step looks at them.  `Task.Yields` says how a task ends whatever
the notes are; there is one rule for every way in which tasks are put
together, and so one walk along a task tells how it ends.

The settings are loaded by operations that only look at the machine
(`readOnly_load`), so a command begins with the machine as it was.
-/
import TextRoadmap.CommandLine.Run
import TextRoadmap.Files.Tree

namespace TextRoadmap.CommandLine

variable {α β : Type} {w w' w'' : World}

/-! ### Looking at the machine -/

/-- The operation leaves the machine as it is. -/
def ReadOnly (operation : StateM World α) : Prop := ∀ w, (operation w).2 = w

theorem readOnly_pure (a : α) : ReadOnly (pure a) := fun _ => rfl

theorem ReadOnly.bind {x : StateM World α} {f : α → StateM World β} (hx : ReadOnly x)
    (hf : ∀ a, ReadOnly (f a)) : ReadOnly (x >>= f) := by
  intro w
  show (f (x w).1 (x w).2).2 = w
  rw [hf, hx]

theorem readOnly_kind? (p : Path) : ReadOnly (Machine.kind? p) := fun _ => rfl

theorem readOnly_readText (p : Path) : ReadOnly (Machine.readText p) := fun _ => rfl

theorem readOnly_findRoot (folders : List Path) : ReadOnly (findRoot folders) := by
  induction folders with
  | nil => exact readOnly_pure none
  | cons folder above ih =>
    refine .bind ((readOnly_kind? _).bind fun _ => readOnly_pure _) fun found => ?_
    cases found
    · exact ih
    · exact readOnly_pure _

theorem readOnly_loadFile (whose : String) (empty : α) (read? : String → Option α) (file : Path) :
    ReadOnly (loadFile whose empty read? file) := by
  refine .bind ((readOnly_kind? _).bind fun _ => readOnly_pure _) fun found => ?_
  cases found
  · exact readOnly_pure _
  · refine (readOnly_readText file).bind fun result => ?_
    rcases result with e | text
    · exact readOnly_pure _
    · dsimp only
      split <;> exact readOnly_pure _

theorem readOnly_loadUser (env : Environment) : ReadOnly (loadUser env) := by
  rw [loadUser]
  split
  · exact readOnly_pure _
  · exact readOnly_loadFile "global" ({} : UserSettings) _ _

theorem readOnly_loadProject (root : Option Path) : ReadOnly (loadProject root) := by
  rcases root with - | root
  · exact readOnly_pure _
  · exact readOnly_loadFile "project" ({} : ProjectSettings) _ _

/-- Loading settings changes nothing. -/
theorem readOnly_load (env : Environment) : ReadOnly (load env) := by
  refine (readOnly_loadUser env).bind fun user => ?_
  rcases user with e | user
  · exact readOnly_pure _
  · refine (readOnly_findRoot _).bind fun root => (readOnly_loadProject root).bind fun project => ?_
    rcases project with e | project <;> exact readOnly_pure _

/-! ### How a task ends -/

/-- On the machine `w` the task ends with the result and leaves the machine
`w'`, whatever notes have been taken before. -/
def Task.Yields (task : Task (StateM World) α) (w : World) (result : Except Failure α)
    (w' : World) : Prop :=
  ∀ notes, ∃ notes', task.run.run notes w = ((result, notes'), w')

namespace Task

theorem yields_pure (a : α) (w : World) : Yields (pure a) w (.ok a) w :=
  fun notes => ⟨notes, rfl⟩

/-- A step runs, and its result decides how the task goes on. -/
theorem run_bind (task : Task (StateM World) α) (next : α → Task (StateM World) β)
    (notes : List String) (w : World) :
    (task >>= next).run.run notes w =
      ExceptT.bindCont next (task.run.run notes w).1.1 (task.run.run notes w).1.2
        (task.run.run notes w).2 := rfl

/-- After a step that succeeds comes what depends on its result. -/
theorem Yields.bind {task : Task (StateM World) α} {next : α → Task (StateM World) β} {a : α}
    {result : Except Failure β} (h : Yields task w (.ok a) w')
    (hnext : Yields (next a) w' result w'') : Yields (task >>= next) w result w'' := by
  intro notes
  obtain ⟨notes', h⟩ := h notes
  obtain ⟨notes'', hnext⟩ := hnext notes'
  refine ⟨notes'', ?_⟩
  rw [run_bind, h]
  exact hnext

/-- A step that fails ends the task. -/
theorem Yields.bind_error {task : Task (StateM World) α} {next : α → Task (StateM World) β}
    {failure : Failure} (h : Yields task w (.error failure) w') :
    Yields (task >>= next) w (.error failure) w' := by
  intro notes
  obtain ⟨notes', h⟩ := h notes
  refine ⟨notes', ?_⟩
  rw [run_bind, h]
  rfl

/-- A last step that only looks at the result. -/
theorem Yields.map {task : Task (StateM World) α} {result : Except Failure α}
    (h : Yields task w result w') (f : α → β) :
    Yields (task >>= fun a => pure (f a)) w (result.map f) w' := by
  rcases result with failure | a
  · exact h.bind_error
  · exact h.bind (yields_pure (f a) w')

theorem yields_remark (text : String) (w : World) : Yields (remark text) w (.ok ()) w :=
  fun notes => ⟨notes ++ [s!"[verbose] {text}"], rfl⟩

theorem yields_note (topic text : String) (w : World) : Yields (note topic text) w (.ok ()) w :=
  fun notes => ⟨notes ++ [s!"[verbose:{topic}] {text}"], rfl⟩

/-- An operation of the machine gives what it gives and does what it does. -/
theorem yields_ask (operation : StateM World α) (w : World) :
    Yields (ask operation) w (.ok (operation w).1) (operation w).2 :=
  fun notes => ⟨notes, rfl⟩

theorem yields_attempt {ε : Type} (failure : ε → Failure) (result : Except ε α) (w : World) :
    Yields (attempt failure result) w (result.mapError failure) w := by
  intro notes
  rcases result with e | a <;> exact ⟨notes, rfl⟩

theorem yields_attempt_ok {ε : Type} {failure : ε → Failure} {result : Except ε α} {a : α}
    (h : result = .ok a) (w : World) : Yields (attempt failure result) w (.ok a) w := by
  subst h
  exact yields_attempt failure (.ok a) w

end Task

/-! ### Requests -/

/-- A request is answered with the result of its command, if the settings can
be loaded. -/
theorem exists_answer_eq {env : Environment} {command : Command} {c : Configuration}
    {format : OutputFormat} {result : Except Failure String} (named : Option OutputFormat)
    (verbose : Bool) (hload : (load (m := StateM World) env w).1 = .ok c)
    (hformat : named.getD c.settings.user.format = format)
    (h : Task.Yields (perform env format c command) w result w') :
    ∃ notes, answer (m := StateM World) env ⟨named, verbose, command⟩ w =
      (Outcome.of format verbose result notes, w') := by
  have hexecute : Task.Yields (execute env format c command) w result w' :=
    (Task.yields_remark _ w).bind ((Task.yields_note _ _ w).bind h)
  obtain ⟨notes, hnotes⟩ := hexecute []
  have hboth : load (m := StateM World) env w = (.ok c, w) := Prod.ext hload (readOnly_load env w)
  refine ⟨notes, ?_⟩
  simp only [answer, bind, StateT.bind, hboth, hformat, hnotes]
  rfl

end TextRoadmap.CommandLine
