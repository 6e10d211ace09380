/-
TextRoadmap/Proofs/CommandLine/Documents.lean

Roadmaps that are shown by way of a document.

A roadmap can be shown from an outline, or it can be exported first and shown
from the document.  Both ways end alike.  The outline is read with the title,
the layout and the base that the command or the settings name; exporting
writes them into the document, and a command that names none of them takes
them from there, whatever the settings are by then
(`outcome_show_exported`).

The way through the document gives the roadmap a number and a new history,
and no command that shows a roadmap looks at those.
-/
import TextRoadmap.Proofs.CommandLine.Task
import TextRoadmap.Proofs.Document.RoundTrip
import TextRoadmap.Proofs.Files.Write

namespace TextRoadmap.CommandLine

open TextRoadmap.Calendar

variable {s : Source} {w : World} {text : String} {r : Roadmap} {settings settings' : Settings}
variable {format : OutputFormat} {result result' : Except Failure String}

/-! ### Runs of the program -/

/-- A run of the program: where it is started, and with which arguments. -/
structure Invocation where
  env : Environment
  world : World
  args : List String

/-- How the run ends. -/
def Invocation.outcome (x : Invocation) : Outcome :=
  (run (m := StateM World) x.env x.args x.world).1

/-- The arguments ask for the command, the settings can be loaded, and both
together decide on the output format. -/
structure Invocation.Executes (x : Invocation) (command : Command) (settings : Settings)
    (format : OutputFormat) : Prop where
  request : ∃ named verbose, readRequest x.args = .ok ⟨named, verbose, command⟩ ∧
    named.getD settings.user.format = format
  settings : ∃ root, (load (m := StateM World) x.env x.world).1 = .ok ⟨settings, root⟩

/-- A run ends as its command does. -/
theorem Invocation.Executes.exists_outcome_eq {x : Invocation} {command : Command}
    (h : x.Executes command settings format)
    (hyields : ∀ root, ∃ w', Task.Yields (perform x.env format ⟨settings, root⟩ command)
      x.world result w') :
    ∃ verbose notes, x.outcome = Outcome.of format verbose result notes := by
  obtain ⟨⟨named, verbose, hread, hformat⟩, root, hload⟩ := h
  obtain ⟨w', hw'⟩ := hyields root
  obtain ⟨notes, hanswer⟩ := exists_answer_eq named verbose hload hformat hw'
  refine ⟨verbose, notes, ?_⟩
  -- what is left on the machine is no part of the outcome
  rw [outcome, run, hread]
  exact congrArg Prod.fst hanswer

theorem code_of (format : OutputFormat) (verbose : Bool) (result : Except Failure String)
    (notes : List String) :
    (Outcome.of format verbose result notes).code = if result.toOption.isSome then 0 else 1 := by
  cases result <;> rfl

theorem out_of (format : OutputFormat) (verbose : Bool) (result : Except Failure String)
    (notes : List String) :
    (Outcome.of format verbose result notes).out = result.toOption.getD "" := by
  cases result <;> rfl

/-! ### Reading -/

/-- The text of a file or of the input. -/
def textOf (input : Option Path) (w : World) : Except FileError String :=
  match fileOf input with
  | some p => (Machine.readText (m := StateM World) p w).1
  | none => (Machine.inputText (m := StateM World) w).1

theorem decode_toUTF8 (text : String) : Machine.decode text.toUTF8 = .ok text := by
  have hdecode : String.fromUTF8? text.toUTF8 = some text := by
    simpa [String.fromUTF8?] using ⟨text.isValidUTF8, rfl⟩
  rw [Machine.decode, hdecode]

/-- What has been written is read from the input. -/
theorem textOf_toUTF8 (t : FileTree) (folder : Place) (now : Instant) (text : String) :
    textOf none ⟨t, folder, text.toUTF8, now⟩ = .ok text := decode_toUTF8 text

theorem yields_readSource (h : textOf s.input w = .ok text) :
    Task.Yields (readSource s) w (.ok text) w := by
  rcases hp : fileOf s.input with - | p
  · rw [textOf, hp] at h
    rw [readSource, hp]
    exact (Task.yields_ask _ w).bind (Task.yields_attempt_ok h w)
  · rw [textOf, hp] at h
    rw [readSource, hp]
    exact (Task.yields_ask _ w).bind (Task.yields_attempt_ok h w)

/-- A source that holds a roadmap is loaded. -/
theorem yields_loadRoadmap (htext : textOf s.input w = .ok text)
    (hr : s.roadmap settings w.now text = .ok r) :
    Task.Yields (loadRoadmap settings s) w (.ok r) w :=
  (Task.yields_note _ _ w).bind <| (yields_readSource htext).bind <|
    (Task.yields_note _ _ w).bind <| (Task.yields_ask _ w).bind <|
      (Task.yields_attempt_ok hr w).bind <| (Task.yields_note _ _ w).bind (Task.yields_pure r w)

/-! ### Showing -/

/-- A way to show a roadmap. -/
inductive View where
  | fmt (target : Option Path)
  | compile
  | validate

/-- The command that shows the roadmap of the source. -/
def View.command (s : Source) : View → Command
  | .fmt target => .fmt s target
  | .compile => .compile s
  | .validate => .validate s

/-- The file that the view writes. -/
def View.target? : View → Option Path
  | .fmt target => fileOf target
  | .compile | .validate => none

/-- What comes of showing a roadmap on a machine. -/
def View.shown (format : OutputFormat) (s : Source) (r : Roadmap) (w : World) :
    View → Except Failure String
  | .fmt target =>
    match fileOf target with
    | none => .ok (lineOf r.outline)
    | some p =>
      ((Machine.writeFile (m := StateM World) p (lineOf r.outline).toUTF8 w).1.mapError
        .writing).map fun _ => successText format s!"Formatted roadmap written to {p.text}"
  | .compile =>
    match format with
    | .json => .ok (dataText .json r.chart.json)
    | .text => .ok (rowsText r.chart.rows)
  | .validate =>
    (r.validate.mapError (.incomplete s.description)).map fun _ =>
      let projects := r.projects.length
      let milestones := r.milestones.length
      match format with
      | .json =>
        dataText .json <| .object
          [("milestones", .number milestones), ("projects", .number projects),
           ("title", .string r.title), ("valid", .boolean true)]
      | .text =>
        successText .text
          s!"Roadmap '{r.title}' is valid: {projects} projects, {milestones} milestones"

theorem exists_yields_formatRoadmap (hload : Task.Yields (loadRoadmap settings s) w (.ok r) w)
    (target : Option Path) :
    ∃ w', Task.Yields (formatRoadmap format settings s target) w
      (View.shown format s r w (.fmt target)) w' := by
  rw [formatRoadmap, View.shown]
  rcases fileOf target with - | p
  · exact ⟨w, (Task.yields_note _ _ w).bind <| hload.bind (Task.yields_pure _ w)⟩
  · exact ⟨_, (Task.yields_note _ _ w).bind <| hload.bind <| (Task.yields_note _ _ w).bind <|
      (Task.yields_ask _ w).bind <| (Task.yields_attempt _ _ _).map _⟩

theorem yields_chartRoadmap (hload : Task.Yields (loadRoadmap settings s) w (.ok r) w) :
    Task.Yields (chartRoadmap format settings s) w (View.shown format s r w .compile) w := by
  refine hload.bind ?_
  cases format <;> exact Task.yields_pure _ w

theorem yields_checkRoadmap (hload : Task.Yields (loadRoadmap settings s) w (.ok r) w) :
    Task.Yields (checkRoadmap format settings s) w (View.shown format s r w .validate) w := by
  refine hload.bind ?_
  cases format <;> exact (Task.yields_attempt _ _ w).map _

/-- A roadmap that can be loaded is shown. -/
theorem exists_yields_view (hload : Task.Yields (loadRoadmap settings s) w (.ok r) w)
    (env : Environment) (root : Option Path) (view : View) :
    ∃ w', Task.Yields (perform env format ⟨settings, root⟩ (view.command s)) w
      (view.shown format s r w) w' := by
  rcases view with target | - | -
  · exact exists_yields_formatRoadmap hload target
  · exact ⟨w, yields_chartRoadmap hload⟩
  · exact ⟨w, yields_checkRoadmap hload⟩

/-- Which failure it is makes no difference for the output. -/
theorem toOption_map_mapError {ε α : Type} (x : Except ε α) (f : ε → Failure) (g : α → String) :
    ((x.mapError f).map g).toOption = x.toOption.map g := by
  cases x <;> rfl

theorem toOption_eq_of_isOk_eq {ε : Type} {x y : Except ε Unit} (h : x.isOk = y.isOk) :
    x.toOption = y.toOption := by
  rcases x with e | x <;> rcases y with e' | y
  · rfl
  · cases h
  · cases h
  · rfl

/-- No view looks at the number or the history of a roadmap. -/
theorem View.toOption_shown_eq {view : View} {s' : Source} {w' : World} (id : Nat) (now : Instant)
    (hwrite : ∀ p ∈ view.target?, ∀ bytes,
      (Machine.writeFile (m := StateM World) p bytes w').1.isOk =
        (Machine.writeFile (m := StateM World) p bytes w).1.isOk) :
    (view.shown format s' { r.renewed now with id } w').toOption =
      (view.shown format s r w).toOption := by
  -- the failures name their sources, so only what is put out is the same
  rcases view with target | - | -
  · rw [shown, shown]
    rcases htarget : fileOf target with - | p
    · rfl
    · rw [toOption_map_mapError, toOption_map_mapError,
        ← toOption_eq_of_isOk_eq (hwrite p htarget (lineOf r.outline).toUTF8)]
      rfl
  · cases format <;> rfl
  · rw [shown, shown, toOption_map_mapError, toOption_map_mapError]
    rfl

/-- A run that shows a roadmap ends as the view does. -/
theorem exists_outcome_view_eq {x : Invocation} {view : View}
    (h : x.Executes (view.command s) settings format) (htext : textOf s.input x.world = .ok text)
    (hr : s.roadmap settings x.world.now text = .ok r) :
    ∃ verbose notes, x.outcome =
      Outcome.of format verbose (view.shown format s r x.world) notes :=
  h.exists_outcome_eq fun root =>
    exists_yields_view (yields_loadRoadmap htext hr) x.env root view

/-! ### Exporting -/

/-- A roadmap without one before it can be exported: the number that it gets
has a code. -/
theorem exists_yields_exportRoadmap (format : OutputFormat)
    (hload : Task.Yields (loadRoadmap settings s) w (.ok r) w)
    (hid : r.id ≤ ShortCode.largest) (hprev : r.prevId = none) :
    ∃ (id : Nat) (d : Document),
      Task.Yields (exportRoadmap format settings s) w (.ok (dataText format d.json)) w ∧
        ∀ now, d.roadmap now = { r.renewed now with id } := by
  have hnumbered : ∃ id ≤ ShortCode.largest,
      Task.Yields (numbered r) w (.ok { r with id }) w := by
    rw [numbered]
    split
    · exact ⟨r.id, hid, Task.yields_pure r w⟩
    · -- a derived code is a code, so its number has one
      refine ⟨(ShortCode.derive r.title w.now).id, ?_, ?_⟩
      · exact Nat.le_of_lt_succ (ShortCode.derive r.title w.now).id_lt
      · exact (Task.yields_ask _ w).bind <| (Task.yields_note _ _ w).bind (Task.yields_pure _ w)
  obtain ⟨id, hle, hnumbered⟩ := hnumbered
  obtain ⟨d, hd, hroadmap, -⟩ := Roadmap.document_of_le (r := { r with id }) hle (by simp [hprev])
  refine ⟨id, d, ?_, hroadmap⟩
  exact hload.bind <| hnumbered.bind <| (Task.yields_attempt_ok hd w).bind (Task.yields_pure _ w)

theorem Document.read_dataText (format : OutputFormat) (d : Document) :
    Document.read (dataText format d.json) = .ok d :=
  Document.read_write_newline _ d

/-! ### The theorem -/

/-- **By way of a document**: an outline can be exported, and showing the
document without naming a title, a layout or a base puts out what showing the
outline does, and fails if that fails.  This holds for all settings of the
second way, and if an outline is to be written to a file, as long as the file
can be written on both machines or on neither. -/
theorem outcome_show_exported {exporting showing again : Invocation} {view : View}
    {input input' : Option Path} {title layout baseUrl : Option String}
    {format' : OutputFormat}
    (hexport : exporting.Executes (.parse ⟨input, title, layout, baseUrl, false⟩) settings format')
    (hshow : showing.Executes (view.command ⟨input, title, layout, baseUrl, false⟩) settings format)
    (hagain : again.Executes (view.command ⟨input', none, none, none, true⟩) settings' format)
    (htext : textOf input exporting.world = .ok text)
    (htext' : textOf input showing.world = .ok text)
    (hdocument : textOf input' again.world = .ok exporting.outcome.out)
    (hwrite : ∀ p ∈ view.target?, ∀ bytes,
      (Machine.writeFile (m := StateM World) p bytes again.world).1.isOk =
        (Machine.writeFile (m := StateM World) p bytes showing.world).1.isOk) :
    exporting.outcome.code = 0 ∧ again.outcome.code = showing.outcome.code ∧
      again.outcome.out = showing.outcome.out := by
  let s : Source := ⟨input, title, layout, baseUrl, false⟩
  let s' : Source := ⟨input', none, none, none, true⟩
  let r := Roadmap.ofOutline (s.heading settings) showing.world.now text
  -- the outline is exported, with a number
  have hr : s.roadmap settings exporting.world.now text =
      .ok (r.renewed exporting.world.now) := rfl
  obtain ⟨id, d, hyields, hroadmap⟩ :=
    exists_yields_exportRoadmap format' (yields_loadRoadmap (s := s) htext hr) (Nat.zero_le _) rfl
  obtain ⟨_, _, hexported⟩ := hexport.exists_outcome_eq fun _ => ⟨_, hyields⟩
  -- the document holds what the outline is read with, and nothing is put in its place
  rw [hexported] at hdocument ⊢
  have hr' : s'.roadmap settings' again.world.now (dataText format' d.json) =
      .ok { r.renewed again.world.now with id } := by
    rw [Source.roadmap, if_pos rfl, Document.read_dataText]
    exact congrArg (fun r => Except.ok (s'.adjust settings' r)) (hroadmap again.world.now)
  obtain ⟨_, _, hshown⟩ := exists_outcome_view_eq hshow htext' (r := r) rfl
  obtain ⟨_, _, hagainShown⟩ := exists_outcome_view_eq hagain hdocument hr'
  rw [hshown, hagainShown, code_of, code_of, code_of, out_of, out_of,
    View.toOption_shown_eq id _ hwrite]
  exact ⟨rfl, rfl, rfl⟩

/-- Plans with settings of their own, which name a layout. -/
def plans : FileTree where
  entries :=
    [(["plans"], .folder),
     (["plans", "roadmapper.toml"], .file "date_format = \"02/01/2006\"\n".toUTF8),
     (["plans", "q3.txt"],
      .file "Build [15/01/2026, 28/02/2026, docs/parts]\n\tFrame [40%]\n|Beta".toUTF8)]

/-- A folder in which the user has settings that name a base. -/
def elsewhere : FileTree where
  entries :=
    [(["settings"], .folder),
     (["settings", "config.toml"], .file "base_url = \"https://example.org/\"\n".toUTF8)]

/-- The program, started among the plans. -/
def amongPlans (args : List String) : Invocation where
  env := { folder := ⟨"/plans"⟩ }
  world := ⟨plans, ["plans"], ByteArray.empty, .startOf ⟨2026, 3, 1, by decide⟩⟩
  args

/-- The program, started elsewhere with the text as its input. -/
def startedElsewhere (args : List String) (text : String) : Invocation where
  env := { folder := ⟨"/"⟩, settingsFolder := some ⟨"/settings"⟩ }
  world := ⟨elsewhere, [], text.toUTF8, .startOf ⟨2026, 4, 1, by decide⟩⟩
  args

/-- The chart of the plans, and their outline in a file whose folder is missing
on both machines. -/
theorem outcome_show_exported_elsewhere :
    let base := "https://example.com/"
    let target : Path := ⟨"out/q3.txt"⟩
    let outline : Source := ⟨some ⟨"q3.txt"⟩, none, none, some base, false⟩
    let document : Source := ⟨none, none, none, none, true⟩
    let settings : Settings := { project := { layout := some "02/01/2006" } }
    let settings' : Settings := { user := { baseUrl := some "https://example.org/" } }
    let exporting := amongPlans ["parse", "q3.txt", "--base-url", base]
    let showing := amongPlans ["compile", "-f", "json", "q3.txt", "--base-url", base]
    let again := startedElsewhere ["compile", "--json", "-f", "json"] exporting.outcome.out
    let writing := amongPlans ["fmt", "q3.txt", "--base-url", base, "-o", target.text]
    let writingAgain := startedElsewhere ["fmt", "--json", "-o", target.text] exporting.outcome.out
    exporting.Executes (.parse outline) settings .text ∧
      showing.Executes (View.compile.command outline) settings .json ∧
      again.Executes (View.compile.command document) settings' .json ∧
      exporting.outcome.code = 0 ∧ again.outcome.code = showing.outcome.code ∧
      again.outcome.out = showing.outcome.out ∧
      writing.Executes ((View.fmt (some target)).command outline) settings .text ∧
      writingAgain.Executes ((View.fmt (some target)).command document) settings' .text ∧
      writing.outcome.code = 0 ∧ writingAgain.outcome.code = writing.outcome.code ∧
      writingAgain.outcome.out = writing.outcome.out := by
  intro base target outline document settings settings' exporting showing again writing
    writingAgain
  -- how the settings are loaded does not depend on the command
  have hload : ∃ root, (load (m := StateM World) showing.env showing.world).1 =
      .ok ⟨settings, root⟩ := ⟨some ⟨"/plans"⟩, by decide +kernel⟩
  have hloadAgain : ∃ root, (load (m := StateM World) again.env again.world).1 =
      .ok ⟨settings', root⟩ := ⟨none, by decide +kernel⟩
  have hexport : exporting.Executes (.parse outline) settings .text :=
    ⟨⟨none, false, by decide +kernel, rfl⟩, hload⟩
  have hshow : showing.Executes (View.compile.command outline) settings .json :=
    ⟨⟨some .json, false, by decide +kernel, rfl⟩, hload⟩
  have hagain : again.Executes (View.compile.command document) settings' .json :=
    ⟨⟨some .json, false, by decide +kernel, rfl⟩, hloadAgain⟩
  have hwriting : writing.Executes ((View.fmt (some target)).command outline) settings .text :=
    ⟨⟨none, false, by decide +kernel, rfl⟩, hload⟩
  have hwritingAgain :
      writingAgain.Executes ((View.fmt (some target)).command document) settings' .text :=
    ⟨⟨none, false, by decide +kernel, rfl⟩, hloadAgain⟩
  have htext : textOf outline.input showing.world =
      .ok "Build [15/01/2026, 28/02/2026, docs/parts]\n\tFrame [40%]\n|Beta" := by
    decide +kernel
  -- both machines make the folder of the file, whatever is to be written
  have hwrite : ∀ p ∈ (View.fmt (some target)).target?, ∀ bytes,
      (Machine.writeFile (m := StateM World) p bytes writingAgain.world).1.isOk =
        (Machine.writeFile (m := StateM World) p bytes writing.world).1.isOk := by
    intro p hp bytes
    obtain rfl := Option.some.inj (show some target = some p from hp)
    rw [isOk_writeFile_eq target .empty bytes, isOk_writeFile_eq target .empty bytes]
    decide +kernel
  have hcode : writing.outcome.code = 0 := by decide +kernel
  obtain ⟨hexported, hshown⟩ := outcome_show_exported hexport hshow hagain htext htext
    (textOf_toUTF8 ..) (by rintro p ⟨⟩)
  obtain ⟨-, hcodes, hout⟩ := outcome_show_exported hexport hwriting hwritingAgain htext htext
    (textOf_toUTF8 ..) hwrite
  exact ⟨hexport, hshow, hagain, hexported, hshown.1, hshown.2, hwriting, hwritingAgain, hcode,
    hcodes, hout⟩

end TextRoadmap.CommandLine
