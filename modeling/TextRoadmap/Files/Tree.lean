/-
TextRoadmap/Files/Tree.lean

A machine that is a value: a tree of files and folders, the folder in which
the program runs, its input and the time.

A place is the list of names on the way from the root.  A path leads to a
place by way of folders only, where a point stays and two points go up; a
slash at its end asks for a folder.
-/
import TextRoadmap.Files.Machine

namespace TextRoadmap

/-- The names on the way from the root. -/
abbrev Place := List String

/-- What stands at a place. -/
inductive Entry where
  | folder
  | file (content : ByteArray)

/-- The kind of an entry. -/
def Entry.kind : Entry → FileKind
  | .folder => .folder
  | .file _ => .file

/-- A tree by its entries; the root is always a folder. -/
structure FileTree where
  entries : List (Place × Entry) := []

namespace FileTree

/-- What stands at a place. -/
def find? (t : FileTree) (place : Place) : Option Entry :=
  if place.isEmpty then some .folder else t.entries.lookup place

/-- Does a folder stand at the place? -/
def isFolder (t : FileTree) (place : Place) : Bool :=
  (t.find? place).any fun entry => entry.kind = .folder

/-- The tree without what stands at a place. -/
def erase (t : FileTree) (place : Place) : FileTree :=
  ⟨t.entries.filter (·.1 ≠ place)⟩

/-- The tree with an entry at a place. -/
def put (t : FileTree) (place : Place) (entry : Entry) : FileTree :=
  ⟨(t.erase place).entries ++ [(place, entry)]⟩

/-- What has been put is found. -/
theorem find?_put {t : FileTree} {place : Place} {entry : Entry} (h : place ≠ []) :
    (t.put place entry).find? place = some entry := by
  have hfound : ∀ l : List (Place × Entry),
      ((l.filter (·.1 ≠ place)) ++ [(place, entry)]).lookup place = some entry := by
    intro l
    induction l with
    | nil => simp
    | cons e l ih =>
      obtain ⟨other, x⟩ := e
      by_cases he : other = place
      · simpa [he] using ih
      · have : (place == other) = false := by simpa using fun hp : place = other => he hp.symm
        simpa [he, List.lookup_cons, this] using ih
  simpa [find?, put, erase, h] using hfound t.entries

/-! ### Paths -/

/-- The names of a path; a slash at the end counts as a point. -/
def namesOf (p : Path) : List String :=
  let names := ((p.chars.splitOn '/').filter (!·.isEmpty)).map String.ofList
  if p.chars.getLast? = some '/' then names ++ ["."] else names

/-- The place to which the names lead. -/
def walk (t : FileTree) : Place → List String → Except FileError Place
  | here, [] => .ok here
  | here, name :: rest =>
    if !t.isFolder here then .error .notFolder
    else if name = "." then walk t here rest
    else if name = ".." then walk t here.dropLast rest
    else if (t.find? (here ++ [name])).isSome then walk t (here ++ [name]) rest
    else .error .missing

/-- The place at which a path starts. -/
def startOf (folder : Place) (p : Path) : Place := if p.isAbsolute then [] else folder

/-- The place to which a path leads. -/
def locate (t : FileTree) (folder : Place) (p : Path) : Except FileError Place :=
  if p.text.isEmpty then .error .missing else t.walk (startOf folder p) (namesOf p)

/-- The folder in which a path ends and its last name.  A path that does not
end in a name of its own has none. -/
def locateNew (t : FileTree) (folder : Place) (p : Path) :
    Except FileError (Place × Option String) := do
  if p.text.isEmpty then .error .missing
  else
    let names := ((p.chars.splitOn '/').filter (!·.isEmpty)).map String.ofList
    let parent ← t.walk (startOf folder p) names.dropLast
    if !t.isFolder parent then .error .notFolder
    else .ok (parent, names.getLast?.filter fun name => name ≠ "." ∧ name ≠ "..")

/-- Does the path ask for a folder by a slash at its end? -/
def endsInSlash (p : Path) : Bool := p.chars.getLast? = some '/'

/-! ### Operations -/

/-- The content of a file. -/
def read (t : FileTree) (folder : Place) (p : Path) : Except FileError ByteArray := do
  let place ← t.locate folder p
  match t.find? place with
  | some (.file content) => .ok content
  | _ => .error .isFolder

/-- The tree with a file that has the given content. -/
def write (t : FileTree) (folder : Place) (p : Path) (content : ByteArray) :
    Except FileError FileTree := do
  let (parent, name) ← t.locateNew folder p
  match name with
  | none => .error .isFolder
  | some name =>
    if endsInSlash p then .error .isFolder
    else
      match t.find? (parent ++ [name]) with
      | some .folder => .error .isFolder
      | _ => .ok (t.put (parent ++ [name]) (.file content))

/-- The tree with a new folder. -/
def makeFolder (t : FileTree) (folder : Place) (p : Path) : Except FileError FileTree := do
  let (parent, name) ← t.locateNew folder p
  match name with
  | none => .error .exists
  | some name =>
    if (t.find? (parent ++ [name])).isSome then .error .exists
    else .ok (t.put (parent ++ [name]) .folder)

/-- The tree in which a file has moved to another place, where it replaces a
file but no folder. -/
def rename (t : FileTree) (folder : Place) (source target : Path) :
    Except FileError FileTree := do
  let place ← t.locate folder source
  let (parent, name) ← t.locateNew folder target
  match t.find? place, name with
  | some (.file content), some name =>
    if endsInSlash target then .error .notFolder
    else
      match t.find? (parent ++ [name]) with
      | some .folder => .error .isFolder
      | _ => .ok ((t.erase place).put (parent ++ [name]) (.file content))
  | _, _ => .error .busy

/-- The tree without a file. -/
def remove (t : FileTree) (folder : Place) (p : Path) : Except FileError FileTree := do
  let place ← t.locate folder p
  match t.find? place with
  | some (.file _) => .ok (t.erase place)
  | _ => .error .isFolder

end FileTree

/-! ### The machine -/

/-- A machine as a value. -/
structure World where
  tree : FileTree
  folder : Place
  input : ByteArray
  now : Calendar.Instant

/-- Change the tree, unless that fails. -/
def World.change (result : World → Except FileError FileTree) :
    StateM World (Except FileError Unit) := fun w =>
  match result w with
  | .ok tree => (.ok (), { w with tree })
  | .error e => (.error e, w)

instance : Machine (StateM World) where
  kind? p := fun w =>
    ((w.tree.locate w.folder p).toOption.bind fun place => (w.tree.find? place).map Entry.kind, w)
  read p := fun w => (w.tree.read w.folder p, w)
  -- a tree has room for everything, so what it refuses is the file itself
  write p content := do
    return (← World.change fun w => w.tree.write w.folder p content).mapError (⟨.create, ·⟩)
  makeFolder p := World.change fun w => w.tree.makeFolder w.folder p
  rename source target := World.change fun w => w.tree.rename w.folder source target
  remove p := World.change fun w => w.tree.remove w.folder p
  input := fun w => (w.input, w)
  now := fun w => (w.now, w)

end TextRoadmap
