/-
TextRoadmap/Toml/Table.lean

TOML tables and the rules by which headers and entries extend them.

A table is made once: by a header, by a dotted key, or on the way to a longer
header.  Only a table of the last kind may get a header of its own later on,
and dotted keys extend only tables that were made by dotted keys.  A key is
set at most once.

Numbers, dates and truth values are not told apart.
-/

namespace TextRoadmap.Toml

/-- A table with its entries.  It is implicit if no header or value made it,
and dotted if a dotted key did. -/
structure Table (ι : Type) where
  entries : List (String × ι) := []
  implicit : Bool := false
  dotted : Bool := false

/-- What a key can hold. -/
inductive Item where
  | text (value : String)
  | scalar
  | array (items : List Item)
  | inline (table : Table Item)
  | table (table : Table Item)
  | tables (tables : List (Table Item))

namespace Table

/-- What the key holds. -/
def find? (t : Table Item) (key : String) : Option Item := t.entries.lookup key

/-- The table without the key. -/
def erase (t : Table Item) (key : String) : Table Item :=
  { t with entries := t.entries.filter (·.1 ≠ key) }

/-- The table in which the key holds the item. -/
def put (t : Table Item) (key : String) (item : Item) : Table Item :=
  { t with entries := (t.erase key).entries ++ [(key, item)] }

/-- Change the table at the end of a path, on which missing tables are made.
Of an array of tables the last one counts.  A path of a dotted key passes
through implicit tables only. -/
def descend {α : Type} (viaDots : Bool) (change : Table Item → Option (α × Table Item)) :
    List String → Table Item → Option (α × Table Item)
  | [], t => change t
  | key :: path, t =>
    match t.find? key with
    | none => do
      let (a, child) ← descend viaDots change path { implicit := true, dotted := viaDots }
      some (a, t.put key (.table child))
    | some (.table child) =>
      if viaDots && !child.implicit then none
      else do
        let (a, child) ← descend viaDots change path child
        some (a, t.put key (.table child))
    | some (.tables tables) => do
      let last ← tables.getLast?
      let (a, last) ← descend viaDots change path last
      some (a, t.put key (.tables (tables.dropLast ++ [last])))
    | some _ => none

/-- Set a key that is not set yet, in a table that was made by dots if and
only if the key was reached by dots. -/
def addEntry (viaDots : Bool) (key : String) (item : Item) (t : Table Item) :
    Option (Unit × Table Item) :=
  if t.dotted ≠ viaDots ∨ (t.find? key).isSome then none else some ((), t.put key item)

/-- The table with an entry whose key is dotted: a path and a last part. -/
def insert? (t : Table Item) (path : List String) (key : String) (item : Item) :
    Option (Table Item) :=
  (t.descend true (addEntry (!path.isEmpty) key item) path).map (·.2)

end Table

/-! ### Documents -/

/-- A header: a path, a last part, and whether it begins one of an array of
tables. -/
structure Header where
  path : List String
  key : String
  repeated : Bool

/-- A part of a document. -/
inductive Statement where
  | header (header : Header)
  | entry (path : List String) (key : String) (item : Item)

/-- A document that is being read: the tables that are finished, and the one
that is being filled, with its header if it has one. -/
structure Draft where
  root : Table Item := {}
  current : Table Item := {}
  header : Option Header := none

/-- The table that has been filled put in its place. -/
def Draft.place (d : Draft) (parent : Table Item) (h : Header) :
    Option (Unit × Table Item) :=
  if h.repeated then
    match parent.find? h.key with
    | none => some ((), parent.put h.key (.tables [d.current]))
    | some (.tables tables) => some ((), parent.put h.key (.tables (tables ++ [d.current])))
    | some _ => none
  else some ((), parent.put h.key (.table d.current))

/-- All tables, with the one that has been filled among them. -/
def Draft.finish? (d : Draft) : Option (Table Item) :=
  match d.header with
  | none => some d.current
  | some h => (d.root.descend false (fun parent => d.place parent h) h.path).map (·.2)

/-- The table that a header begins, taken out of its parent.  It is a new one
or one that was implicit up to here. -/
def beginTable (key : String) (parent : Table Item) : Option (Table Item × Table Item) :=
  match parent.find? key with
  | none => some ({}, parent)
  | some (.table t) =>
    if t.implicit && !t.dotted then some ({ t with implicit := false }, parent.erase key)
    else none
  | some _ => none

/-- The table that a header of an array of tables begins. -/
def beginRepeated (key : String) (parent : Table Item) : Option (Table Item × Table Item) :=
  match parent.find? key with
  | none => some ({}, parent.put key (.tables []))
  | some (.tables _) => some ({}, parent)
  | some _ => none

/-- The draft after one more statement. -/
def Draft.add? (d : Draft) : Statement → Option Draft
  | .entry path key item =>
    (d.current.insert? path key item).map fun current => { d with current }
  | .header h => do
    let root ← d.finish?
    let start := if h.repeated then beginRepeated h.key else beginTable h.key
    let (current, root) ← root.descend false start h.path
    some ⟨root, current, some h⟩

/-- The table that a document writes. -/
def tableOf? (statements : List Statement) : Option (Table Item) :=
  (statements.foldlM Draft.add? {}).bind Draft.finish?

end TextRoadmap.Toml
