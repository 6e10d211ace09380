/-
TextRoadmap/Toml/Read.lean

Reading TOML documents.

A document that breaks a rule is refused as a whole, without saying where.
Values nest at most 79 deep, and a key has at most 79 parts.
-/
import TextRoadmap.Toml.Scan
import TextRoadmap.Toml.Table

namespace TextRoadmap.Toml

open TextRoadmap.Text

/-! ### Keys -/

/-- The characters of a key without quotes. -/
def isKeyChar (c : Char) : Bool := c.isAlphanum || c = '_' || c = '-'

/-- A part of a key. -/
def readKeyPart? (s : List Char) : Option (String × List Char) :=
  if s.head?.any fun c => c = '"' || c = '\'' then readShortString? s
  else
    match s.takeWhile isKeyChar with
    | [] => none
    | part => some (String.ofList part, s.dropWhile isKeyChar)

/-- The number of levels that are refused. -/
def levelLimit : Nat := 80

/-- The parts of a key between points, at most as many as there is fuel. -/
def readKeyParts? : (fuel : Nat) → List Char → Option (List String × List Char)
  | 0, _ => none
  | fuel + 1, s => do
    let (part, rest) ← readKeyPart? (skipGap s)
    match skipGap rest with
    | '.' :: rest => (readKeyParts? fuel rest).map fun (parts, after) => (part :: parts, after)
    | rest => some ([part], rest)

/-- A key: the path to its last part and that part. -/
def readKey? (s : List Char) : Option (List String × String × List Char) := do
  let (parts, rest) ← readKeyParts? (levelLimit - 1) s
  let last ← parts.getLast?
  some (parts.dropLast, last, rest)

/-! ### Values -/

mutual

/-- A value at the given depth. -/
def readValueIn? : (fuel : Nat) → (depth : Nat) → List Char → Option (Item × List Char)
  | 0, _, _ => none
  | fuel + 1, depth, s =>
    match s with
    | '[' :: rest =>
      if depth + 1 < levelLimit then
        (readItemsIn? fuel (depth + 1) (skipLines false rest)).map fun (items, after) =>
          (.array items, after)
      else none
    | '\x7b' :: rest =>
      if depth + 1 < levelLimit then
        match skipGap rest with
        | '\x7d' :: after => some (.inline {}, after)
        | rest =>
          (readEntriesIn? fuel (depth + 1) {} rest).map fun (table, after) =>
            (.inline table, after)
      else none
    | '"' :: _ | '\'' :: _ => (readString? s).map fun (value, after) => (.text value, after)
    | _ => (dropScalar? s).map fun after => (.scalar, after)

/-- The items that are left of an array, and what follows its bracket. -/
def readItemsIn? : (fuel : Nat) → (depth : Nat) → List Char → Option (List Item × List Char)
  | 0, _, _ => none
  | fuel + 1, depth, s =>
    match s with
    | ']' :: rest => some ([], rest)
    | _ => do
      let (item, rest) ← readValueIn? fuel depth s
      match skipLines false rest with
      | ']' :: rest => some ([item], rest)
      | ',' :: rest =>
        let (items, after) ← readItemsIn? fuel depth (skipLines false rest)
        some (item :: items, after)
      | _ => none

/-- The table with the entries that are left of an inline table, and what
follows its brace. -/
def readEntriesIn? :
    (fuel : Nat) → (depth : Nat) → Table Item → List Char → Option (Table Item × List Char)
  | 0, _, _, _ => none
  | fuel + 1, depth, table, s => do
    let (path, key, rest) ← readKey? s
    let rest ← stripPrefix? ['='] rest
    let (item, rest) ← readValueIn? fuel depth (skipGap rest)
    let table ← table.insert? path key item
    match skipGap rest with
    | '\x7d' :: rest => some (table, rest)
    | ',' :: rest => readEntriesIn? fuel depth table rest
    | _ => none

end

/-- A value.  Of two steps one takes a character, so the length of the text
bounds them. -/
def readValue? (s : List Char) : Option (Item × List Char) := readValueIn? (2 * s.length + 2) 0 s

/-! ### Statements -/

/-- A header after its brackets, which end it as well. -/
def readHeader? (repeated : Bool) (s : List Char) : Option (Statement × List Char) := do
  let (path, key, rest) ← readKey? s
  let rest ← stripPrefix? (if repeated then [']', ']'] else [']']) rest
  let rest ← endLine? rest
  some (.header ⟨path, key, repeated⟩, rest)

/-- A key with its value. -/
def readKeyValue? (s : List Char) : Option (Statement × List Char) := do
  let (path, key, rest) ← readKey? s
  let rest ← stripPrefix? ['='] rest
  let (item, rest) ← readValue? (skipGap rest)
  let rest ← endLine? rest
  some (.entry path key item, rest)

/-- The statement at the start of a line, if there is one, and what follows
the line. -/
def readLine? (s : List Char) : Option (Option Statement × List Char) :=
  match s with
  | '[' :: '[' :: rest => (readHeader? true rest).map fun (st, after) => (some st, after)
  | '[' :: rest => (readHeader? false rest).map fun (st, after) => (some st, after)
  | '#' :: _ | '\n' :: _ | '\r' :: _ => (endLine? s).map fun after => (none, after)
  | _ => (readKeyValue? s).map fun (st, after) => (some st, after)

/-- The statements of a document. -/
def readStatements? : (fuel : Nat) → List Char → Option (List Statement)
  | 0, _ => none
  | fuel + 1, s =>
    match skipGap s with
    | [] => some []
    | s => do
      let (statement, rest) ← readLine? s
      let statements ← readStatements? fuel rest
      some (statement.toList ++ statements)

/-- The text without a mark of its byte order. -/
def dropByteOrderMark : List Char → List Char
  | '\ufeff' :: rest => rest
  | s => s

/-- The table that a document writes. -/
def read? (text : String) : Option (Table Item) :=
  let s := dropByteOrderMark text.toList
  (readStatements? (s.length + 1) s).bind tableOf?

end TextRoadmap.Toml
