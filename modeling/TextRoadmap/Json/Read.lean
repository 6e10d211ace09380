/-
TextRoadmap/Json/Read.lean

Reading JSON values of known kinds.

A value of another kind is a mismatch, but only once it has been read: a
string that never ends is a text that ended early, whatever was wanted in its
place.  Arrays and objects are refused as soon as they begin.

A record is read from an object or from an array.  In an object the fields
come in any order, each at most once, and unknown members are passed over.
In an array they come in their own order, and fields at the end may be left
out if they have a default.
-/
import TextRoadmap.Json.Skip

namespace TextRoadmap.Json

open TextRoadmap.Text

/-! ### Single values -/

/-- The fault of a value of another kind, given by its first character. -/
def otherKind (c : Char) (rest : List Char) : Fault :=
  let scanned : Except Fault Unit :=
    if c = '"' then (readChars true rest).map fun _ => ()
    else if c = '-' then (readNumber true rest).map fun _ => ()
    else if c.isDigit then (readNumber false (c :: rest)).map fun _ => ()
    else if c = 'n' then (expectWord "ull".toList rest).map fun _ => ()
    else if c = 't' then (expectWord "rue".toList rest).map fun _ => ()
    else if c = 'f' then (expectWord "alse".toList rest).map fun _ => ()
    else if c = '[' || c = '\x7b' then .ok ()
    else .error .malformed
  match scanned with
  | .ok () => .unfit .kind
  | .error fault => fault

/-- A string. -/
def readString : Reader String := fun s =>
  match skipSpace s with
  | [] => .error .ended
  | c :: rest =>
    if c = '"' then (readChars true rest).map fun (chars, after) => (String.ofList chars, after)
    else .error (otherKind c rest)

/-- The value of a numeral as a number of eight bits. -/
def byteOf? (n : Numeral) : Option UInt8 :=
  if n.isInteger && !n.negative && digitsValue n.whole < 256 then
    some (UInt8.ofNat (digitsValue n.whole))
  else none

/-- A number of eight bits. -/
def readByte : Reader UInt8 := fun s =>
  match skipSpace s with
  | [] => .error .ended
  | c :: rest =>
    if c = '-' || c.isDigit then do
      let (n, after) ← if c = '-' then readNumber true rest else readNumber false (c :: rest)
      match byteOf? n with
      | some value => .ok (value, after)
      | none => .error (.unfit .kind)
    else .error (otherKind c rest)

/-- A value, or `null` for none. -/
def readOption {α : Type} (read : Reader α) : Reader (Option α) := fun s =>
  match skipSpace s with
  | 'n' :: rest => (expectWord "ull".toList rest).map fun after => (none, after)
  | rest => (read rest).map fun (value, after) => (some value, after)

/-- A string that has to name a value. -/
def readNamed {α : Type} (ofString : String → Except Mismatch α) : Reader α := fun s => do
  let (text, after) ← readString s
  match ofString text with
  | .ok value => .ok (value, after)
  | .error mismatch => .error (.unfit mismatch)

/-! ### Arrays -/

/-- What follows an item that is not the first: its text, if there is one.
A comma has to be followed by an item. -/
def nextItem? (first : Bool) (s : List Char) : Except Fault (Option (List Char)) :=
  match skipSpace s with
  | [] => .error .ended
  | ']' :: _ => .ok none
  | ',' :: rest =>
    if first then .error .malformed
    else
      match skipSpace rest with
      | [] => .error .ended
      | ']' :: _ => .error .malformed
      | rest => .ok (some rest)
  | rest => if first then .ok (some rest) else .error .malformed

/-- The items of an array after its bracket, and what follows them. -/
def readItems {α : Type} (read : Reader α) : (fuel : Nat) → (first : Bool) → Reader (List α)
  | 0, _, _ => .error .malformed
  | fuel + 1, first, s => do
    match ← nextItem? first s with
    | none => .ok ([], s)
    | some rest =>
      let (item, after) ← read rest
      let (items, after) ← readItems read fuel false after
      .ok (item :: items, after)

/-- The end of an array. -/
def closeArray (s : List Char) : Except Fault (List Char) := expect ']' s

/-- An array. -/
def readArray {α : Type} (read : Reader α) : Reader (List α) := fun s =>
  match skipSpace s with
  | [] => .error .ended
  | c :: rest =>
    if c = '[' then do
      let (items, after) ← readItems read (rest.length + 1) true rest
      .ok (items, ← closeArray after)
    else .error (otherKind c rest)

/-! ### Records -/

/-- A field of a record that is being read, with what has been read so far in
`σ`. -/
structure Field (σ : Type) where
  name : String
  isSet : σ → Bool
  read : σ → Reader σ

/-- The field that is kept by `get` and `set`. -/
def Field.make {σ α : Type} (name : String) (read : Reader α) (get : σ → Option α)
    (set : σ → α → σ) : Field σ where
  name := name
  isSet draft := (get draft).isSome
  read draft s := (read s).map fun (value, after) => (set draft value, after)

/-- How a record is read: its fields, the draft in which none is set, and how
the finished draft becomes the record. -/
structure Shape (σ α : Type) where
  fields : List (Field σ)
  blank : σ
  finish : σ → Except Mismatch α

/-- The text from the quote of the next key on, if there is one. -/
def nextKey? (first : Bool) (s : List Char) : Except Fault (Option (List Char)) :=
  match skipSpace s with
  | [] => .error .ended
  | '\x7d' :: _ => .ok none
  | ',' :: rest =>
    if first then .error .malformed
    else
      match skipSpace rest with
      | [] => .error .ended
      | '"' :: rest => .ok (some rest)
      | _ => .error .malformed
  | '"' :: rest => if first then .ok (some rest) else .error .malformed
  | _ => .error .malformed

/-- The draft with the value of the member that has the given key. -/
def readMember {σ : Type} (fields : List (Field σ)) (key : String) (draft : σ) : Reader σ :=
  fun s =>
    match fields.find? (·.name = key) with
    | none => do
      let rest ← expect ':' s
      .ok (draft, ← skipValue rest)
    | some field =>
      if field.isSet draft then .error (.unfit (.duplicate key))
      else do
        let rest ← expect ':' s
        field.read draft rest

/-- The draft with the members that are left of an object. -/
def readMembers {σ : Type} (fields : List (Field σ)) :
    (fuel : Nat) → (first : Bool) → σ → Reader σ
  | 0, _, _, _ => .error .malformed
  | fuel + 1, first, draft, s => do
    match ← nextKey? first s with
    | none => .ok (draft, s)
    | some rest =>
      let (key, rest) ← readChars true rest
      let (draft, rest) ← readMember fields (String.ofList key) draft rest
      readMembers fields fuel false draft rest

/-- The draft with the fields that an array gives in order. -/
def readFields {σ : Type} : List (Field σ) → (first : Bool) → σ → Reader σ
  | [], _, draft, s => .ok (draft, s)
  | field :: fields, first, draft, s => do
    match ← nextItem? first s with
    | none => .ok (draft, s)
    | some rest =>
      let (draft, rest) ← field.read draft rest
      readFields fields false draft rest

/-- The record that a draft makes; a fault of an array has no name. -/
def Shape.complete {σ α : Type} (shape : Shape σ α) (named : Bool) (draft : σ) :
    Except Fault α :=
  match shape.finish draft with
  | .ok value => .ok value
  | .error mismatch => .error (.unfit (if named then mismatch else .kind))

/-- A record. -/
def Shape.read {σ α : Type} (shape : Shape σ α) : Reader α := fun s =>
  match skipSpace s with
  | [] => .error .ended
  | c :: rest =>
    if c = '\x7b' then do
      let (draft, after) ← readMembers shape.fields (rest.length + 1) true shape.blank rest
      let value ← shape.complete true draft
      .ok (value, ← expect '\x7d' after)
    else if c = '[' then do
      let (draft, after) ← readFields shape.fields true shape.blank rest
      let value ← shape.complete false draft
      .ok (value, ← closeArray after)
    else .error (otherKind c rest)

/-- The value of a field that has to be there. -/
def require {α : Type} (field : String) : Option α → Except Mismatch α
  | some value => .ok value
  | none => .error (.missing field)

/-! ### Whole texts -/

/-- The value of a text that holds nothing else. -/
def readWholeText {α : Type} (read : Reader α) (text : String) : Except Fault α := do
  let (value, rest) ← read text.toList
  if (skipSpace rest).isEmpty then .ok value else .error .malformed

end TextRoadmap.Json
