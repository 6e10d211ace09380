/-
TextRoadmap/Json/Write.lean

JSON values and their text.

The members of an object keep their order.  A value is written in one line
without blanks, or over several lines with two blanks for every level; the
empty array and the empty object take one line in both styles.  Strings are
written with the short escapes where there are some; the other control
characters become `\u00` and two hexadecimal digits, and all other characters
stand for themselves.
-/
import TextRoadmap.Text.Digits

namespace TextRoadmap

open TextRoadmap.Text

/-- A JSON value. -/
inductive Json where
  | null
  | boolean (value : Bool)
  | number (value : Nat)
  | string (value : String)
  | array (items : List Json)
  | object (members : List (String × Json))

namespace Json

/-! ### Strings -/

/-- A character as it stands inside a string. -/
def escape (c : Char) : List Char :=
  if c = '"' then ['\\', '"']
  else if c = '\\' then ['\\', '\\']
  else if c = '\n' then ['\\', 'n']
  else if c = '\t' then ['\\', 't']
  else if c = '\r' then ['\\', 'r']
  else if c = '\x08' then ['\\', 'b']
  else if c = '\x0c' then ['\\', 'f']
  else if c.toNat < 0x20 then '\\' :: 'u' :: '0' :: '0' :: hexByte c.toNat
  else [c]

/-- The text in quotes. -/
def quote (s : String) : List Char := '"' :: s.toList.flatMap escape ++ ['"']

/-! ### Styles -/

/-- The two styles of a document. -/
inductive Style where
  | compact
  | indented
  deriving DecidableEq

/-- What stands in front of an entry at the given depth. -/
def Style.newline (depth : Nat) : Style → List Char
  | .compact => []
  | .indented => '\n' :: List.replicate (2 * depth) ' '

/-- What stands between a key and its value. -/
def Style.colon : Style → List Char
  | .compact => [':']
  | .indented => [':', ' ']

/-- The entries of an array or object at the given depth, in its brackets. -/
def Style.enclose (style : Style) (depth : Nat) (first last : Char)
    (entries : List (List Char)) : List Char :=
  if entries.isEmpty then [first, last]
  else
    first :: [','].intercalate (entries.map fun entry => style.newline (depth + 1) ++ entry) ++
      style.newline depth ++ [last]

/-! ### Values -/

mutual

/-- The text of a value at the given depth. -/
def writeAt (style : Style) (depth : Nat) : Json → List Char
  | .null => "null".toList
  | .boolean value => (if value then "true" else "false").toList
  | .number value => decimal value
  | .string value => quote value
  | .array items => style.enclose depth '[' ']' (writeItems style (depth + 1) items)
  | .object members => style.enclose depth '\x7b' '\x7d' (writeMembers style (depth + 1) members)

/-- The texts of the items of an array. -/
def writeItems (style : Style) (depth : Nat) : List Json → List (List Char)
  | [] => []
  | item :: rest => writeAt style depth item :: writeItems style depth rest

/-- The text of a member of an object. -/
def writeMember (style : Style) (depth : Nat) : String × Json → List Char
  | (key, value) => quote key ++ style.colon ++ writeAt style depth value

/-- The texts of the members of an object. -/
def writeMembers (style : Style) (depth : Nat) : List (String × Json) → List (List Char)
  | [] => []
  | member :: rest => writeMember style depth member :: writeMembers style depth rest

end

/-- The text of a value. -/
def write (style : Style) (value : Json) : String := String.ofList (writeAt style 0 value)

end Json

end TextRoadmap
