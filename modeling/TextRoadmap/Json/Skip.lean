/-
TextRoadmap/Json/Skip.lean

Passing over a JSON value that is not wanted.

The value is checked for its grammar only, however deep it nests: numbers may
have any size, and an escape may give half of a pair.
-/
import TextRoadmap.Json.Scan

namespace TextRoadmap.Json

mutual

/-- The text after the value at its start. -/
def skipValueIn : (fuel : Nat) → List Char → Except Fault (List Char)
  | 0, _ => .error .malformed
  | fuel + 1, s =>
    match skipSpace s with
    | [] => .error .ended
    | '"' :: rest => (readChars false rest).map (·.2)
    | '[' :: rest =>
      match skipSpace rest with
      | ']' :: rest => .ok rest
      | [] => .error .ended
      | rest => skipItemsIn fuel rest
    | '\x7b' :: rest =>
      match skipSpace rest with
      | '\x7d' :: rest => .ok rest
      | [] => .error .ended
      | rest => skipMembersIn fuel rest
    | 'n' :: rest => expectWord "ull".toList rest
    | 't' :: rest => expectWord "rue".toList rest
    | 'f' :: rest => expectWord "alse".toList rest
    | '-' :: rest => (readNumeral false true rest).map (·.2)
    | c :: rest =>
      if c.isDigit then (readNumeral false false (c :: rest)).map (·.2) else .error .malformed

/-- The text after the items that are left of an array. -/
def skipItemsIn : (fuel : Nat) → List Char → Except Fault (List Char)
  | 0, _ => .error .malformed
  | fuel + 1, s => do
    let rest ← skipValueIn fuel s
    match skipSpace rest with
    | ']' :: rest => .ok rest
    | ',' :: rest => skipItemsIn fuel rest
    | rest => .error (.at rest)

/-- The text after the members that are left of an object. -/
def skipMembersIn : (fuel : Nat) → List Char → Except Fault (List Char)
  | 0, _ => .error .malformed
  | fuel + 1, s => do
    let rest ← expect '"' s
    let (_, rest) ← readChars false rest
    let rest ← expect ':' rest
    let rest ← skipValueIn fuel rest
    match skipSpace rest with
    | '\x7d' :: rest => .ok rest
    | ',' :: rest => skipMembersIn fuel rest
    | rest => .error (.at rest)

end

/-- The text after the value at its start.  Of two steps one takes a
character, so the length of the text bounds them. -/
def skipValue (s : List Char) : Except Fault (List Char) := skipValueIn (2 * s.length + 2) s

end TextRoadmap.Json
