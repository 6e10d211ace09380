/-
TextRoadmap/Toml/Write.lean

Writing strings as TOML.

There are four ways to write a string, and the first that needs no escape is
taken: in double quotes, in single quotes, in three double quotes and in
three single quotes.  Where all of them need one, double quotes are taken
with escapes, three of them if the string has several lines.  A string of
several lines begins on a line of its own.
-/
import TextRoadmap.Text.Digits

namespace TextRoadmap.Toml

open TextRoadmap.Text

/-- The controls that have to be escaped everywhere. -/
def needsEscape (c : Char) : Bool :=
  (c.toNat < 0x20 && c ≠ '\t' && c ≠ '\n') || c.toNat = 0x7f

/-- The length of the longest run of the mark. -/
def longestRun (mark : Char) : (current : Nat) → List Char → Nat
  | current, [] => current
  | current, c :: rest =>
    if c = mark then longestRun mark (current + 1) rest
    else max current (longestRun mark 0 rest)

/-- The ways to write a string. -/
inductive Quoting where
  | basic
  | literal
  | longBasic
  | longLiteral
  deriving DecidableEq

/-- Can the string be written in this way without escapes? -/
def Quoting.fits (s : List Char) : Quoting → Bool
  | .basic => !s.any needsEscape && !s.contains '\\' && !s.contains '"' && !s.contains '\n'
  | .literal => !s.any needsEscape && !s.contains '\'' && !s.contains '\n'
  | .longBasic => !s.any needsEscape && !s.contains '\\' && longestRun '"' 0 s ≤ 2
  | .longLiteral => !s.any needsEscape && longestRun '\'' 0 s ≤ 2

/-- The way in which a string is written. -/
def Quoting.of (s : List Char) : Quoting :=
  ([Quoting.basic, .literal, .longBasic, .longLiteral].find? (Quoting.fits s)).getD
    (if s.contains '\n' then .longBasic else .basic)

/-- The escape of a character other than the double quote, where there has to
be one. -/
def escape (long : Bool) (c : Char) : List Char :=
  if c = '\\' then ['\\', '\\']
  else if c = '\t' then ['\\', 't']
  else if c = '\n' then (if long then ['\n'] else ['\\', 'n'])
  else if c = '\x08' then ['\\', 'b']
  else if c = '\x0c' then ['\\', 'f']
  else if c = '\r' then ['\\', 'r']
  else if needsEscape c then
    '\\' :: 'u' :: '0' :: '0' :: (hexByte c.toNat).map Char.toUpper
  else [c]

/-- The characters of a string in double quotes, where `quotes` of them stand
unescaped in front.  Between three quotes only the third of a run is
escaped. -/
def escapeAll (long : Bool) : (quotes : Nat) → List Char → List Char
  | _, [] => []
  | quotes, c :: rest =>
    if c = '"' then
      if long ∧ quotes < 2 then '"' :: escapeAll long (quotes + 1) rest
      else '\\' :: '"' :: escapeAll long 0 rest
    else escape long c ++ escapeAll long 0 rest

/-- The line end with which a string of several lines begins. -/
def opening (s : List Char) : List Char := if s.contains '\n' then ['\n'] else []

/-- The string as a value. -/
def quote (s : List Char) : List Char :=
  match Quoting.of s with
  | .basic => '"' :: escapeAll false 0 s ++ ['"']
  | .literal => '\'' :: s ++ ['\'']
  | .longBasic => "\"\"\"".toList ++ opening s ++ escapeAll true 0 s ++ "\"\"\"".toList
  | .longLiteral => "'''".toList ++ opening s ++ s ++ "'''".toList

/-- A line that sets a key to a string, or nothing if there is none. -/
def line (key : String) (value : Option String) : List Char :=
  match value with
  | none => []
  | some value => key.toList ++ " = ".toList ++ quote value.toList ++ ['\n']

end TextRoadmap.Toml
