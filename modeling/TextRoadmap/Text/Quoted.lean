/-
TextRoadmap/Text/Quoted.lean

Text in quotes as it stands in notes: quotes and all that does not show are
escaped, so that every note is one line.
-/
import TextRoadmap.Unicode.Unseen

namespace TextRoadmap.Text

/-- The hexadecimal digits of a number, without leading zeros. -/
def hexNumber (n : Nat) : List Char := Nat.toDigits 16 n

/-- A character as it stands between quotes. -/
def escapeQuoted (c : Char) : List Char :=
  if c = '\x00' then ['\\', '0']
  else if c = '\t' then ['\\', 't']
  else if c = '\n' then ['\\', 'n']
  else if c = '\r' then ['\\', 'r']
  else if c = '"' ∨ c = '\'' ∨ c = '\\' then ['\\', c]
  else if Unicode.isUnseen c then '\\' :: 'u' :: '\x7b' :: hexNumber c.toNat ++ ['\x7d']
  else [c]

/-- The text in quotes. -/
def quoted (s : List Char) : List Char := '"' :: s.flatMap escapeQuoted ++ ['"']

end TextRoadmap.Text
