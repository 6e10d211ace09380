/-
TextRoadmap/CommandLine/Codes.lean

The commands for short codes.
-/
import TextRoadmap.CommandLine.Report
import TextRoadmap.ShortCode.Derive

namespace TextRoadmap.CommandLine

variable {m : Type → Type} [Monad m] [Machine m]

/-- A code: both of its forms as JSON, or the given text. -/
def codeText (format : OutputFormat) (code : ShortCode) (text : String) : String :=
  match format with
  | .json => dataText .json (.object [("code", .string code.text), ("id", .number code.id)])
  | .text => successText .text text

/-- The code of a number. -/
def encodeNumber (format : OutputFormat) (id : Nat) : Task m String := do
  let code ← attempt (.code s!"Can not encode id {id}") (ShortCode.ofId id)
  note "code" s!"Encoded {id} as {code.text}"
  return codeText format code code.text

/-- The number of a code. -/
def decodeCode (format : OutputFormat) (text : String) : Task m String := do
  let code ← attempt (.code s!"Can not decode '{text}'") (ShortCode.read text)
  note "code" s!"Decoded {text} as {code.id}"
  return codeText format code (toString code.id)

/-- A new code. -/
def makeCode (format : OutputFormat) (seed : String) : Task m String := do
  let code := ShortCode.derive seed (← ask Machine.now)
  note "code" s!"Generated {code.text} from seed '{seed}'"
  return codeText format code code.text

end TextRoadmap.CommandLine
