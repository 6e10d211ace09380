/-
TextRoadmap/CommandLine/Arguments.lean

Reading the arguments of the command line.

Commands form a tree: the program has commands, and two of them have
commands of their own.  Options stand anywhere behind the command that knows
them; the format and the wish for details are known everywhere, and what is
said deepest in the tree counts.  Arguments are read from left to right, and
the first that is at fault, or that asks for the version, ends the reading.
-/
import TextRoadmap.Files.Path
import TextRoadmap.Settings.Basic
import TextRoadmap.Text.Digits

namespace TextRoadmap.CommandLine

open TextRoadmap.Text

/-! ### Options -/

/-- The options that some command knows. -/
inductive Flag where
  | format
  | verbose
  | help
  | version
  | title
  | layout
  | baseUrl
  | json
  | output
  | seed
  deriving DecidableEq

/-- The long name of an option. -/
def Flag.long : Flag → String
  | .format => "format"
  | .verbose => "verbose"
  | .help => "help"
  | .version => "version"
  | .title => "title"
  | .layout => "date-format"
  | .baseUrl => "base-url"
  | .json => "json"
  | .output => "output"
  | .seed => "seed"

/-- The letter of an option that has one. -/
def Flag.letter? : Flag → Option Char
  | .format => some 'f'
  | .verbose => some 'v'
  | .help => some 'h'
  | .version => some 'V'
  | .output => some 'o'
  | _ => none

/-- Is the option followed by a value? -/
def Flag.takesValue : Flag → Bool
  | .verbose | .help | .version | .json => false
  | _ => true

/-- Can the option have the value? -/
def Flag.accepts (value : String) : Flag → Bool
  | .format => (OutputFormat.ofName? value).isSome
  | .output => !value.isEmpty
  | _ => true

/-- The options that every command knows. -/
def commonFlags : List Flag := [.format, .verbose, .help, .version]

/-! ### Commands -/

/-- What may stand in the place of an operand. -/
inductive Operand where
  | path
  | number
  | text
  deriving DecidableEq

/-- A number of 64 bits, with or without a plus sign. -/
def readNumber64? (s : String) : Option Nat :=
  let digits := match s.toList with
    | '+' :: rest => rest
    | chars => chars
  if isNumber digits && digitsValue digits < 0x10000000000000000 then some (digitsValue digits) else none

/-- Can the operand have the value? -/
def Operand.accepts (value : String) : Operand → Bool
  | .path => !value.isEmpty
  | .number => (readNumber64? value).isSome
  | .text => true

/-- A command: its name with those of the commands above it, the options and
operands it knows, and the names of the commands below it. -/
structure Spec where
  path : List String
  flags : List Flag := []
  operands : List Operand := []
  commands : List String := []

/-- The options of the commands that read a roadmap. -/
def sourceFlags : List Flag := [.title, .layout, .baseUrl, .json]

/-- The commands. -/
def specs : List Spec :=
  [{ path := ["roadmapper"],
     commands := ["fmt", "parse", "compile", "validate", "code", "config"] },
   { path := ["roadmapper", "fmt"], flags := .output :: sourceFlags, operands := [.path] },
   { path := ["roadmapper", "parse"], flags := sourceFlags, operands := [.path] },
   { path := ["roadmapper", "compile"], flags := sourceFlags, operands := [.path] },
   { path := ["roadmapper", "validate"], flags := sourceFlags, operands := [.path] },
   { path := ["roadmapper", "code"], commands := ["encode", "decode", "new"] },
   { path := ["roadmapper", "code", "encode"], operands := [.number] },
   { path := ["roadmapper", "code", "decode"], operands := [.text] },
   { path := ["roadmapper", "code", "new"], flags := [.seed] },
   { path := ["roadmapper", "config"], commands := ["show", "set"] },
   { path := ["roadmapper", "config", "show"] },
   { path := ["roadmapper", "config", "set"], operands := [.text, .text] }]

/-- The command with the given names. -/
def specOf (path : List String) : Spec := (specs.find? (·.path = path)).getD { path }

/-! ### Gathering -/

/-- Why the arguments do not make a command. -/
inductive Stop where
  | usage
  | help
  | version (name : String)
  deriving DecidableEq

/-- What the arguments of one command say. -/
structure Gathered where
  values : List (Flag × String) := []
  operands : List String := []

/-- The value that an option has been given. -/
def Gathered.value? (g : Gathered) (flag : Flag) : Option String := g.values.lookup flag

/-- Has the option been given? -/
def Gathered.has (g : Gathered) (flag : Flag) : Bool := (g.value? flag).isSome

/-- The text by which the program names its version. -/
def Spec.versionName (spec : Spec) : String := "-".intercalate spec.path

/-- Take note of an option, which may stand once. -/
def Gathered.add (g : Gathered) (flag : Flag) (value : String) : Except Stop Gathered :=
  if g.has flag || !flag.accepts value then .error .usage
  else .ok { g with values := g.values ++ [(flag, value)] }

/-- Take note of an option without a value. -/
def Gathered.switch (g : Gathered) (spec : Spec) (flag : Flag) : Except Stop Gathered :=
  if flag = .help then .error .help
  else if flag = .version then .error (.version spec.versionName)
  else g.add flag ""

/-- Take note of an operand. -/
def Gathered.addOperand (g : Gathered) (spec : Spec) (value : String) : Except Stop Gathered :=
  match spec.operands[g.operands.length]? with
  | none => .error .usage
  | some operand =>
    if operand.accepts value then .ok { g with operands := g.operands ++ [value] }
    else .error .usage

/-- The options that a command knows. -/
def Spec.allFlags (spec : Spec) : List Flag := commonFlags ++ spec.flags

/-- The option with the given long name. -/
def Spec.long? (spec : Spec) (name : List Char) : Option Flag :=
  spec.allFlags.find? (·.long.toList = name)

/-- The option with the given letter. -/
def Spec.letter? (spec : Spec) (letter : Char) : Option Flag :=
  spec.allFlags.find? (·.letter? = some letter)

/-- Do the names behind `help` lead to a command below this one, or to its
own `help`? -/
def Spec.explains (spec : Spec) (names : List String) : Bool :=
  specs.any (·.path = spec.path ++ names) ||
    names.getLast? = some "help" &&
      specs.any fun below => below.path = spec.path ++ names.dropLast && !below.commands.isEmpty

/-- What an argument with hyphens in front has left open: nothing, or the
value of an option. -/
abbrev Pending := Gathered × Option Flag

/-- Read a long option, with or without a value behind an equals sign. -/
def readLong (spec : Spec) (g : Gathered) (text : List Char) : Except Stop Pending :=
  let name := text.takeWhile (· ≠ '=')
  match spec.long? name, text.dropWhile (· ≠ '=') with
  | none, _ => .error .usage
  | some flag, '=' :: value =>
    if flag.takesValue then (g.add flag (String.ofList value)).map fun g => (g, none)
    else .error .usage
  | some flag, _ =>
    if flag.takesValue then .ok (g, some flag)
    else (g.switch spec flag).map fun g => (g, none)

/-- Read a run of letters; the first that takes a value takes the rest of the
run, without an equals sign in front. -/
def readLetters (spec : Spec) : Gathered → List Char → Except Stop Pending
  | g, [] => .ok (g, none)
  | g, letter :: rest =>
    match spec.letter? letter with
    | none => .error .usage
    | some flag =>
      if flag.takesValue then
        match rest with
        | [] => .ok (g, some flag)
        | '=' :: value => (g.add flag (String.ofList value)).map fun g => (g, none)
        | value => (g.add flag (String.ofList value)).map fun g => (g, none)
      else (g.switch spec flag).bind fun g => readLetters spec g rest

/-- Does the argument have the form of an option?  A single hyphen does not. -/
def looksLikeFlag (arg : String) : Bool := arg.startsWith "-" && arg ≠ "-"

/-- The operands behind two hyphens. -/
def gatherOperands (spec : Spec) (g : Gathered) (args : List String) : Except Stop Gathered :=
  args.foldlM (fun g arg => g.addOperand spec arg) g

/-- Read the arguments of one command up to the name of a command below it.
The result is what they say, that name and the arguments that follow it. -/
def gather (spec : Spec) :
    (pending : Option Flag) → Gathered → List String →
      Except Stop (Gathered × Option (String × List String))
  | none, g, [] => .ok (g, none)
  | some _, _, [] => .error .usage
  | some flag, g, arg :: rest =>
    if looksLikeFlag arg then .error .usage
    else do gather spec none (← g.add flag arg) rest
  | none, g, arg :: rest =>
    match arg.toList with
    | ['-', '-'] => (gatherOperands spec g rest).map fun g => (g, none)
    | '-' :: '-' :: text => do
      let (g, pending) ← readLong spec g text
      gather spec pending g rest
    | '-' :: letter :: letters => do
      let (g, pending) ← readLetters spec g (letter :: letters)
      gather spec pending g rest
    | _ =>
      if spec.commands.contains arg then .ok (g, some (arg, rest))
      else if !spec.commands.isEmpty && arg = "help" then
        .error (if spec.explains rest then .help else .usage)
      else do gather spec none (← g.addOperand spec arg) rest

/-! ### Requests -/

/-- Where a roadmap comes from, and what the command names of its settings. -/
structure Source where
  input : Option Path
  title : Option String
  layout : Option String
  baseUrl : Option String
  json : Bool
  deriving DecidableEq

/-- What the program is asked to do. -/
inductive Command where
  | fmt (source : Source) (target : Option Path)
  | parse (source : Source)
  | compile (source : Source)
  | validate (source : Source)
  | encode (id : Nat)
  | decode (code : String)
  | newCode (seed : String)
  | showSettings
  | set (key value : String)
  deriving DecidableEq

/-- A command with the options that every command knows. -/
structure Request where
  format : Option OutputFormat
  verbose : Bool
  command : Command
  deriving DecidableEq

/-- Read the arguments of a command and of the commands below it.  The result
is the last of these commands and what the arguments say about each of them,
the last one at the end. -/
def gatherAll : (levels : Nat) → Spec → List String → Except Stop (Spec × List Gathered)
  | 0, _, _ => .error .usage
  | levels + 1, spec, args => do
    let (g, next) ← gather spec none {} args
    match next with
    | none => .ok (spec, [g])
    | some (name, rest) =>
      let (last, others) ← gatherAll levels (specOf (spec.path ++ [name])) rest
      .ok (last, g :: others)

/-- What a command that reads a roadmap has been told about it. -/
def Gathered.source (g : Gathered) : Source :=
  { input := g.operands.head?.map Path.mk
    title := g.value? .title
    layout := g.value? .layout
    baseUrl := g.value? .baseUrl
    json := g.has .json }

/-- The command with the given names, if its operands are complete. -/
def commandOf? (path : List String) (g : Gathered) : Option Command :=
  match path.tail, g.operands with
  | ["fmt"], _ => some (.fmt g.source ((g.value? .output).map Path.mk))
  | ["parse"], _ => some (.parse g.source)
  | ["compile"], _ => some (.compile g.source)
  | ["validate"], _ => some (.validate g.source)
  | ["code", "encode"], [id] => (readNumber64? id).map .encode
  | ["code", "decode"], [code] => some (.decode code)
  | ["code", "new"], _ => some (.newCode ((g.value? .seed).getD ""))
  | ["config", "show"], _ => some .showSettings
  | ["config", "set"], [key, value] => some (.set key value)
  | _, _ => none

/-- What the arguments ask for. -/
def readRequest (args : List String) : Except Stop Request := do
  let (spec, gathered) ← gatherAll 3 (specOf ["roadmapper"]) args
  match commandOf? spec.path (gathered.getLast?.getD {}) with
  | none => .error .usage
  | some command =>
    .ok
      { format := (gathered.reverse.findSome? (·.value? .format)).bind OutputFormat.ofName?
        verbose := gathered.any (·.has .verbose)
        command }

end TextRoadmap.CommandLine
