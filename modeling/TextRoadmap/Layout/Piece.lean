/-
TextRoadmap/Layout/Piece.lean

The pieces of a date layout.

A layout shows how one reference date would be written: Monday the second of
January 2006, four minutes and five seconds past three in the afternoon, in
a zone seven hours behind universal time.  The parts of that date that occur
in a layout (its *tokens*) stand for the corresponding part of any date; all
other characters stand for themselves.

Tokens are found from left to right, the longest first, and the
abbreviations `Jan` and `Mon` count only where no lower-case letter follows,
so that `Monthly` stays a word.  `piecesOf_text` says that the pieces spell
the layout again, so nothing of it is lost.
-/
import TextRoadmap.Text.Cut

namespace TextRoadmap.Layout

open TextRoadmap.Text

/-! ### Elements -/

/-- How a number of one digit is brought to two places. -/
inductive Fill where
  | zero
  | blank
  | bare
  deriving DecidableEq

/-- A part of a date that a layout can name. -/
inductive Element where
  | year
  | shortYear
  | month (fill : Fill)
  | monthName
  | monthAbbreviation
  | weekdayName
  | weekdayAbbreviation
  | day (fill : Fill)
  | hour
  | hour12 (fill : Fill)
  | minute (fill : Fill)
  | second (fill : Fill)
  | meridiem (capital : Bool)
  | offset (colon : Bool)
  deriving DecidableEq

/-- The tokens in the order in which they are tried: where one token begins
another, the longer one comes first. -/
def tokens : List (String × Element) :=
  [("January", .monthName), ("Monday", .weekdayName), ("-07:00", .offset true),
   ("-0700", .offset false), ("2006", .year), ("Jan", .monthAbbreviation),
   ("Mon", .weekdayAbbreviation), ("_2", .day .blank), ("01", .month .zero),
   ("02", .day .zero), ("03", .hour12 .zero), ("04", .minute .zero),
   ("05", .second .zero), ("06", .shortYear), ("15", .hour), ("PM", .meridiem true),
   ("pm", .meridiem false), ("1", .month .bare), ("2", .day .bare), ("3", .hour12 .bare),
   ("4", .minute .bare), ("5", .second .bare)]

/-- Abbreviations are tokens only where they are not the beginning of a
longer word. -/
def Element.endsWord : Element → Bool
  | .monthAbbreviation | .weekdayAbbreviation => true
  | _ => false

/-- The directive that stands for the element in a pattern. -/
def Element.directive : Element → String
  | .year => "%Y"
  | .shortYear => "%y"
  | .month .zero => "%m"
  | .month .blank => "%_m"
  | .month .bare => "%-m"
  | .monthName => "%B"
  | .monthAbbreviation => "%b"
  | .weekdayName => "%A"
  | .weekdayAbbreviation => "%a"
  | .day .zero => "%d"
  | .day .blank => "%e"
  | .day .bare => "%-d"
  | .hour => "%H"
  | .hour12 .zero => "%I"
  | .hour12 .blank => "%l"
  | .hour12 .bare => "%-I"
  | .minute .zero => "%M"
  | .minute .blank => "%_M"
  | .minute .bare => "%-M"
  | .second .zero => "%S"
  | .second .blank => "%_S"
  | .second .bare => "%-S"
  | .meridiem true => "%p"
  | .meridiem false => "%P"
  | .offset true => "%:z"
  | .offset false => "%z"

/-! ### Pieces -/

/-- A piece of a layout: a token, kept with its text, or a character that
stands for itself. -/
inductive Piece where
  | token (text : List Char) (element : Element)
  | literal (c : Char)
  deriving DecidableEq

/-- The characters of the layout that make up the piece. -/
def Piece.text : Piece → List Char
  | .token text _ => text
  | .literal c => [c]

/-- The text of the piece in a pattern, where `%` begins a directive and is
itself written twice. -/
def Piece.pattern : Piece → List Char
  | .token _ element => element.directive.toList
  | .literal '%' => ['%', '%']
  | .literal c => [c]

/-- The token with which `s` begins, if the entry of the table fits. -/
def matchToken? (s : List Char) (entry : String × Element) :
    Option (List Char × Element) :=
  match stripPrefix? entry.1.toList s with
  | none => none
  | some after =>
    if entry.2.endsWord && after.head?.any Char.isLower then none
    else some (entry.1.toList, entry.2)

/-- The first token of the table with which `s` begins. -/
def leadingToken? (s : List Char) : Option (List Char × Element) :=
  tokens.findSome? (matchToken? s)

/-- The pieces of `s` after its first `skip` characters, which belong to a
token that has been read already. -/
def piecesFrom : (skip : Nat) → List Char → List Piece
  | _, [] => []
  | skip + 1, _ :: rest => piecesFrom skip rest
  | 0, c :: rest =>
    match leadingToken? (c :: rest) with
    | some (text, element) => .token text element :: piecesFrom (text.length - 1) rest
    | none => .literal c :: piecesFrom 0 rest

/-- The pieces of a layout text. -/
def piecesOf (s : List Char) : List Piece := piecesFrom 0 s

/-! ### Nothing is lost -/

/-- A leading token is a nonempty beginning of the text. -/
theorem leadingToken?_eq_some {s text : List Char} {element : Element}
    (h : leadingToken? s = some (text, element)) :
    text ≠ [] ∧ ∃ after, s = text ++ after := by
  obtain ⟨entry, hmem, hmatch⟩ := List.exists_of_findSome?_eq_some h
  have hne : ∀ e ∈ tokens, e.1.toList ≠ [] := by decide
  unfold matchToken? at hmatch
  split at hmatch
  · simp at hmatch
  · rename_i after hstrip
    split at hmatch
    · simp at hmatch
    · simp only [Option.some.injEq, Prod.mk.injEq] at hmatch
      obtain ⟨rfl, rfl⟩ := hmatch
      exact ⟨hne entry hmem, after, stripPrefix?_eq_some_iff.1 hstrip⟩

/-- The pieces after a skipped beginning spell what follows it. -/
theorem piecesFrom_text (skip : Nat) (s : List Char) :
    (piecesFrom skip s).flatMap Piece.text = s.drop skip := by
  fun_induction piecesFrom skip s with
  | case1 => simp
  | case2 skip c rest ih => simpa using ih
  | case3 c rest text element hlead ih =>
    obtain ⟨hne, after, hs⟩ := leadingToken?_eq_some hlead
    obtain ⟨d, text, rfl⟩ := List.exists_cons_of_ne_nil hne
    simp only [List.cons_append, List.cons.injEq] at hs
    obtain ⟨rfl, rfl⟩ := hs
    simpa [Piece.text] using ih
  | case4 c rest hlead ih => simpa [Piece.text] using ih

/-- The pieces spell the layout. -/
theorem piecesOf_text (s : List Char) : (piecesOf s).flatMap Piece.text = s := by
  simpa [piecesOf] using piecesFrom_text 0 s

end TextRoadmap.Layout
