/-
TextRoadmap/Proofs/Outline/Extra.lean

What tokens add up to, kind by kind.

The contents of a block are folded up from its tokens, and each kind of token
goes into fields of its own.  So the contents can be told from the tokens of
each kind in their order: the first date and the last of the others, the last
percentage, milestone number and color, and all links (`Extra.ofTokens_eq`,
by induction from the end, where the fold goes on).
-/
import Mathlib.Data.List.Induction
import TextRoadmap.Outline.Extra

namespace TextRoadmap.Outline

open TextRoadmap.Calendar

/-! ### Kinds of tokens -/

/-- The kinds of tokens. -/
inductive Kind where
  | date
  | percentage
  | milestone
  | color
  | url
  deriving DecidableEq

@[simp] def Token.kind : Token → Kind
  | .date _ => .date
  | .percentage _ => .percentage
  | .milestone _ => .milestone
  | .color _ => .color
  | .url _ => .url

@[simp] def Token.instant? : Token → Option Instant
  | .date i => some i
  | _ => none

@[simp] def Token.percentage? : Token → Option UInt8
  | .percentage value => some value
  | _ => none

@[simp] def Token.milestone? : Token → Option UInt8
  | .milestone number => some number
  | _ => none

@[simp] def Token.color? : Token → Option Color
  | .color c => some c
  | _ => none

@[simp] def Token.url? : Token → Option String
  | .url link => some link
  | _ => none

/-! ### The sum -/

theorem Extra.ofTokens_concat (ts : List Token) (t : Token) :
    ofTokens (ts ++ [t]) = (ofTokens ts).add t := by
  rw [ofTokens, List.foldl_append]
  rfl

/-- **The contents of a block by the kinds of its tokens.** -/
theorem Extra.ofTokens_eq (ts : List Token) : ofTokens ts =
    { startAt := (ts.filterMap Token.instant?).head?
      endAt := (ts.filterMap Token.instant?).tail.getLast?
      percentage := (ts.filterMap Token.percentage?).getLast?.getD 0
      milestone := (ts.filterMap Token.milestone?).getLast?.getD 0
      color := (ts.filterMap Token.color?).getLast?
      urls := ts.filterMap Token.url? } := by
  induction ts using List.reverseRecOn with
  | nil => rfl
  | append_singleton ts t ih =>
    rw [ofTokens_concat, ih]
    cases t with
    | date i =>
      -- the first date is the start, and each later one takes the place of the end
      cases hdates : ts.filterMap Token.instant? <;> simp [add, hdates]
    | percentage => simp [add, List.filterMap_cons]
    | milestone => simp [add, List.filterMap_cons]
    | color => simp [add, List.filterMap_cons]
    | url => simp [add, List.filterMap_cons]

/-- There is a span if there are two dates and the first comes before the last. -/
theorem Extra.span?_eq_some_iff {e : Extra} {span : Span} : e.span? = some span ↔
    e.startAt = some span.startAt ∧ e.endAt = some span.endAt ∧ span.startAt < span.endAt := by
  constructor
  · intro h
    unfold span? at h
    split at h
    · rename_i startAt endAt hstart hend
      obtain ⟨hlt, hspan⟩ := Option.ite_none_right_eq_some.1 h
      obtain rfl := Option.some.inj hspan
      exact ⟨hstart, hend, hlt⟩
    · cases h
  · rintro ⟨hstart, hend, hlt⟩
    rw [span?, hstart, hend]
    exact if_pos hlt

end TextRoadmap.Outline
