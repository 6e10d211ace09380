/-
TextRoadmap/Proofs/Outline/Dates.lean

Dates that are written over several tokens.

A layout with `", "` in it writes one date as several tokens.  Where as many
tokens as it writes stand together, they are tried as a date first, so a
written date is found again at the start of any row of tokens
(`readTokens_date`) and the rest of the row is read as if it stood alone.

If nothing in the rest is a date, not even by putting neighbours together, two
dates in front change nothing but the dates (`Roadmap.ofOutline_dates`).
-/
import TextRoadmap.Proofs.Outline.Block
import TextRoadmap.Proofs.Outline.Extra
import TextRoadmap.Proofs.Outline.Indentation

namespace TextRoadmap

open TextRoadmap.Text TextRoadmap.Calendar

namespace Outline

/-- An instant that can be read in a block as the layout writes it. -/
structure IsLegible (layout : Layout) (i : Instant) : Prop where
  parse : layout.parse? (layout.format i) = some i
  count : (commaSplit (dateToken layout i)).length = layout.pieceCount
  pieces : ∀ piece ∈ commaSplit (dateToken layout i), piece ≠ []
  bracket : '[' ∉ dateToken layout i
  feed : '\n' ∉ dateToken layout i
  trimmed : Trimmed isMargin (dateToken layout i)

/-- What a line shows as it is for the title of a project, with a block behind
it. -/
structure IsTitle (title : List Char) : Prop where
  ne_nil : title ≠ []
  bar : title.head? ≠ some '|'
  feed : '\n' ∉ title
  trimmed : Trimmed isMargin title

variable {s : Setting} {t : Token} {a b i : Instant} {token title : List Char}
variable {group rest tokens : List (List Char)} {ts : List Token}

/-! ### Dates at the start of a row -/

theorem classify?_of_readDate? (h : readDate? s token = some t) : classify? s token = some t := by
  rw [classify?, h]
  rfl

/-- The tokens of a date that has been read are passed over. -/
theorem readTokens_skip (s : Setting) (group rest : List (List Char)) :
    readTokens s group.length (group ++ rest) = readTokens s 0 rest := by
  induction group with
  | nil => rfl
  | cons token group ih => exact ih

/-- A date is read at the start of a row, however many tokens it takes. -/
theorem readTokens_date (hne : group ≠ []) (hlength : group.length = s.layout.pieceCount)
    (hread : readDate? s (commaJoin group) = some t) (rest : List (List Char)) :
    readTokens s 0 (group ++ rest) = t :: readTokens s 0 rest := by
  obtain ⟨token, group, rfl⟩ := List.exists_cons_of_ne_nil hne
  rw [List.cons_append, readTokens]
  by_cases hone : group = []
  · -- one token is no group but a date by itself
    subst hone
    have hgroup : groupDate? s (token :: ([] ++ rest)) = none := by
      rw [groupDate?, ← hlength]
      rfl
    rw [commaJoin_singleton] at hread
    rw [hgroup, classify?_of_readDate? hread]
    rfl
  · have hgroup : groupDate? s (token :: (group ++ rest)) = some t := by
      have hcount : 1 < s.layout.pieceCount := by
        rw [← hlength, List.length_cons]
        have := List.length_pos_iff.2 hone
        omega
      rw [groupDate?, if_pos ⟨hcount, by simp [← hlength]⟩, ← hlength, ← List.cons_append,
        List.take_left]
      exact hread
    rw [hgroup, ← hlength]
    exact congrArg (t :: ·) (readTokens_skip s group rest)

/-- A written date is read in front of other tokens. -/
theorem IsLegible.readTokens (h : IsLegible s.layout i) (rest : List (List Char)) :
    Outline.readTokens s 0 (commaSplit (dateToken s.layout i) ++ rest) =
      .date i :: Outline.readTokens s 0 rest := by
  refine readTokens_date (commaSplit_ne_nil _) h.count ?_ rest
  rw [commaJoin_commaSplit, readDate?, dateToken, String.ofList_toList, h.parse]
  rfl

/-! ### Rows without dates -/

/-- Neither a token nor as many neighbours as the layout writes are a date. -/
structure HasNoDate (layout : Layout) (tokens : List (List Char)) : Prop where
  single : ∀ token ∈ tokens, layout.parse? (String.ofList token) = none
  group : ∀ group, group <:+: tokens → group.length = layout.pieceCount →
    layout.parse? (String.ofList (commaJoin group)) = none

theorem HasNoDate.readTokens (h : HasNoDate s.layout tokens) :
    (Outline.readTokens s 0 tokens).filterMap Token.instant? = [] := by
  rw [List.filterMap_eq_nil_iff]
  intro t ht
  cases t with
  | date i =>
    rcases mem_readTokens 0 ht with ⟨token, htoken, hread⟩ | ⟨group, hgroup, hlength, hread⟩
    · have hread := classify?_inv hread
      rw [readDate?, h.single token htoken] at hread
      cases hread
    · rw [readDate?, h.group group hgroup hlength] at hread
      cases hread
  | _ => rfl

/-- The contents with the dates. -/
def Extra.withDates (e : Extra) (a b : Instant) : Extra :=
  { e with startAt := some a, endAt := some b }

/-- Two dates in front are the dates, where there are no others. -/
theorem Extra.ofTokens_dates (h : ts.filterMap Token.instant? = []) (a b : Instant) :
    ofTokens (.date a :: .date b :: ts) = (ofTokens ts).withDates a b := by
  rw [withDates, ofTokens_eq, ofTokens_eq]
  simp [List.filterMap_cons, h]

theorem Extra.project_withDates {e : Extra} (hlt : a < b) (depth : Nat) (title : List Char) :
    (e.withDates a b).project depth title =
      { e.project depth title with dates := some ⟨a, b⟩ } := by
  have hspan : (e.withDates a b).span? = some ⟨a, b⟩ :=
    span?_eq_some_iff.2 ⟨rfl, rfl, hlt⟩
  rw [project, hspan]
  rfl

/-! ### Blocks that begin with dates -/

theorem IsLegible.ne_nil (h : IsLegible s.layout i) : dateToken s.layout i ≠ [] := by
  intro hnil
  have hpieces := h.pieces
  rw [hnil] at hpieces
  exact hpieces [] (List.mem_singleton_self []) rfl

/-- Dates are read from the block that they make up with plain tokens. -/
theorem tokensOf_dates (ha : IsLegible s.layout a) (hb : IsLegible s.layout b)
    (hrest : ∀ token ∈ rest, IsPlain token) :
    tokensOf s (commaJoin (dateToken s.layout a :: dateToken s.layout b :: rest)) =
      .date a :: .date b :: readTokens s 0 rest := by
  have hpieces : ∀ piece ∈ commaSplit (dateToken s.layout a) ++
      (commaSplit (dateToken s.layout b) ++ rest), piece ≠ [] := by
    intro piece hpiece
    rcases List.mem_append.1 hpiece with hpiece | hpiece
    · exact ha.pieces piece hpiece
    · rcases List.mem_append.1 hpiece with hpiece | hpiece
      · exact hb.pieces piece hpiece
      · exact (hrest piece hpiece).ne_nil
  rw [tokensOf, commaSplit_commaJoin_flatMap (by simp), List.flatMap_cons, List.flatMap_cons,
    flatMap_commaSplit fun t ht => (hrest t ht).comma, List.takeWhile_eq_self_iff.2, ha.readTokens,
    hb.readTokens]
  simpa using hpieces

theorem Extra.span?_read (hrest : ∀ token ∈ rest, IsPlain token) (hno : HasNoDate s.layout rest) :
    (read s (trim isMargin (commaJoin rest))).span? = none := by
  rw [read_tokens hrest, ofTokens_eq, hno.readTokens]
  rfl

/-- What is read from such a block, but the dates, is read from the rest. -/
theorem Extra.read_dates (ha : IsLegible s.layout a) (hb : IsLegible s.layout b)
    (hrest : ∀ token ∈ rest, IsPlain token) (hno : HasNoDate s.layout rest) :
    read s (trim isMargin (commaJoin (dateToken s.layout a :: dateToken s.layout b :: rest))) =
      (read s (trim isMargin (commaJoin rest))).withDates a b := by
  have hne : ∀ token ∈ dateToken s.layout a :: dateToken s.layout b :: rest, token ≠ [] :=
    List.forall_mem_cons.2 ⟨ha.ne_nil,
      List.forall_mem_cons.2 ⟨hb.ne_nil, fun token ht => (hrest token ht).ne_nil⟩⟩
  have htrimmed : ∀ token ∈ dateToken s.layout a :: dateToken s.layout b :: rest,
      Trimmed isMargin token :=
    List.forall_mem_cons.2 ⟨ha.trimmed,
      List.forall_mem_cons.2 ⟨hb.trimmed, fun token ht => (hrest token ht).trimmed⟩⟩
  rw [trim_eq_self (trimmed_commaJoin hne htrimmed), read, tokensOf_dates ha hb hrest,
    ofTokens_dates hno.readTokens, read_tokens hrest]

/-! ### Texts of one line -/

/-- A line with a title and a block. -/
def IsTitle.row (h : IsTitle title) (hfeed : ∀ token ∈ tokens, '\n' ∉ token) : Row where
  depth := 0
  body := withBlock title tokens
  body_ne_nil := by simp [withBlock]
  head?_body := by
    obtain ⟨c, rest, rfl⟩ := List.exists_cons_of_ne_nil h.ne_nil
    have hc : isIndent c = false := isIndent_eq_false (h.trimmed.head c rfl)
    simpa [withBlock] using hc
  feed_not_mem_body := by
    have hjoin : '\n' ∉ commaJoin tokens := not_mem_commaJoin (by decide) (by decide) hfeed
    simp [withBlock, h.feed, hjoin]
  getLast?_body := by
    rw [withBlock_eq, ← List.cons_append, ← List.append_assoc, List.getLast?_concat]
    decide

theorem IsTitle.isProjectLine_withBlock (h : IsTitle title) (tokens : List (List Char)) :
    isProjectLine (withBlock title tokens) = true := by
  obtain ⟨c, rest, rfl⟩ := List.exists_cons_of_ne_nil h.ne_nil
  have hc : isMargin c = false := h.trimmed.head c rfl
  have hbar : c ≠ '|' := fun hbar => h.bar (by rw [hbar]; rfl)
  rw [isProjectLine_iff]
  simp [withBlock, isBlankLine, isMilestoneLine, hc, hbar]

/-- A text of one such line is one project. -/
theorem IsTitle.ofOutline_withBlock (h : IsTitle title)
    (hfeed : ∀ token ∈ tokens, '\n' ∉ token) (hfree : ∀ token ∈ tokens, '[' ∉ token)
    (heading : Heading) (now : Instant) :
    (Roadmap.ofOutline heading now (String.ofList (withBlock title tokens))).projects =
        [(Extra.read heading.setting (trim isMargin (commaJoin tokens))).project 0 title] ∧
      (Roadmap.ofOutline heading now (String.ofList (withBlock title tokens))).milestones = [] := by
  have hunit : IsUnit ['\t'] := ⟨by simp, by simp [isIndent]⟩
  have hrows : ShowsUnit [h.row hfeed] := by rintro row ⟨⟩
  have hkind : isProjectLine (h.row hfeed).body = true := h.isProjectLine_withBlock tokens
  have hlines : linesOf (withBlock title tokens) = [h.row hfeed].map (Row.line ['\t']) := by
    have hlines := linesOf_rows hunit [h.row hfeed]
    rwa [List.map_singleton, List.intercalate_singleton] at hlines
  have hproject := projectAt_withBlock (not_mem_commaJoin (by decide) (by decide) hfree)
    heading.setting 0 title
  rw [trim_eq_self h.trimmed] at hproject
  rw [Roadmap.ofOutline, String.toList_ofList]
  dsimp only
  rw [hlines, readProjects_rows hunit hrows, readMilestones_rows hunit, List.filter_singleton,
    List.filter_singleton, hkind, (isProjectLine_iff.1 hkind).2]
  exact ⟨congrArg ([·]) hproject, rfl⟩

end Outline

open Outline

variable {heading : Heading} {a b : Instant} {title : List Char} {rest : List (List Char)}

/-- **Dates over several tokens do not disturb their neighbours.**  Behind a
title, two dates in front of tokens that hold no date are the dates of the
project, and all else is what it is without them. -/
theorem Roadmap.ofOutline_dates (ha : IsLegible heading.layout a)
    (hb : IsLegible heading.layout b) (hlt : a < b) (htitle : IsTitle title)
    (hrest : ∀ token ∈ rest, IsPlain token) (hno : HasNoDate heading.layout rest) (now : Instant) :
    let read tokens := Roadmap.ofOutline heading now (String.ofList (withBlock title tokens))
    let dated := dateToken heading.layout a :: dateToken heading.layout b :: rest
    ∃ p, (read rest).projects = [p] ∧ p.title = String.ofList title ∧ p.dates = none ∧
      (read dated).projects = [{ p with dates := some ⟨a, b⟩ }] ∧
      (read rest).milestones = [] ∧ (read dated).milestones = [] := by
  intro read dated
  have hfeed : ∀ token ∈ dated, '\n' ∉ token :=
    List.forall_mem_cons.2 ⟨ha.feed,
      List.forall_mem_cons.2 ⟨hb.feed, fun token ht => (hrest token ht).feed⟩⟩
  have hfree : ∀ token ∈ dated, '[' ∉ token :=
    List.forall_mem_cons.2 ⟨ha.bracket,
      List.forall_mem_cons.2 ⟨hb.bracket, fun token ht => (hrest token ht).bracket⟩⟩
  obtain ⟨hplain, hplain'⟩ := htitle.ofOutline_withBlock (fun token ht => (hrest token ht).feed)
    (fun token ht => (hrest token ht).bracket) heading now
  obtain ⟨hdated, hdated'⟩ := htitle.ofOutline_withBlock hfeed hfree heading now
  have hread : Extra.read heading.setting (trim isMargin (commaJoin dated)) =
      (Extra.read heading.setting (trim isMargin (commaJoin rest))).withDates a b :=
    Extra.read_dates ha hb hrest hno
  rw [hread, Extra.project_withDates hlt] at hdated
  exact ⟨_, hplain, rfl, Extra.span?_read hrest hno, hdated, hplain', hdated'⟩

/-- Pieces of dates could be links here, since there is a base. -/
theorem Roadmap.ofOutline_dates_in_words :
    let heading : Heading := ⟨0, none, "Plan", ⟨"Jan 2, 2006"⟩, "https://example.com"⟩
    let a : Instant := .startOf ⟨2020, 2, 1, by decide⟩
    let b : Instant := .startOf ⟨2020, 3, 1, by decide⟩
    let title := "Epic [1]".toList
    let rest := ["docs".toList, "50%".toList]
    let dated := dateToken heading.layout a :: dateToken heading.layout b :: rest
    let read tokens := Roadmap.ofOutline heading a (String.ofList (withBlock title tokens))
    String.ofList (withBlock title dated) = "Epic [1] [Feb 1, 2020, Mar 1, 2020, docs, 50%]" ∧
      ∃ p, (read rest).projects = [p] ∧ p.title = String.ofList title ∧ p.dates = none ∧
        (read dated).projects = [{ p with dates := some ⟨a, b⟩ }] ∧
        (read rest).milestones = [] ∧ (read dated).milestones = [] := by
  intro heading a b title rest dated read
  have ha : IsLegible heading.layout a :=
    ⟨by decide +kernel, by decide +kernel, by decide +kernel, by decide +kernel,
      by decide +kernel, by decide +kernel⟩
  have hb : IsLegible heading.layout b :=
    ⟨by decide +kernel, by decide +kernel, by decide +kernel, by decide +kernel,
      by decide +kernel, by decide +kernel⟩
  have htitle : IsTitle title :=
    ⟨by decide +kernel, by decide +kernel, by decide +kernel, by decide +kernel⟩
  have hrest : ∀ token ∈ rest, IsPlain token := isPlain_of_all (by decide +kernel)
  have hno : HasNoDate heading.layout rest := by
    refine ⟨by decide +kernel, fun group hgroup hlength => ?_⟩
    -- the two tokens make the only group
    have hcount : heading.layout.pieceCount = rest.length := by decide +kernel
    rw [hgroup.eq_of_length (hlength.trans hcount)]
    decide +kernel
  exact ⟨by decide +kernel, Roadmap.ofOutline_dates ha hb (by decide +kernel) htitle hrest hno a⟩

end TextRoadmap
