/-
TextRoadmap/Proofs/Document/RoundTrip.lean

Documents that are read back.

Every value of a document is read as itself: an instant, a color or a code
because its text is, and a record because its members lead to a draft that
makes it.  A member that is left out is one whose default is the value.  So a
roadmap whose numbers have codes reads back from its document
(`Roadmap.document_roundTrip`).
-/
import TextRoadmap.Document.Read
import TextRoadmap.Proofs.Calendar.Rfc3339
import TextRoadmap.Proofs.Color.Basic
import TextRoadmap.Proofs.Json.Record
import TextRoadmap.Proofs.ShortCode.Basic

namespace TextRoadmap

open TextRoadmap.Json TextRoadmap.Calendar

variable {style : Style}

/-! ### Values in strings -/

theorem Calendar.Instant.reads (i : Instant) : Reads Instant.readJson i.json i := by
  refine Reads.named ?_
  rw [Instant.ofRfc3339?_toRfc3339]

theorem Color.reads (c : Color) : Reads Color.readJson c.json c := by
  refine Reads.named ?_
  rw [Color.read_text]
  rfl

theorem ShortCode.reads (c : ShortCode) : Reads ShortCode.readJson c.json c := by
  refine Reads.named ?_
  rw [ShortCode.read_text]
  rfl

theorem Layout.reads (l : Layout) : Reads Layout.readJson l.json l := Reads.named rfl

theorem reads_strings (values : List String) :
    Reads (readArray readString) (.array (values.map .string)) values :=
  reads_array fun s _ => reads_string s

/-! ### Spans -/

theorem Span.reads (s : Span) : Reads Span.shape.read s.json s := by
  refine Shape.reads ⟨some s.startAt, some s.endAt⟩ ?_ rfl
  refine .cons (takes_make rfl rfl s.startAt.reads rfl) ?_
  exact .cons (takes_make rfl rfl s.endAt.reads rfl) .nil

/-! ### Defaults of members that are left out -/

variable {α : Type}

theorem getD_map_some (o : Option α) : (o.map some).getD none = o := by
  cases o <;> rfl

theorem getD_unless_isEmpty (l : List α) : (if l.isEmpty then none else some l).getD [] = l := by
  cases l <;> rfl

theorem getD_unless_eq [DecidableEq α] (a b : α) : (if a = b then none else some a).getD b = a := by
  split
  · rename_i h
    exact h.symm
  · rfl

/-! ### Projects -/

/-- The draft that the members of a project lead to. -/
def Project.draft (p : Project) : Project.Draft :=
  { indentation := some p.indentation
    title := some p.title
    dates := p.dates.map some
    color := p.color.map some
    percentage := some p.percentage
    urls := if p.urls.isEmpty then none else some p.urls
    milestone := if p.milestone = 0 then none else some p.milestone }

theorem Project.finish_draft (p : Project) : Project.shape.finish p.draft = .ok p := by
  show Except.ok (Project.mk p.indentation p.title ((p.dates.map some).getD none)
    ((p.color.map some).getD none) p.percentage
    ((if p.urls.isEmpty then none else some p.urls).getD [])
    ((if p.milestone = 0 then none else some p.milestone).getD 0)) = _
  rw [getD_map_some, getD_map_some, getD_unless_isEmpty, getD_unless_eq]

theorem Project.reads (p : Project) : Reads Project.shape.read p.json p := by
  obtain ⟨i, t, dates, color, n, urls, m⟩ := p
  -- one step for each member, with what the draft holds after it
  refine Shape.reads (Project.draft ⟨i, t, dates, color, n, urls, m⟩) ?_ (Project.finish_draft _)
  simp only [Json.strings, List.append_assoc, List.cons_append, List.nil_append]
  refine .cons (takes_make rfl rfl (reads_byte i) rfl) ?_
  refine .cons (takes_make rfl rfl (reads_string t) rfl) ?_
  refine .append (.optional dates
    (fun dates => Project.Draft.mk (some i) (some t) (dates.map some) none none none none)
    fun s => takes_make rfl rfl s.reads.option rfl) ?_
  refine .append (.optional color
    (fun color => Project.Draft.mk (some i) (some t) _ (color.map some) none none none)
    fun c => takes_make rfl rfl c.reads.option rfl) ?_
  refine .cons (takes_make rfl rfl (reads_byte n) rfl) ?_
  refine .append (.unless (fun urls => Project.Draft.mk (some i) (some t) _ _ (some n) urls none)
    (takes_make rfl rfl (reads_strings urls) rfl)) ?_
  exact .unless (fun m => Project.Draft.mk (some i) (some t) _ _ (some n) _ m)
    (takes_make rfl rfl (reads_byte m) rfl)

/-! ### Milestones -/

/-- The draft that the members of a milestone lead to. -/
def Milestone.draft (m : Milestone) : Milestone.Draft :=
  { title := some m.title
    deadlineAt := m.deadlineAt.map some
    color := m.color.map some
    urls := if m.urls.isEmpty then none else some m.urls }

theorem Milestone.finish_draft (m : Milestone) : Milestone.shape.finish m.draft = .ok m := by
  show Except.ok (Milestone.mk m.title ((m.deadlineAt.map some).getD none)
    ((m.color.map some).getD none) ((if m.urls.isEmpty then none else some m.urls).getD [])) = _
  rw [getD_map_some, getD_map_some, getD_unless_isEmpty]

theorem Milestone.reads (m : Milestone) : Reads Milestone.shape.read m.json m := by
  obtain ⟨t, deadline, color, urls⟩ := m
  refine Shape.reads (Milestone.draft ⟨t, deadline, color, urls⟩) ?_ (Milestone.finish_draft _)
  simp only [Json.strings, List.append_assoc, List.cons_append, List.nil_append]
  refine .cons (takes_make rfl rfl (reads_string t) rfl) ?_
  refine .append (.optional deadline
    (fun deadline => Milestone.Draft.mk (some t) (deadline.map some) none none)
    fun i => takes_make rfl rfl i.reads.option rfl) ?_
  refine .append (.optional color
    (fun color => Milestone.Draft.mk (some t) _ (color.map some) none)
    fun c => takes_make rfl rfl c.reads.option rfl) ?_
  exact .unless (fun urls => Milestone.Draft.mk (some t) _ _ urls)
    (takes_make rfl rfl (reads_strings urls) rfl)

/-! ### Documents -/

/-- The draft that the members of a document lead to. -/
def Document.draft (d : Document) : Document.Draft :=
  { id := d.id.map some
    prevId := d.prevId.map some
    title := some d.title
    layout := some d.layout
    baseUrl := some d.baseUrl
    projects := some d.projects
    milestones := some d.milestones }

theorem Document.finish_draft (d : Document) : Document.shape.finish d.draft = .ok d := by
  show Except.ok (Document.mk ((d.id.map some).getD none) ((d.prevId.map some).getD none) d.title
    d.layout d.baseUrl d.projects d.milestones) = _
  rw [getD_map_some, getD_map_some]

theorem Document.reads (d : Document) : Reads Document.shape.read d.json d := by
  obtain ⟨code, prev, t, l, b, projects, milestones⟩ := d
  refine Shape.reads (Document.draft ⟨code, prev, t, l, b, projects, milestones⟩) ?_
    (Document.finish_draft _)
  simp only [List.append_assoc]
  refine .append (.optional code
    (fun code => Document.Draft.mk (code.map some) none none none none none none)
    fun c => takes_make rfl rfl c.reads.option rfl) ?_
  refine .append (.optional prev
    (fun prev => Document.Draft.mk _ (prev.map some) none none none none none)
    fun c => takes_make rfl rfl c.reads.option rfl) ?_
  refine .cons (takes_make rfl rfl (reads_string t) rfl) ?_
  refine .cons (takes_make rfl rfl l.reads rfl) ?_
  refine .cons (takes_make rfl rfl (reads_string b) rfl) ?_
  refine .cons (takes_make rfl rfl (reads_array fun p _ => p.reads) rfl) ?_
  exact .cons (takes_make rfl rfl (reads_array fun m _ => m.reads) rfl) .nil

/-- A document reads back from its text, in either style. -/
theorem Document.read_write (style : Style) (d : Document) :
    Document.read (d.write style) = .ok d := by
  have hread := d.reads.read style 0 [] [] isBlanks_nil stops_nil
  rw [List.nil_append, List.append_nil] at hread
  rw [Document.read, readWholeText, Document.write, Json.write, String.toList_ofList, hread]
  rfl

/-- A document reads back from its text on a line. -/
theorem Document.read_write_newline (style : Style) (d : Document) :
    Document.read (d.write style ++ "\n") = .ok d := by
  have hstops : Stops ['\n'] := by
    rintro c hc
    exact Or.inr (Or.inl (Option.some.inj hc).symm)
  have hread := d.reads.read style 0 [] ['\n'] isBlanks_nil hstops
  rw [List.nil_append] at hread
  rw [Document.read, readWholeText, Document.write, Json.write, String.toList_append,
    String.toList_ofList]
  show (Document.shape.read (d.json.writeAt style 0 ++ ['\n'])).bind _ = _
  rw [hread]
  rfl

/-! ### Codes of numbers -/

theorem ShortCode.ofId_of_lt {n : Nat} (h : largest < n) :
    ofId n = .error (.outOfBounds (toString n)) := by
  have hbound : ¬n < 0x100000000000 := by
    rw [largest] at h
    omega
  rw [ofId, dif_neg hbound]

theorem ShortCode.ofId_of_le {n : Nat} (h : n ≤ largest) : ∃ c, ofId n = .ok c ∧ c.id = n := by
  have hbound : n < 0x100000000000 := by
    rw [largest] at h
    omega
  exact ⟨⟨n, hbound⟩, by rw [ofId, dif_pos hbound], rfl⟩

theorem ShortCode.text_of_id_eq_zero {c : ShortCode} (h : c.id = 0) : c.text = "" := by
  rw [text, h]
  decide

variable {r : Roadmap} {d : Document}

theorem Roadmap.code?_of_lt (h : ShortCode.largest < r.id) :
    r.code? = .error (.outOfBounds (toString r.id)) := by
  have hzero : r.id ≠ 0 := Nat.ne_zero_of_lt h
  rw [code?, if_neg hzero, ShortCode.ofId_of_lt h]
  rfl

theorem Roadmap.code?_of_le (h : r.id ≤ ShortCode.largest) :
    ∃ code, r.code? = .ok code ∧ (code.map (·.id)).getD 0 = r.id ∧ (code = none ↔ r.id = 0) := by
  rw [code?]
  split
  · rename_i hzero
    exact ⟨none, rfl, hzero.symm, by simp [hzero]⟩
  · rename_i hzero
    obtain ⟨c, hc, hid⟩ := ShortCode.ofId_of_le h
    rw [hc]
    exact ⟨some c, rfl, hid, by simp [hzero]⟩

theorem Roadmap.prevCode?_of_lt {p : Nat} (hprev : r.prevId = some p)
    (h : ShortCode.largest < p) : r.prevCode? = .error (.outOfBounds (toString p)) := by
  rw [prevCode?, hprev]
  show (ShortCode.ofId p).map some = _
  rw [ShortCode.ofId_of_lt h]
  rfl

theorem Roadmap.prevCode?_of_le (h : ∀ p, r.prevId = some p → p ≤ ShortCode.largest) :
    ∃ code, r.prevCode? = .ok code ∧ code.map (·.id) = r.prevId := by
  rw [prevCode?]
  rcases hprev : r.prevId with - | p
  · exact ⟨none, rfl, rfl⟩
  · obtain ⟨c, hc, hid⟩ := ShortCode.ofId_of_le (h p hprev)
    refine ⟨some c, ?_, congrArg some hid⟩
    show (ShortCode.ofId p).map some = _
    rw [hc]
    rfl

/-! ### Roadmaps -/

/-- The roadmap with a history that begins now. -/
def Roadmap.renewed (r : Roadmap) (now : Instant) : Roadmap :=
  { r with createdAt := now, updatedAt := now, accessedAt := now }

/-- The value of the first member with the given key. -/
def Json.member? (key : String) : Json → Option Json
  | .object members => members.lookup key
  | _ => none

theorem Document.member?_id (d : Document) : d.json.member? "id" = d.id.map ShortCode.json := by
  obtain ⟨code, prev, title, layout, baseUrl, projects, milestones⟩ := d
  cases code <;> cases prev <;> rfl

theorem Document.member?_prevId (d : Document) :
    d.json.member? "prev_id" = d.prevId.map ShortCode.json := by
  obtain ⟨code, prev, title, layout, baseUrl, projects, milestones⟩ := d
  cases code <;> cases prev <;> rfl

theorem Roadmap.document_of_lt (h : ShortCode.largest < r.id) :
    r.document = .error (.outOfBounds (toString r.id)) := by
  rw [document, code?_of_lt h]
  rfl

theorem Roadmap.document_of_prev_lt {p : Nat} (hid : r.id ≤ ShortCode.largest)
    (hprev : r.prevId = some p) (h : ShortCode.largest < p) :
    r.document = .error (.outOfBounds (toString p)) := by
  obtain ⟨code, hcode, -⟩ := code?_of_le hid
  rw [document, hcode, prevCode?_of_lt hprev h]
  rfl

theorem Roadmap.document_of_le (hid : r.id ≤ ShortCode.largest)
    (hprev : ∀ p, r.prevId = some p → p ≤ ShortCode.largest) :
    ∃ d, r.document = .ok d ∧ (∀ now, d.roadmap now = r.renewed now) ∧
      (d.id = none ↔ r.id = 0) ∧ d.prevId.map (·.id) = r.prevId := by
  obtain ⟨code, hcode, hcodeId, hnone⟩ := code?_of_le hid
  obtain ⟨prev, hprevCode, hprevId⟩ := prevCode?_of_le hprev
  refine ⟨⟨code, prev, r.title, r.layout, r.baseUrl, r.projects, r.milestones⟩, ?_, ?_, hnone,
    hprevId⟩
  · rw [document, hcode, hprevCode]
    rfl
  · intro now
    rw [Document.roadmap, Roadmap.renewed, hcodeId, hprevId]

theorem Roadmap.exists_error_iff : (∃ e, r.document = .error e) ↔
    ShortCode.largest < r.id ∨ ∃ p, r.prevId = some p ∧ ShortCode.largest < p := by
  constructor
  · rintro ⟨e, he⟩
    by_contra hfits
    rw [not_or, not_exists] at hfits
    obtain ⟨d, hd, -⟩ := document_of_le (Nat.not_lt.1 hfits.1)
      fun p hp => Nat.not_lt.1 fun hlt => hfits.2 p ⟨hp, hlt⟩
    rw [hd] at he
    cases he
  · rintro (hid | ⟨p, hp, hlt⟩)
    · exact ⟨_, document_of_lt hid⟩
    · -- the number of the roadmap itself is reported first
      rcases Nat.lt_or_ge ShortCode.largest r.id with hid | hid
      · exact ⟨_, document_of_lt hid⟩
      · exact ⟨_, document_of_prev_lt hid hp hlt⟩

theorem Roadmap.le_of_document (h : r.document = .ok d) :
    r.id ≤ ShortCode.largest ∧ ∀ p, r.prevId = some p → p ≤ ShortCode.largest := by
  have hfits : ¬∃ e, r.document = .error e := by
    rintro ⟨e, he⟩
    rw [h] at he
    cases he
  rw [exists_error_iff, not_or, not_exists] at hfits
  exact ⟨Nat.not_lt.1 hfits.1, fun p hp => Nat.not_lt.1 fun hlt => hfits.2 p ⟨hp, hlt⟩⟩

/-- A roadmap has no document exactly if one of its numbers has no code, and
the error names that number, its own before that of the roadmap before it.
The text of a document reads back as the roadmap with a new history, and
what it says of the numbers tells none, zero and the others apart. -/
theorem Roadmap.document_roundTrip (r : Roadmap) :
    ((∃ e, r.document = .error e) ↔
      ShortCode.largest < r.id ∨ ∃ p, r.prevId = some p ∧ ShortCode.largest < p) ∧
    (ShortCode.largest < r.id → r.document = .error (.outOfBounds (toString r.id))) ∧
    (r.id ≤ ShortCode.largest → ∀ p, r.prevId = some p → ShortCode.largest < p →
      r.document = .error (.outOfBounds (toString p))) ∧
    ∀ d, r.document = .ok d →
      (∀ style now, (Document.read (d.write style)).map (·.roadmap now) = .ok (r.renewed now)) ∧
      (d.json.member? "id" = none ↔ r.id = 0) ∧
      (d.json.member? "prev_id" = none ↔ r.prevId = none) ∧
      (r.prevId = some 0 → d.json.member? "prev_id" = some (.string "")) := by
  refine ⟨exists_error_iff, document_of_lt,
    fun hid p hp hlt => document_of_prev_lt hid hp hlt, ?_⟩
  intro d hd
  obtain ⟨hid, hprev⟩ := le_of_document hd
  obtain ⟨d', hd', hroadmap, hcode, hprevId⟩ := document_of_le hid hprev
  obtain rfl : d' = d := Except.ok.inj (hd'.symm.trans hd)
  refine ⟨?_, ?_, ?_, ?_⟩
  · intro style now
    rw [Document.read_write]
    exact congrArg Except.ok (hroadmap now)
  · rw [Document.member?_id, Option.map_eq_none_iff, hcode]
  · rw [Document.member?_prevId, Option.map_eq_none_iff, ← hprevId, Option.map_eq_none_iff]
  · intro hzero
    rw [hzero] at hprevId
    obtain ⟨c, hc, hid⟩ := Option.map_eq_some_iff.1 hprevId
    rw [Document.member?_prevId, hc, Option.map_some, ShortCode.json,
      ShortCode.text_of_id_eq_zero hid]

end TextRoadmap
