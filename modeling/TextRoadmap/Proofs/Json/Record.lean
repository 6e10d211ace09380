/-
TextRoadmap/Proofs/Json/Record.lean

Records that are read back from objects.

A draft takes a member if the member is that of a field which is not set yet,
and the field reads its value into the next draft (`Takes`).  Members that
are taken one after the other lead from the blank draft to the one that makes
the record (`TakesAll`), and then the record is read (`Shape.reads`).
-/
import TextRoadmap.Document.Write
import TextRoadmap.Proofs.Json.Read

namespace TextRoadmap.Json

open TextRoadmap.Text

variable {α σ : Type} {read : Reader α} {json : Json} {a : α} {key : String}
variable {fields : List (Field σ)} {draft draft' draft'' : σ}
variable {member : String × Json} {members members' : List (String × Json)}
variable {blanks rest : List Char} {style : Style} {depth : Nat}

/-! ### Members that a draft takes -/

/-- The member is that of a field which is not set, and the field reads its
value into the next draft. -/
def Takes (fields : List (Field σ)) (draft : σ) (member : String × Json) (draft' : σ) : Prop :=
  ∃ field, fields.find? (·.name = member.1) = some field ∧ field.isSet draft = false ∧
    Reads (field.read draft) member.2 draft'

/-- The members lead from the first draft to the last. -/
inductive TakesAll (fields : List (Field σ)) : σ → List (String × Json) → σ → Prop where
  | nil {draft : σ} : TakesAll fields draft [] draft
  | cons {draft draft' draft'' : σ} {member : String × Json} {members : List (String × Json)} :
    Takes fields draft member draft' → TakesAll fields draft' members draft'' →
      TakesAll fields draft (member :: members) draft''

theorem Reads.map (h : Reads read json a) {β : Type} (f : α → β) :
    Reads (fun s => (read s).map fun (value, after) => (f value, after)) json (f a) where
  start := h.start
  read style depth blanks rest hblanks hrest := by
    show (read _).map _ = _
    rw [h.read style depth blanks rest hblanks hrest]
    rfl

theorem takes_make {name : String} {get : σ → Option α} {set : σ → α → σ}
    (hfind : fields.find? (·.name = name) = some (.make name read get set))
    (hget : (get draft).isSome = false) (h : Reads read json a) (hset : set draft a = draft') :
    Takes fields draft (name, json) draft' := by
  refine ⟨_, hfind, hget, ?_⟩
  rw [← hset]
  exact h.map (set draft)

theorem TakesAll.append (h : TakesAll fields draft members draft')
    (h' : TakesAll fields draft' members' draft'') :
    TakesAll fields draft (members ++ members') draft'' := by
  induction h with
  | nil => exact h'
  | cons hmember _ ih => exact .cons hmember (ih h')

theorem Takes.all (h : Takes fields draft member draft') :
    TakesAll fields draft [member] draft' :=
  .cons h .nil

/-- A member that is left out if it has no value. -/
theorem TakesAll.optional {json : α → Json} (value : Option α) (set : Option α → σ)
    (h : ∀ a, Takes fields (set none) (key, json a) (set (some a))) :
    TakesAll fields (set none) (Json.optional key (value.map json)) (set value) := by
  cases value with
  | none => exact .nil
  | some a => exact (h a).all

/-- A member that is left out in some case. -/
theorem TakesAll.unless {skip : Prop} [Decidable skip] (set : Option α → σ)
    (h : Takes fields (set none) member (set (some a))) :
    TakesAll fields (set none) (if skip then [] else [member])
      (set (if skip then none else some a)) := by
  split
  · exact .nil
  · exact h.all

/-! ### The text of members -/

theorem writeMembers_map (style : Style) (depth : Nat) (members : List (String × Json)) :
    writeMembers style depth members = members.map (writeMember style depth) := by
  induction members with
  | nil => rfl
  | cons member members ih => rw [writeMembers, ih, List.map_cons]

/-- A member without the quote before its key. -/
theorem writeMember_append (style : Style) (depth : Nat) (member : String × Json)
    (rest : List Char) :
    writeMember style depth member ++ rest = '"' :: (member.1.toList.flatMap escape ++
      '"' :: (style.colon ++ (member.2.writeAt style depth ++ rest))) := by
  rw [writeMember, quote]
  simp

theorem expect_colon (style : Style) (rest : List Char) :
    ∃ blanks, IsBlanks blanks ∧ expect ':' (style.colon ++ rest) = .ok (blanks ++ rest) := by
  cases style with
  | compact => exact ⟨[], isBlanks_nil, rfl⟩
  | indented => exact ⟨[' '], by simp [IsBlanks, isSpace], rfl⟩

theorem nextKey?_close (first : Bool) (hblanks : IsBlanks blanks) (rest : List Char) :
    nextKey? first (blanks ++ '\x7d' :: rest) = .ok none := by
  rw [nextKey?, skipSpace_append hblanks, skipSpace_cons (by decide)]
  rfl

/-- A comma comes before every key but the first. -/
theorem nextKey?_quote (first : Bool) (hblanks : IsBlanks blanks) (rest : List Char) :
    nextKey? first ((if first then [] else [',']) ++ (blanks ++ '"' :: rest)) =
      .ok (some rest) := by
  have hskip : skipSpace (blanks ++ '"' :: rest) = '"' :: rest := by
    rw [skipSpace_append hblanks, skipSpace_cons (by decide)]
  cases first with
  | true =>
    show nextKey? true (blanks ++ '"' :: rest) = _
    rw [nextKey?, hskip]
    rfl
  | false =>
    show nextKey? false (',' :: (blanks ++ '"' :: rest)) = _
    rw [nextKey?, skipSpace_cons (by decide)]
    simp only [Bool.false_eq_true, if_false, hskip]

/-! ### Reading objects -/

/-- A member that is taken is read, from the colon on. -/
theorem Takes.readMember (h : Takes fields draft member draft') (style : Style) (depth : Nat)
    (hrest : Stops rest) :
    readMember fields member.1 draft (style.colon ++ (member.2.writeAt style depth ++ rest)) =
      .ok (draft', rest) := by
  obtain ⟨field, hfind, hset, hreads⟩ := h
  obtain ⟨blanks, hblanks, hcolon⟩ := expect_colon style (member.2.writeAt style depth ++ rest)
  rw [Json.readMember, hfind]
  show (if field.isSet draft = true then _ else (expect ':' _).bind _) = _
  rw [if_neg (by simp [hset]), hcolon]
  show field.read draft _ = _
  exact hreads.read style depth blanks rest hblanks hrest

/-- Members that are taken are read one after the other, up to the bracket that
closes them. -/
theorem TakesAll.readMembers_listed (h : TakesAll fields draft members draft') (style : Style)
    (depth : Nat) (first : Bool) {fuel : Nat} (hfuel : members.length < fuel)
    (hblanks : IsBlanks blanks) (hstops : Stops (blanks ++ '\x7d' :: rest)) :
    readMembers fields fuel first draft (listed (style.newline depth) first
      (members.map (writeMember style depth)) (blanks ++ '\x7d' :: rest)) =
      .ok (draft', blanks ++ '\x7d' :: rest) := by
  induction h generalizing fuel first with
  | nil =>
    obtain ⟨fuel, rfl⟩ := Nat.exists_eq_add_of_lt hfuel
    rw [List.map_nil, listed, readMembers, nextKey?_close first hblanks]
    rfl
  | @cons draft draft' draft'' member members hmember _ ih =>
    obtain ⟨fuel, rfl⟩ : ∃ n, fuel = n + 1 := Nat.exists_eq_succ_of_ne_zero (by omega)
    have ih := ih false (Nat.lt_of_succ_lt_succ hfuel)
    -- what follows a member is the next one or the bracket that closes the object
    have hrest : Stops (listed (style.newline depth) false
      (members.map (writeMember style depth)) (blanks ++ '\x7d' :: rest)) := stops_listed hstops
    have hread := hmember.readMember style depth hrest
    rw [List.map_cons, listed, writeMember_append, readMembers,
      nextKey?_quote first (isBlanks_newline style depth)]
    show (readChars true _).bind _ = _
    rw [readChars_escape]
    show (Json.readMember fields (String.ofList member.1.toList) draft _).bind _ = _
    rw [String.ofList_toList, hread]
    exact ih

/-- A record is read from an object whose members lead to a draft that makes
it. -/
theorem Shape.reads {shape : Shape σ α} (draft : σ)
    (h : TakesAll shape.fields shape.blank members draft) (hfinish : shape.finish draft = .ok a) :
    Reads shape.read (.object members) a where
  start style depth := by
    obtain ⟨blanks, -, -, htext⟩ := enclose_append (Or.inr rfl) style depth '\x7b'
      (writeMembers style (depth + 1) members) []
    rw [List.append_nil] at htext
    rw [writeAt, htext]
    exact ⟨'\x7b', _, rfl, by decide⟩
  read style depth blanks rest hblanks hrest := by
    obtain ⟨blanks', hblanks', hstops, htext⟩ := enclose_append (Or.inr rfl) style depth '\x7b'
      (writeMembers style (depth + 1) members) rest
    rw [writeMembers_map] at htext
    have hentries : ∀ entry ∈ members.map (writeMember style (depth + 1)), entry ≠ [] := by
      intro entry hentry
      obtain ⟨member, -, rfl⟩ := List.mem_map.1 hentry
      rw [← List.append_nil (writeMember _ _ _), writeMember_append]
      exact List.cons_ne_nil _ _
    -- so the length of the text bounds the number of members
    have hfuel := length_le_listed (style.newline (depth + 1)) true hentries
      (blanks' ++ '\x7d' :: rest)
    rw [List.length_map] at hfuel
    have hread := h.readMembers_listed style (depth + 1) true (Nat.lt_succ_of_le hfuel) hblanks'
      hstops
    rw [writeAt, writeMembers_map, htext, Shape.read, skipSpace_append hblanks,
      skipSpace_cons (by decide)]
    show (if '\x7b' = '\x7b' then (readMembers shape.fields _ true shape.blank _).bind _
      else _) = _
    rw [if_pos rfl, hread]
    show (shape.complete true draft).bind _ = _
    rw [Shape.complete, hfinish]
    show (expect '\x7d' _).bind _ = _
    rw [expect_append hblanks' (by decide)]
    rfl

end TextRoadmap.Json
