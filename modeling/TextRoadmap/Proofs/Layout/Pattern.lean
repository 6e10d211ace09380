/-
TextRoadmap/Proofs/Layout/Pattern.lean

The pattern of a layout says what the layout says.

A pattern is read by a notation of its own, in which a character behind a
directive could belong to it and a percent sign of the layout could begin one.
`splitItems_pattern` says that neither happens: the items of the pattern
are the tokens and characters of the layout, one after the other.  So no
directive is malformed, and every instant can be written by the pattern
(`Layout.itemsOf_pattern`).

The notation puts neighbouring characters together to runs, which depend on
what stands around them; the proofs therefore compare single characters
(`Item.split`).
-/
import TextRoadmap.Layout.Basic
import TextRoadmap.Layout.Pattern
import TextRoadmap.Proofs.Layout.Tokens

namespace TextRoadmap

open TextRoadmap.Text TextRoadmap.Calendar

namespace Layout

/-! ### Single characters -/

/-- The item of a single character. -/
def Item.ofChar (c : Char) : Item := if isBlank c then .space [c] else .literal [c]

/-- The item, or the items of its characters if it is a run. -/
def Item.split : Item → List Item
  | .literal text => text.map fun c => .literal [c]
  | .space text => text.map fun c => .space [c]
  | item => [item]

/-- The item for a piece of a layout. -/
def Piece.item : Piece → Item
  | .token _ element => element.item
  | .literal c => .ofChar c

/-- The items of a pattern, character by character. -/
def splitItems (s : List Char) : List Item := (itemsOf s).flatMap Item.split

variable {s rest : List Char} {c : Char} {i : Instant} {item : Item} {items items' : List Item}
variable {other : Item → Instant → Option (List Char)}

theorem itemsOf_directive (h : readDirective? s = some (items, rest)) :
    itemsOf ('%' :: s) = items ++ itemsOf rest := by
  rw [itemsOf, if_pos rfl]
  split
  · rename_i found after hread
    obtain ⟨rfl, rfl⟩ := Prod.mk.inj (Option.some.inj (hread.symm.trans h))
    rfl
  · rename_i hread
    rw [h] at hread
    cases hread

theorem itemsOf_blank (h : isBlank c = true) :
    itemsOf (c :: s) = .space (c :: s.takeWhile isBlank) :: itemsOf (s.dropWhile isBlank) := by
  have hc : c ≠ '%' := by
    rintro rfl
    exact absurd h (by decide)
  rw [itemsOf, if_neg hc, if_pos h]

theorem itemsOf_text (h : isText c = true) :
    itemsOf (c :: s) = .literal (c :: s.takeWhile isText) :: itemsOf (s.dropWhile isText) := by
  obtain ⟨hc, hblank⟩ : c ≠ '%' ∧ isBlank c = false := by simpa [isText] using h
  rw [itemsOf, if_neg hc, if_neg (by simp [hblank])]

/-- The characters of a run can be read one by one. -/
theorem splitItems_takeWhile_isBlank (s : List Char) :
    splitItems s = (s.takeWhile isBlank).map (fun c => .space [c]) ++
      splitItems (s.dropWhile isBlank) := by
  cases s with
  | nil => rfl
  | cons c s =>
    by_cases hc : isBlank c = true
    · simp [splitItems, itemsOf_blank hc, Item.split, hc]
    · simp [hc]

theorem splitItems_takeWhile_isText (s : List Char) :
    splitItems s = (s.takeWhile isText).map (fun c => .literal [c]) ++
      splitItems (s.dropWhile isText) := by
  cases s with
  | nil => rfl
  | cons c s =>
    by_cases hc : isText c = true
    · simp [splitItems, itemsOf_text hc, Item.split, hc]
    · simp [hc]

theorem splitItems_cons (hc : c ≠ '%') (s : List Char) :
    splitItems (c :: s) = .ofChar c :: splitItems s := by
  rcases hblank : isBlank c with - | -
  · have htext : isText c = true := by simp [isText, hc, hblank]
    rw [splitItems_takeWhile_isText s, splitItems, itemsOf_text htext]
    simp [Item.split, Item.ofChar, hblank, splitItems]
  · rw [splitItems_takeWhile_isBlank s, splitItems, itemsOf_blank hblank]
    simp [Item.split, Item.ofChar, hblank, splitItems]

/-! ### Directives -/

/-- A directive of a layout is read as it was meant, whatever follows it. -/
theorem readDirective?_directive (e : Element) (rest : List Char) :
    ∃ letters, e.directive.toList = '%' :: letters ∧
      readDirective? (letters ++ rest) = some ([e.item], rest) := by
  cases e with
  | month fill => cases fill <;> exact ⟨_, rfl, rfl⟩
  | day fill => cases fill <;> exact ⟨_, rfl, rfl⟩
  | hour12 fill => cases fill <;> exact ⟨_, rfl, rfl⟩
  | minute fill => cases fill <;> exact ⟨_, rfl, rfl⟩
  | second fill => cases fill <;> exact ⟨_, rfl, rfl⟩
  | meridiem capital => cases capital <;> exact ⟨_, rfl, rfl⟩
  | offset colon => cases colon <;> exact ⟨_, rfl, rfl⟩
  | _ => exact ⟨_, rfl, rfl⟩

theorem split_item (e : Element) : e.item.split = [e.item] := by
  cases e with
  | offset colon => cases colon <;> rfl
  | _ => rfl

theorem splitItems_pattern_append (piece : Piece) (rest : List Char) :
    splitItems (piece.pattern ++ rest) = piece.item :: splitItems rest := by
  cases piece with
  | token text e =>
    obtain ⟨letters, hletters, hread⟩ := readDirective?_directive e rest
    rw [Piece.pattern, hletters, List.cons_append, splitItems, itemsOf_directive hread,
      List.flatMap_append, List.flatMap_singleton, split_item]
    rfl
  | literal c =>
    by_cases hc : c = '%'
    · -- a percent sign is written twice
      subst hc
      have hread : readDirective? ('%' :: rest) = some ([.literal ['%']], rest) := rfl
      show splitItems ('%' :: '%' :: rest) = _
      rw [splitItems, itemsOf_directive hread]
      rfl
    · have hpattern : (Piece.literal c).pattern = [c] := by
        unfold Piece.pattern
        split
        · rename_i heq
          cases heq
        · rename_i heq
          exact absurd (Piece.literal.inj heq) hc
        · rename_i heq
          rw [Piece.literal.inj heq]
      rw [hpattern, List.singleton_append, splitItems_cons hc]
      rfl

/-- The items of a pattern are the pieces of the layout. -/
theorem splitItems_pattern (pieces : List Piece) :
    splitItems (pieces.flatMap Piece.pattern) = pieces.map Piece.item := by
  induction pieces with
  | nil => simp [splitItems, itemsOf]
  | cons piece pieces ih =>
    rw [List.flatMap_cons, splitItems_pattern_append, ih, List.map_cons]

theorem item_ne_error (piece : Piece) : piece.item ≠ .error := by
  cases piece with
  | token text e =>
    cases e with
    | offset colon => cases colon <;> simp [Piece.item, Element.item]
    | _ => simp [Piece.item, Element.item]
  | literal c =>
    simp only [Piece.item, Item.ofChar]
    split <;> simp

/-! ### Writing by a pattern -/

theorem writeItems?_cons : writeItems? other (item :: items) i =
    (item.write? other i).bind fun text => (writeItems? other items i).map (text ++ ·) := by
  rw [writeItems?, List.mapM_cons]
  cases item.write? other i with
  | none => rfl
  | some text =>
    simp only [writeItems?, Option.bind_some, Option.map_map]
    show ((List.mapM (fun item => Item.write? other item i) items).bind _).map _ = _
    cases List.mapM (fun item => Item.write? other item i) items <;> rfl

theorem writeItems?_append : writeItems? other (items ++ items') i =
    (writeItems? other items i).bind fun text =>
      (writeItems? other items' i).map (text ++ ·) := by
  induction items with
  | nil => simp [writeItems?, Function.comp_def]
  | cons item items ih =>
    rw [List.cons_append, writeItems?_cons, writeItems?_cons, ih]
    cases item.write? other i with
    | none => rfl
    | some text =>
      cases writeItems? other items i with
      | none => rfl
      | some text' => cases writeItems? other items' i <;> simp

/-- A run is written as its characters. -/
theorem writeItems?_split (item : Item) :
    writeItems? other item.split i = writeItems? other [item] i := by
  have hrun : ∀ (text : List Char) (run : List Char → Item),
      (∀ text, (run text).write? other i = some text) →
        writeItems? other (text.map fun c => run [c]) i = writeItems? other [run text] i := by
    intro text run hwrite
    induction text with
    | nil => simp [hwrite, writeItems?]
    | cons c text ih => simp [writeItems?_cons, hwrite, ih, Function.comp_def]
  cases item with
  | literal text => exact hrun text .literal fun _ => rfl
  | space text => exact hrun text .space fun _ => rfl
  | _ => rfl

theorem writeItems?_flatMap_split (items : List Item) :
    writeItems? other (items.flatMap Item.split) i = writeItems? other items i := by
  induction items with
  | nil => rfl
  | cons item items ih =>
    rw [List.flatMap_cons, writeItems?_append, ih, writeItems?_split, ← writeItems?_append]
    rfl

theorem write?_item (piece : Piece) : piece.item.write? other i = some (piece.write i) := by
  cases piece with
  | token text e =>
    cases e with
    | offset colon => cases colon <;> rfl
    | _ => rfl
  | literal c =>
    simp only [Piece.item, Item.ofChar]
    split <;> rfl

theorem writeItems?_map_item (pieces : List Piece) :
    writeItems? other (pieces.map Piece.item) i = some (writePieces pieces i) := by
  induction pieces with
  | nil => rfl
  | cons piece pieces ih =>
    rw [List.map_cons, writeItems?_cons, write?_item, ih]
    rfl

end Layout

open Layout

/-- **Layouts are translated faithfully.**  A text falls into longest tokens
and characters in one way, and the items of its pattern are these, in order.
None is malformed, so every instant can be written by the pattern and is
written as the layout writes it; without a token that is the layout itself. -/
theorem Layout.itemsOf_pattern (l : Layout) (other : Item → Instant → Option (List Char)) :
    let items := itemsOf l.pattern.toList
    ∃ pieces, (∀ ps, Spells ps l.text.toList ↔ ps = pieces) ∧
      .error ∉ items ∧
      items.flatMap Item.split = pieces.map Piece.item ∧
      (∀ i, writeItems? other items i = some (l.format i).toList) ∧
      ((∀ piece ∈ pieces, ∃ c, piece = .literal c) → ∀ i, l.format i = l.text) := by
  intro items
  have hsplit : items.flatMap Item.split = l.pieces.map Piece.item := by
    rw [← splitItems_pattern, ← String.toList_ofList (l := l.pieces.flatMap Piece.pattern)]
    rfl
  refine ⟨l.pieces, fun ps => spells_iff, fun herror => ?_, hsplit, fun i => ?_, fun h i => ?_⟩
  · have hmem : Item.error ∈ items.flatMap Item.split :=
      List.mem_flatMap.2 ⟨.error, herror, List.mem_singleton_self _⟩
    rw [hsplit] at hmem
    obtain ⟨piece, -, hpiece⟩ := List.mem_map.1 hmem
    exact item_ne_error piece hpiece
  · rw [← writeItems?_flatMap_split, hsplit, writeItems?_map_item, format, String.toList_ofList]
  · rw [format, writePieces_of_literals i h, pieces, piecesOf_text, String.ofList_toList]

end TextRoadmap
