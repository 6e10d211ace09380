/-
TextRoadmap/Proofs/Files/Path.lean

The last names of paths.

The temporary file of a path has the name of the path with another
extension.  That is never the name itself (`append_stemOf_ne`), so where both
paths end in names of their own they lead to different places
(`getLast?_properNames_temporaryOf`).
-/
import TextRoadmap.Proofs.Files.Tree
import TextRoadmap.Proofs.Text.Cut

namespace TextRoadmap

open TextRoadmap.Text

variable {p : Path} {s t name : List Char}

/-! ### The last segment -/

/-- What follows the last slash of a text, and what stands in front of it. -/
structure EndsIn (s front last : List Char) : Prop where
  eq_append : s = front ++ last
  slash : '/' ∉ last
  front_eq : front = [] ∨ ∃ rest, front = rest ++ ['/']

theorem exists_endsIn (s : List Char) : ∃ front last, EndsIn s front last := by
  rcases hcut : splitLast? '/' s with - | ⟨rest, last⟩
  · exact ⟨[], s, rfl, splitLast?_eq_none_iff.1 hcut, .inl rfl⟩
  · obtain ⟨rfl, hnot⟩ := eq_of_splitLast? hcut
    exact ⟨rest ++ ['/'], last, by simp, hnot, .inr ⟨rest, rfl⟩⟩

theorem EndsIn.getLast?_splitOn {front last : List Char} (h : EndsIn s front last) :
    (s.splitOn '/').getLast? = some last := by
  rw [h.eq_append]
  rcases h.front_eq with rfl | ⟨rest, rfl⟩
  · rw [List.nil_append, List.splitOn_eq_singleton h.slash]
    rfl
  · rw [List.append_assoc, List.singleton_append, List.splitOn_append_cons_self,
      List.splitOn_eq_singleton h.slash, List.getLast?_append]
    rfl

theorem EndsIn.append {front last : List Char} (h : EndsIn s front last) (ht : '/' ∉ t) :
    EndsIn (s ++ t) front (last ++ t) where
  eq_append := by rw [h.eq_append, List.append_assoc]
  slash := by simp [h.slash, ht]
  front_eq := h.front_eq

/-- A last segment that is not empty is the last name. -/
theorem EndsIn.getLast?_properNames {front last : List Char} (h : EndsIn p.chars front last)
    (hne : last ≠ []) : (FileTree.properNames p).getLast? = some (String.ofList last) := by
  obtain ⟨segments, hsegments⟩ := List.getLast?_eq_some_iff.1 h.getLast?_splitOn
  rw [FileTree.properNames, hsegments, List.filter_append, List.map_append]
  simp [hne]

/-! ### The temporary file -/

/-- No name has its own stem and the extension of temporary files at its end. -/
theorem append_stemOf_ne (u name : List Char) :
    u ++ (Path.stemOf name ++ '.' :: "roadmap.tmp".toList) ≠ name := by
  intro heq
  have hname : name =
      u ++ (Path.stemOf name ++ ".roadmap".toList) ++ '.' :: "tmp".toList :=
    heq.symm.trans (by simp)
  have hcut : splitLast? '.' name =
      some (u ++ (Path.stemOf name ++ ".roadmap".toList), "tmp".toList) :=
    (congrArg (splitLast? '.') hname).trans (splitLast?_append (by decide) _)
  have hstem : Path.stemOf name = u ++ (Path.stemOf name ++ ".roadmap".toList) := by
    conv_lhs => rw [Path.stemOf, hcut]
    simp
  have hlength := congrArg List.length hstem
  simp only [List.length_append] at hlength
  exact absurd hlength (by simp; omega)

theorem slash_not_mem_stemOf (h : '/' ∉ name) : '/' ∉ Path.stemOf name := by
  rw [Path.stemOf]
  split
  · rename_i stem extension hcut
    split
    · exact h
    · intro hmem
      rw [(eq_of_splitLast? hcut).1] at h
      exact h (List.mem_append_left _ hmem)
  · exact h

theorem startLength_le (s : List Char) : Path.startLength s ≤ 1 := by
  unfold Path.startLength
  split <;> decide

theorem startLength_of_not_mem (h : '/' ∉ name) (hpoint : name ≠ ['.']) :
    Path.startLength name = 0 := by
  unfold Path.startLength
  split
  · exact absurd (List.mem_cons_self ..) h
  · exact absurd rfl hpoint
  · exact absurd (List.mem_cons_of_mem _ (List.mem_cons_self ..)) h
  · rfl

/-- The start of a path belongs to no name of its own. -/
theorem EndsIn.drop_start {front : List Char} (h : EndsIn s front name) (hpoint : name ≠ ['.']) :
    EndsIn (s.drop (Path.startLength s)) (front.drop (Path.startLength s)) name := by
  have hle := startLength_le s
  rcases h.front_eq with rfl | ⟨rest, rfl⟩
  · obtain rfl : s = name := h.eq_append
    rw [startLength_of_not_mem h.slash hpoint]
    exact h
  · generalize Path.startLength s = k at hle
    refine ⟨?_, h.slash, ?_⟩
    · rw [h.eq_append, List.drop_append_of_le_length (by simp; omega)]
    · obtain rfl | rfl : k = 0 ∨ k = 1 := by omega
      · exact .inr ⟨rest, rfl⟩
      · rcases rest with - | ⟨c, rest⟩
        · exact .inl rfl
        · exact .inr ⟨rest, rfl⟩

/-- A name of its own at the end of a path is its file name. -/
theorem fileName?_of_endsIn {front : List Char} (h : EndsIn p.chars front name) (hne : name ≠ [])
    (hpoint : name ≠ ['.']) (hpoints : name ≠ ['.', '.']) : p.fileName? = some name := by
  have hlast := (h.drop_start hpoint).getLast?_splitOn
  obtain ⟨segments, hsegments⟩ := List.getLast?_eq_some_iff.1 hlast
  have hkeep : Path.dropTrivial (segments ++ [name]) = segments ++ [name] := by
    simp [Path.dropTrivial, Path.isTrivial, hne, hpoint]
  rw [Path.fileName?, Path.segments, hsegments, hkeep]
  simp [hpoints]

theorem exists_intercalate_append (segments : List (List Char)) (last : List Char) :
    ∃ front, ['/'].intercalate (segments ++ [last]) = front ++ last := by
  induction segments with
  | nil => exact ⟨[], by simp⟩
  | cons segment segments ih =>
    obtain ⟨front, hfront⟩ := ih
    refine ⟨segment ++ '/' :: front, ?_⟩
    rw [List.cons_append, List.intercalate_cons_of_ne_nil (by simp), hfront]
    simp

/-- The temporary file of a path has another name than the path. -/
theorem getLast?_properNames_temporaryOf {last : String}
    (h : (FileTree.properNames p).getLast? = some last) (hslash : FileTree.endsInSlash p = false)
    (hpoint : last ≠ ".") (hpoints : last ≠ "..") :
    (FileTree.properNames (Machine.temporaryOf p)).getLast? ≠ some last := by
  obtain ⟨front, name, hends⟩ := exists_endsIn p.chars
  have hne : name ≠ [] := by
    rintro rfl
    have hchars := hends.eq_append
    rw [List.append_nil] at hchars
    rcases hends.front_eq with rfl | ⟨rest, rfl⟩
    · simp [FileTree.properNames, hchars] at h
    · simp [FileTree.endsInSlash, hchars] at hslash
  obtain rfl : String.ofList name = last :=
    Option.some.inj ((hends.getLast?_properNames hne).symm.trans h)
  have hfile : p.fileName? = some name := by
    refine fileName?_of_endsIn hends hne ?_ ?_ <;> rintro rfl
    · exact hpoint rfl
    · exact hpoints rfl
  let temporary := Path.stemOf name ++ '.' :: "roadmap.tmp".toList
  -- whatever stands in front of it, the new name ends in the stem and the extension
  obtain ⟨front', hfront'⟩ := exists_intercalate_append p.segments.dropLast temporary
  have htemporary : (Machine.temporaryOf p).chars = p.start ++ front' ++ temporary := by
    rw [Machine.temporaryOf, Path.withExtension, Path.fileStem?, hfile, Option.map_some]
    dsimp only
    rw [Path.ofSegments, hfront', Path.chars, Path.ofChars, String.toList_ofList, List.append_assoc]
  have hslash' : '/' ∉ temporary := by
    simp [temporary, slash_not_mem_stemOf hends.slash]
  obtain ⟨front'', u, hends'⟩ := exists_endsIn (p.start ++ front')
  have hends'' := hends'.append hslash'
  rw [← htemporary] at hends''
  rw [hends''.getLast?_properNames (by simp [temporary])]
  intro heq
  refine append_stemOf_ne u name ?_
  simpa only [String.toList_ofList] using congrArg String.toList (Option.some.inj heq)

/-- A path and its temporary file lead to different places. -/
theorem FileTree.Names.temporaryOf_ne {t t' : FileTree} {folder parent parent' : Place}
    {name name' : String} (h : Names t folder (Machine.temporaryOf p) parent name)
    (h' : Names t' folder p parent' name') (hslash : FileTree.endsInSlash p = false) :
    parent ++ [name] ≠ parent' ++ [name'] := by
  intro heq
  have hname : name = name' := by simpa using congrArg List.getLast? heq
  exact getLast?_properNames_temporaryOf h'.getLast?_eq hslash h'.ne_point h'.ne_points
    (hname ▸ h.getLast?_eq)

end TextRoadmap
