/-
TextRoadmap/Proofs/Files/Folder.lean

The path from the root to a place.

The path is the names of the place with slashes between them, and it leads
where it should: the folders above it are the paths of the places above
(`ancestors_pathTo_concat`), a name below it is that of a place below
(`join_pathTo`), and in a tree with folders on the way it finds what stands at
the place and puts a file there (`write_pathTo`).

A file that is put where no folder stood opens no way and closes none
(`SameBut`), so a path with another name at its end leads to what it led to
before (`SameBut.at?_eq`).
-/
import Mathlib.Data.List.Infix
import TextRoadmap.Proofs.Files.Path

namespace TextRoadmap

open TextRoadmap.Text

/-! ### Segments -/

theorem intercalate_concat {l : List (List Char)} (h : l ≠ []) (x : List Char) :
    ['/'].intercalate (l ++ [x]) = ['/'].intercalate l ++ '/' :: x := by
  induction l with
  | nil => exact absurd rfl h
  | cons y l ih =>
    rcases eq_or_ne l [] with rfl | hl
    · simp [List.intercalate_cons_of_ne_nil]
    · rw [List.cons_append, List.intercalate_cons_of_ne_nil (by simp), ih hl,
        List.intercalate_cons_of_ne_nil hl]
      simp only [List.append_assoc]

/-- Segments that all count stay. -/
theorem dropTrivial_eq_self {l : List (List Char)} (h : ∀ x ∈ l, Path.isTrivial x = false) :
    Path.dropTrivial l = l := by
  have hlast : l.reverse.dropWhile Path.isTrivial = l.reverse := by
    rcases hl : l.reverse with - | ⟨x, rest⟩
    · rfl
    · exact List.dropWhile_cons_of_neg (by simp [h x (List.mem_reverse.1 (by simp [hl]))])
  rw [Path.dropTrivial, hlast, List.reverse_reverse]

/-! ### Names -/

/-- The name can stand between slashes, where it means itself. -/
structure IsName (name : String) : Prop where
  ne_empty : name ≠ ""
  ne_point : name ≠ "."
  ne_points : name ≠ ".."
  slash : '/' ∉ name.toList

variable {name : String} {place : Place}

theorem isName_iff : IsName name ↔ name ≠ "" ∧ name ≠ "." ∧ name ≠ ".." ∧ '/' ∉ name.toList :=
  ⟨fun h => ⟨h.ne_empty, h.ne_point, h.ne_points, h.slash⟩,
    fun ⟨hempty, hpoint, hpoints, hslash⟩ => ⟨hempty, hpoint, hpoints, hslash⟩⟩

instance (name : String) : Decidable (IsName name) := decidable_of_iff _ isName_iff.symm

theorem IsName.toList_ne_nil (h : IsName name) : name.toList ≠ [] := by
  simpa using h.ne_empty

theorem IsName.isTrivial_eq (h : IsName name) : Path.isTrivial name.toList = false := by
  have hpoint : name.toList ≠ ['.'] := fun heq =>
    h.ne_point (String.toList_injective heq)
  simp [Path.isTrivial, h.toList_ne_nil, hpoint]

/-! ### Paths from the root -/

/-- The path from the root to a place. -/
def pathTo (place : Place) : Path := Path.ofSegments ['/'] (place.map String.toList)

theorem chars_pathTo (place : Place) :
    (pathTo place).chars = '/' :: ['/'].intercalate (place.map String.toList) := by
  rw [Path.chars, pathTo, Path.ofSegments, Path.ofChars, String.toList_ofList]
  rfl

theorem chars_pathTo_concat (place : Place) (name : String) :
    (pathTo (place ++ [name])).chars =
      if place = [] then '/' :: name.toList else (pathTo place).chars ++ '/' :: name.toList := by
  rw [chars_pathTo, chars_pathTo, List.map_append]
  split_ifs with h
  · simp [h]
  · rw [List.map_singleton, intercalate_concat (by simpa using h)]
    rfl

theorem splitOn_pathTo (hnames : ∀ n ∈ place, IsName n) (hne : place ≠ []) :
    (['/'].intercalate (place.map String.toList)).splitOn '/' = place.map String.toList := by
  refine List.splitOn_intercalate '/' ?_ (by simpa using hne)
  intro x hx
  obtain ⟨n, hn, rfl⟩ := List.mem_map.1 hx
  exact (hnames n hn).slash

theorem start_pathTo (place : Place) : (pathTo place).start = ['/'] := by
  rw [Path.start, chars_pathTo]
  rfl

theorem segments_pathTo (hnames : ∀ n ∈ place, IsName n) :
    (pathTo place).segments = place.map String.toList := by
  rw [Path.segments, chars_pathTo]
  show Path.dropTrivial ((['/'].intercalate (place.map String.toList)).splitOn '/') = _
  rcases eq_or_ne place [] with rfl | hne
  · rfl
  · rw [splitOn_pathTo hnames hne]
    refine dropTrivial_eq_self fun x hx => ?_
    obtain ⟨n, hn, rfl⟩ := List.mem_map.1 hx
    exact (hnames n hn).isTrivial_eq

theorem properNames_pathTo (hnames : ∀ n ∈ place, IsName n) :
    FileTree.properNames (pathTo place) = place := by
  rw [FileTree.properNames, chars_pathTo]
  rcases eq_or_ne place [] with rfl | hne
  · rfl
  · have hsplit : ('/' :: ['/'].intercalate (place.map String.toList)).splitOn '/' =
        [] :: place.map String.toList := by
      have hcut := List.splitOn_append_cons_self (a := '/') []
        (['/'].intercalate (place.map String.toList))
      rw [splitOn_pathTo hnames hne] at hcut
      exact hcut
    have hfilter : (place.map String.toList).filter (!·.isEmpty) = place.map String.toList := by
      refine List.filter_eq_self.2 fun x hx => ?_
      obtain ⟨n, hn, rfl⟩ := List.mem_map.1 hx
      simpa using (hnames n hn).toList_ne_nil
    rw [hsplit, List.filter_cons_of_neg (by simp), hfilter, List.map_map]
    simp [Function.comp_def]

/-! ### Folders above and names below -/

theorem parent?_pathTo_concat (hnames : ∀ n ∈ place ++ [name], IsName n) :
    (pathTo (place ++ [name])).parent? = some (pathTo place) := by
  have habove : ∀ x ∈ place.map String.toList, Path.isTrivial x = false := by
    intro x hx
    obtain ⟨n, hn, rfl⟩ := List.mem_map.1 hx
    exact (hnames n (List.mem_append_left _ hn)).isTrivial_eq
  rw [Path.parent?, segments_pathTo hnames, start_pathTo, if_neg (by simp), List.map_append,
    List.map_singleton, List.dropLast_concat, dropTrivial_eq_self habove]
  rfl

theorem ancestors_pathTo_nil : (pathTo []).ancestors = [pathTo []] := by
  rw [Path.ancestors]
  rfl

/-- The folders above a place are those above the folder it is in, and that
folder. -/
theorem ancestors_pathTo_concat (hnames : ∀ n ∈ place ++ [name], IsName n) :
    (pathTo (place ++ [name])).ancestors = pathTo (place ++ [name]) :: (pathTo place).ancestors := by
  have hname : 0 < name.toList.length :=
    List.length_pos_iff.2 (hnames name (by simp)).toList_ne_nil
  -- the recursion stops where a path has become no shorter
  have hshorter : (pathTo place).text.length < (pathTo (place ++ [name])).text.length := by
    have hchars := congrArg List.length (chars_pathTo_concat place name)
    rw [← String.length_toList, ← String.length_toList]
    show (pathTo place).chars.length < (pathTo (place ++ [name])).chars.length
    rw [hchars]
    split_ifs with h
    · subst h
      rw [chars_pathTo]
      simpa using hname
    · simp
  rw [Path.ancestors, parent?_pathTo_concat hnames]
  dsimp only
  rw [if_pos hshorter]

theorem endsInSlash_pathTo_concat (place : Place) (hname : IsName name) :
    FileTree.endsInSlash (pathTo (place ++ [name])) = false := by
  have hlast : (pathTo (place ++ [name])).chars.getLast? = name.toList.getLast? := by
    have hcons : ('/' :: name.toList).getLast? = name.toList.getLast? :=
      List.getLast?_cons_of_ne_nil hname.toList_ne_nil
    rw [chars_pathTo_concat]
    split_ifs
    · exact hcons
    · rw [List.getLast?_append_cons, hcons]
  rw [FileTree.endsInSlash, hlast, decide_eq_false_iff_not]
  exact fun h => hname.slash (List.mem_of_getLast? h)

theorem isEmpty_pathTo (place : Place) : (pathTo place).text.isEmpty = false := by
  rw [Bool.eq_false_iff, ne_eq, String.isEmpty_iff]
  intro h
  have hchars := chars_pathTo place
  rw [Path.chars, h] at hchars
  cases hchars

/-- A name below the path of a place makes the path of a place below. -/
theorem join_pathTo (hnames : ∀ n ∈ place, IsName n) (hname : IsName name) :
    (pathTo place).join ⟨name⟩ = pathTo (place ++ [name]) := by
  have hrelative : Path.isAbsolute ⟨name⟩ = false := by
    rw [Path.isAbsolute, decide_eq_false_iff_not]
    exact fun h => hname.slash (List.mem_of_mem_head? h)
  have htext : ∀ p : Path, p.chars = (pathTo (place ++ [name])).chars →
      p = pathTo (place ++ [name]) :=
    fun p h => congrArg Path.mk (String.toList_injective h)
  refine htext _ ?_
  rw [Path.join, if_neg (by simp [hrelative, isEmpty_pathTo]), chars_pathTo_concat]
  rcases List.eq_nil_or_concat place with rfl | ⟨above, last, rfl⟩
  · rw [if_pos (by decide), if_pos rfl]
    simp [Path.chars, pathTo, Path.ofSegments, Path.ofChars]
  · have hlast := endsInSlash_pathTo_concat above (hnames last (by simp))
    rw [FileTree.endsInSlash, decide_eq_false_iff_not] at hlast
    rw [List.concat_eq_append, if_neg hlast, if_neg (by simp)]
    simp [Path.chars]

end TextRoadmap

namespace TextRoadmap.FileTree

variable {t t' t'' : FileTree} {here place folder new : Place} {name : String} {names : List String}
variable {content : ByteArray} {p : Path} {entry : Entry}

/-! ### What stands at a place -/

/-- The place and all places above it are folders. -/
def IsOpen (t : FileTree) (place : Place) : Prop := ∀ q, q <+: place → t.isFolder q = true

theorem isOpen_iff : t.IsOpen place ↔ ∀ q ∈ place.inits, t.isFolder q = true := by
  simp only [IsOpen, List.mem_inits]

instance (t : FileTree) (place : Place) : Decidable (t.IsOpen place) :=
  decidable_of_iff _ isOpen_iff.symm

theorem IsOpen.isFolder (h : t.IsOpen place) : t.isFolder place = true := h place (List.prefix_refl _)

theorem IsOpen.above {q : Place} (h : t.IsOpen place) (hq : q <+: place) : t.IsOpen q :=
  fun _ hq' => h _ (hq'.trans hq)

/-- Names that stand for themselves lead down by way of folders. -/
theorem walk_of_isOpen (hnames : ∀ n ∈ names, IsName n) (h : t.IsOpen (here ++ names)) :
    t.walk here names = .ok (here ++ names) := by
  induction names generalizing here with
  | nil => rw [walk, List.append_nil]
  | cons name names ih =>
    obtain ⟨hname, hrest⟩ := List.forall_mem_cons.1 hnames
    have hcons : here ++ name :: names = here ++ [name] ++ names := by simp
    rw [hcons] at h ⊢
    have hhere : t.isFolder here = true := h here (by simp)
    have hnext : t.find? (here ++ [name]) = some .folder :=
      isFolder_iff.1 (h _ (List.prefix_append ..))
    simp only [walk, hhere, hnext, Bool.not_true, Bool.false_eq_true, if_false,
      if_neg hname.ne_point, if_neg hname.ne_points, Option.isSome_some, if_true]
    exact ih hrest h

/-- In an open folder the path to a place ends in its last name. -/
theorem names_pathTo (hnames : ∀ n ∈ place ++ [name], IsName n) (h : t.IsOpen place)
    (folder : Place) : Names t folder (pathTo (place ++ [name])) place name where
  ne_empty := isEmpty_pathTo _
  walk_eq := by
    rw [properNames_pathTo hnames, List.dropLast_concat]
    have habsolute : (pathTo (place ++ [name])).isAbsolute = true := by
      rw [Path.isAbsolute, chars_pathTo]
      rfl
    rw [startOf, habsolute, if_pos rfl]
    exact walk_of_isOpen (fun n hn => hnames n (List.mem_append_left _ hn)) h
  isFolder := h.isFolder
  getLast?_eq := by rw [properNames_pathTo hnames, List.getLast?_concat]
  ne_point := (hnames name (by simp)).ne_point
  ne_points := (hnames name (by simp)).ne_points

theorem locate_pathTo (hnames : ∀ n ∈ place ++ [name], IsName n) (h : t.IsOpen place)
    (folder : Place) :
    t.locate folder (pathTo (place ++ [name])) =
      if (t.find? (place ++ [name])).isSome then .ok (place ++ [name]) else .error .missing :=
  (names_pathTo hnames h folder).locate_eq (.refl t)
    (endsInSlash_pathTo_concat place (hnames name (by simp)))

/-- The path to a place in an open folder writes there, unless it is a folder
itself. -/
theorem write_pathTo (hnames : ∀ n ∈ place ++ [name], IsName n) (h : t.IsOpen place)
    (folder : Place) (content : ByteArray) :
    t.write folder (pathTo (place ++ [name])) content =
      if t.isFolder (place ++ [name]) then .error .isFolder
      else .ok (t.put (place ++ [name]) (.file content)) := by
  have hslash := endsInSlash_pathTo_concat place (hnames name (by simp))
  rw [write, locateNew_of_names (names_pathTo hnames h folder)]
  show (if endsInSlash _ then _ else _) = _
  rw [if_neg (by simp [hslash]), FileTree.isFolder]
  rcases t.find? (place ++ [name]) with - | - | content <;> rfl

/-! ### What paths lead to -/

/-- What stands where the path leads. -/
def at? (t : FileTree) (folder : Place) (p : Path) : Option Entry :=
  (t.locate folder p).toOption.bind t.find?

theorem at?_pathTo (hnames : ∀ n ∈ place ++ [name], IsName n) (h : t.IsOpen place)
    (folder : Place) : t.at? folder (pathTo (place ++ [name])) = t.find? (place ++ [name]) := by
  rw [at?, locate_pathTo hnames h]
  rcases hfind : t.find? (place ++ [name]) with - | entry
  · rfl
  · exact hfind

/-- A path that ends in a name of its own leads to a place of that name. -/
theorem getLast?_of_locate (hlast : (properNames p).getLast? = some name)
    (hslash : endsInSlash p = false) (hpoint : name ≠ ".") (hpoints : name ≠ "..")
    (h : t.locate folder p = .ok place) : place.getLast? = some name := by
  rw [locate, namesOf_eq_concat hslash hlast, walk_append] at h
  split at h
  · cases h
  · obtain ⟨parent, -, hstep⟩ := exists_of_bind_eq_ok h
    simp only [walk, if_neg hpoint, if_neg hpoints] at hstep
    split at hstep
    · cases hstep
    · split at hstep
      · cases hstep
        exact List.getLast?_concat
      · cases hstep

/-! ### Trees that are the same but for a file -/

/-- The trees have the same folders, and differ at one place at most. -/
structure SameBut (new : Place) (t t' : FileTree) : Prop where
  isFolder_eq : ∀ here, t'.isFolder here = t.isFolder here
  find?_eq : ∀ here, here ≠ new → t'.find? here = t.find? here

theorem SameBut.refl (new : Place) (t : FileTree) : SameBut new t t :=
  ⟨fun _ => rfl, fun _ _ => rfl⟩

theorem SameBut.trans (h : SameBut new t t') (h' : SameBut new t' t'') : SameBut new t t'' :=
  ⟨fun here => (h'.isFolder_eq here).trans (h.isFolder_eq here),
    fun here hne => (h'.find?_eq here hne).trans (h.find?_eq here hne)⟩

/-- A file can be put where no folder stands. -/
theorem sameBut_put (hnot : t.isFolder new = false) (content : ByteArray) :
    SameBut new t (t.put new (.file content)) := by
  have hnew : new ≠ [] := by
    rintro rfl
    cases hnot
  refine ⟨fun here => ?_, fun here => find?_put_of_ne⟩
  rcases eq_or_ne here new with rfl | hne
  · rw [hnot, FileTree.isFolder, find?_put hnew]
    rfl
  · rw [FileTree.isFolder, find?_put_of_ne hne, FileTree.isFolder]

theorem SameBut.isOpen (h : SameBut new t t') (hopen : t.IsOpen place) : t'.IsOpen place :=
  fun q hq => (h.isFolder_eq q).trans (hopen q hq)

/-- A way that comes to something other than a folder ends there. -/
theorem walk_ne_ok_of_not_isFolder (h : t.isFolder here = false) (hplace : place ≠ here)
    (names : List String) : t.walk here names ≠ .ok place := by
  rcases names with - | ⟨name, names⟩
  · rintro ⟨⟩
    exact hplace rfl
  · rw [walk, if_pos (by simp [h])]
    rintro ⟨⟩

/-- The ways to all other places are the same. -/
theorem SameBut.walk_eq_ok_iff (h : SameBut new t t') (hplace : place ≠ new) :
    t'.walk here names = .ok place ↔ t.walk here names = .ok place := by
  induction names generalizing here with
  | nil => rfl
  | cons name names ih =>
    simp only [walk, h.isFolder_eq]
    split
    · rfl
    · split
      · exact ih
      · split
        · exact ih
        · rcases eq_or_ne (here ++ [name]) new with rfl | hne
          · cases hfolder : t.isFolder (here ++ [name]) with
            | true =>
              have hfolder' := (h.isFolder_eq _).trans hfolder
              rw [isFolder_iff.1 hfolder, isFolder_iff.1 hfolder']
              exact ih
            | false =>
              -- the place itself would be the end of the way
              have hfolder' := (h.isFolder_eq _).trans hfolder
              have hend : ∀ {u : FileTree}, u.isFolder (here ++ [name]) = false →
                  (if (u.find? (here ++ [name])).isSome then u.walk (here ++ [name]) names
                    else .error .missing) ≠ .ok place := by
                intro u hu
                split
                · exact walk_ne_ok_of_not_isFolder hu hplace names
                · rintro ⟨⟩
              exact iff_of_false (hend hfolder') (hend hfolder)
          · rw [h.find?_eq _ hne]
            split
            · exact ih
            · rfl

/-- A path with another name of its own leads to the same. -/
theorem SameBut.at?_eq (h : SameBut new t t') (hlast : (properNames p).getLast? = some name)
    (hslash : endsInSlash p = false) (hpoint : name ≠ ".") (hpoints : name ≠ "..")
    (hname : new.getLast? ≠ some name) (folder : Place) : t'.at? folder p = t.at? folder p := by
  have hne : ∀ {u : FileTree} {place}, u.locate folder p = .ok place → place ≠ new := by
    rintro u place hlocate rfl
    exact hname (getLast?_of_locate hlast hslash hpoint hpoints hlocate)
  have hiff : ∀ {place}, place ≠ new →
      (t'.locate folder p = .ok place ↔ t.locate folder p = .ok place) := by
    intro place hplace
    unfold locate
    split
    · rfl
    · exact h.walk_eq_ok_iff hplace
  rw [at?, at?]
  rcases hlocate : t.locate folder p with e | place
  · rcases hlocate' : t'.locate folder p with e' | place
    · rfl
    · cases hlocate.symm.trans ((hiff (hne hlocate')).1 hlocate')
  · rw [(hiff (hne hlocate)).2 hlocate]
    exact h.find?_eq place (hne hlocate)

end TextRoadmap.FileTree
