/-
TextRoadmap/Proofs/Link/Resolve.lean

Links under a base.

Joining a path to a base cuts the slashes at the end of the base and puts one
slash and the path in their place.  What is read of an address, its scheme and
its host, stands in front of that slash if the base is no file and does not
end in a blank, which reading passes over at the end but not in front of a
path.  So the joined link has the address of the base
(`Address.read?_join_of_host`).  Under a web base (`IsWebBase`) it is absolute,
and resolving it once more leaves it as it is (`resolve_resolve`).
-/
import TextRoadmap.Link.Basic
import TextRoadmap.Proofs.Text.Cut

namespace TextRoadmap.Link

open TextRoadmap.Text

variable {base : String} {r s t : List Char}

/-! ### The scheme -/

/-- A slash at the end of what has been read so far is no part of a scheme. -/
theorem readScheme?_append (h : ∀ c ∈ t.head?, c = '/') :
    readScheme? (s ++ t) = (readScheme? s).map fun (scheme, rest) => (scheme, rest ++ t) := by
  have hscheme : ∀ c ∈ t.head?, isSchemeChar c = false := by
    intro c hc
    rw [h c hc]
    rfl
  rcases s with - | ⟨d, s⟩
  · -- a slash begins no scheme either
    rcases t with - | ⟨c, t⟩
    · rfl
    · obtain rfl := h c rfl
      rfl
  · simp only [readScheme?, takeWhile_append_of_head? hscheme, dropWhile_append_of_head? hscheme]
    cases hd : d.isAlpha with
    | false => simp [hd]
    | true =>
      simp only [List.cons_append, List.head?_cons, Option.any_some, hd, if_true]
      rcases (d :: s).dropWhile isSchemeChar with - | ⟨e, rest⟩
      · rcases t with - | ⟨c, t⟩
        · rfl
        · obtain rfl := h c rfl
          rfl
      · by_cases he : e = ':'
        · subst he
          rfl
        · simp [he]

/-! ### The part that names the host -/

/-- Whether anything follows the part that names the host plays no role where
a host has to be named. -/
theorem readAuthority?_standard (s : List Char) :
    readAuthority? true s =
      match splitLast? '@' (s.takeWhile fun c => !endsAuthority true c) with
      | none => readHost? true false (s.takeWhile fun c => !endsAuthority true c)
      | some (user, rest) => readHost? true (user ≠ [] ∧ user ≠ [':']) rest := by
  simp only [readAuthority?]
  rcases splitLast? '@' (s.takeWhile fun c => !endsAuthority true c) with - | ⟨user, rest⟩
  · rfl
  · dsimp only
    split
    · rename_i hempty
      simp only [Bool.and_eq_true, List.isEmpty_iff] at hempty
      rw [hempty.1.2]
      rfl
    · rfl

/-- A slash ends the part that names the host. -/
theorem readAuthority?_append (h : ∀ c ∈ t.head?, c = '/') :
    readAuthority? true (s ++ t) = readAuthority? true s := by
  have hends : ∀ c ∈ t.head?, (!endsAuthority true c) = false := by
    intro c hc
    rw [h c hc]
    rfl
  rw [readAuthority?_standard, readAuthority?_standard, takeWhile_append_of_head? hends]

/-- Where the part that names the host ends in front of a slash, what follows
the slash plays no role. -/
theorem readAuthority?_append_slash (standard : Bool) (s t u : List Char) :
    readAuthority? standard (s ++ '/' :: t) = readAuthority? standard (s ++ '/' :: u) := by
  have hends : ∀ t : List Char, ∀ c ∈ ('/' :: t).head?, (!endsAuthority standard c) = false := by
    intro t c hc
    obtain rfl : '/' = c := by simpa using hc
    rfl
  have hafter : ∀ t : List Char,
      (s.dropWhile (fun c => !endsAuthority standard c) ++ '/' :: t).isEmpty = false := by simp
  simp only [readAuthority?, takeWhile_append_of_head? (hends _),
    dropWhile_append_of_head? (hends _), hafter]

/-- A host that is named at the end of a text is also named in front of a
slash. -/
theorem readAuthority?_append_of_some {standard : Bool} {host : Host}
    (ht : ∀ c ∈ t.head?, c = '/') (h : readAuthority? standard s = some (some host)) :
    readAuthority? standard (s ++ t) = some (some host) := by
  have hends : ∀ c ∈ t.head?, (!endsAuthority standard c) = false := by
    intro c hc
    rw [ht c hc]
    rfl
  simp only [readAuthority?, takeWhile_append_of_head? hends, dropWhile_append_of_head? hends]
    at h ⊢
  generalize splitLast? '@' (s.takeWhile fun c => !endsAuthority standard c) = parts at h ⊢
  rcases parts with - | ⟨user, rest⟩
  · exact h
  · dsimp only at h ⊢
    split at h
    · cases h
    · -- without credentials and without a host nothing is named
      have hfilled : (user.isEmpty && rest.isEmpty) = false := by
        by_contra hempty
        simp only [Bool.not_eq_false, Bool.and_eq_true, List.isEmpty_iff] at hempty
        rw [hempty.1, hempty.2] at h
        cases standard <;> cases h
      rw [hfilled, Bool.false_and, if_neg (by decide)]
      exact h

/-! ### Hosts in front of a path -/

/-- If a web address names a host in front of slashes at its end, it names
the same host in front of any path. -/
theorem hostAfterScheme?_web_append_slash {host : Host} (ht : ∀ c ∈ t, c = '/')
    (h : hostAfterScheme? .web (r ++ t) = some (some host)) (u : List Char) :
    hostAfterScheme? .web (r ++ '/' :: u) = some (some host) := by
  by_cases hr : r.dropWhile (isSlash true) = []
  · -- slashes alone name no host
    have hall : ∀ c ∈ r ++ t, isSlash true c = true := by
      intro c hc
      rcases List.mem_append.1 hc with hc | hc
      · exact List.dropWhile_eq_nil_iff.1 hr c hc
      · rw [ht c hc]
        rfl
    rw [hostAfterScheme?, List.dropWhile_eq_nil_iff.2 hall] at h
    cases h
  · have hdrop : ∀ v, (r ++ v).dropWhile (isSlash true) = r.dropWhile (isSlash true) ++ v := by
      intro v
      rw [List.dropWhile_append, if_neg (by simpa using hr)]
    have hhead : ∀ c ∈ t.head?, c = '/' := fun c hc => ht c (List.mem_of_mem_head? hc)
    rw [hostAfterScheme?, hdrop, readAuthority?_append hhead] at h
    rw [hostAfterScheme?, hdrop, readAuthority?_append (by simp), h]

/-- Where the scheme is not standard, two slashes come before a host. -/
theorem hostAfterScheme?_other_cons_cons (c d : Char) (s : List Char) :
    hostAfterScheme? .other (c :: d :: s) =
      if '/' = c ∧ '/' = d then readAuthority? false s else some none := by
  by_cases h : '/' = c ∧ '/' = d
  · obtain ⟨rfl, rfl⟩ := h
    rfl
  · have hstrip : stripPrefix? ['/', '/'] (c :: d :: s) = none := by
      rcases not_and_or.1 h with hne | hne <;> simp [stripPrefix?, hne]
    rw [if_neg h, hostAfterScheme?, hstrip]

theorem hostAfterScheme?_other_slashes (h : ∀ c ∈ t, c = '/') :
    hostAfterScheme? .other t = some none := by
  rw [List.eq_replicate_iff.2 ⟨rfl, h⟩]
  rcases t.length with - | - | - | n <;> rfl

theorem hostAfterScheme?_other_append_slash {host : Host} (ht : ∀ c ∈ t, c = '/')
    (h : hostAfterScheme? .other (r ++ t) = some (some host)) (u : List Char) :
    hostAfterScheme? .other (r ++ '/' :: u) = some (some host) := by
  match r, h with
  | [], h =>
    rw [List.nil_append, hostAfterScheme?_other_slashes ht] at h
    cases h
  | [c], h =>
    by_cases hc : '/' = c
    · subst hc
      rw [List.singleton_append, hostAfterScheme?_other_slashes (by simpa using ht)] at h
      cases h
    · simp [hostAfterScheme?, stripPrefix?, hc] at h
  | c :: d :: r, h =>
    simp only [List.cons_append, hostAfterScheme?_other_cons_cons] at h ⊢
    split at h
    · rename_i hslashes
      rw [if_pos hslashes]
      rcases t with - | ⟨c, t⟩
      · rw [List.append_nil] at h
        exact readAuthority?_append_of_some (by simp) h
      · obtain rfl := ht c (List.mem_cons_self ..)
        rwa [readAuthority?_append_slash false r u t]
    · cases h

/-- In all addresses but those of files the path leaves the host alone. -/
theorem hostAfterScheme?_append_slash {kind : SchemeKind} {host : Host} (hkind : kind ≠ .file)
    (ht : ∀ c ∈ t, c = '/') (h : hostAfterScheme? kind (r ++ t) = some (some host))
    (u : List Char) : hostAfterScheme? kind (r ++ '/' :: u) = some (some host) := by
  cases kind with
  | file => exact absurd rfl hkind
  | web => exact hostAfterScheme?_web_append_slash ht h u
  | other => exact hostAfterScheme?_other_append_slash ht h u

/-! ### Addresses -/

/-- Neither a tab nor the end of a line: only these three are passed over
wherever they stand. -/
def isInked (c : Char) : Bool := c ≠ '\t' && c ≠ '\n' && c ≠ '\r'

theorem significant_eq (s : List Char) :
    significant s = (trim (fun c => c.toNat ≤ 0x20) s).filter isInked := rfl

/-- A slash keeps what stands before it significant at the end and what
follows it significant at the start. -/
theorem significant_append_slash (s t : List Char) :
    significant (s ++ '/' :: t) = (s.dropWhile fun c => c.toNat ≤ 0x20).filter isInked ++
      '/' :: (trimEnd (fun c => c.toNat ≤ 0x20) t).filter isInked := by
  have hdrop : (s ++ '/' :: t).dropWhile (fun c => c.toNat ≤ 0x20) =
      (s.dropWhile fun c => c.toNat ≤ 0x20) ++ '/' :: t :=
    dropWhile_append_of_head? (by simp)
  rw [significant_eq, trim, hdrop, trimEnd_append_cons (by decide), List.filter_append,
    List.filter_cons_of_pos (by decide)]

/-- What is read of a base in front of the slash that joins a link to it. -/
def stem (base : String) : List Char :=
  ((trimEnd (· = '/') base.toList).dropWhile fun c => c.toNat ≤ 0x20).filter isInked

/-- What is read of a link behind the slash that joins it to a base. -/
def tailOf (link : String) : List Char :=
  (trimEnd (fun c => c.toNat ≤ 0x20) (link.toList.dropWhile (· = '/'))).filter isInked

theorem Address.read?_eq (s : String) :
    Address.read? s = (readScheme? (significant s.toList)).bind fun (scheme, rest) =>
      (hostAfterScheme? (.of scheme) rest).map (Address.mk scheme) := by
  rw [Address.read?]
  rcases readScheme? (significant s.toList) with - | ⟨scheme, rest⟩
  · rfl
  · cases h : hostAfterScheme? (.of scheme) rest <;> simp [h]

/-- A joined link has the scheme of the base; its host is named in what
follows the scheme in the base, a slash and the link. -/
theorem Address.read?_join (base link : String) :
    Address.read? (join base link) = (readScheme? (stem base)).bind fun (scheme, r) =>
      (hostAfterScheme? (.of scheme) (r ++ '/' :: tailOf link)).map (Address.mk scheme) := by
  rw [Address.read?_eq, join, String.toList_ofList, significant_append_slash, ← stem, ← tailOf,
    readScheme?_append (by simp)]
  rcases readScheme? (stem base) with - | ⟨scheme, r⟩ <;> rfl

/-- The significant characters of a base that does not end in a blank, up to
slashes at the end. -/
theorem significant_eq_of_last (hlast : ∀ c ∈ base.toList.getLast?, ¬ c.toNat ≤ 0x20) :
    ∃ t, (∀ c ∈ t, c = '/') ∧ significant base.toList = stem base ++ t := by
  obtain ⟨t, ht, hall⟩ := exists_trimEnd_append (· = '/') base.toList
  have hslash : ∀ c ∈ t, c = '/' := fun c hc => by simpa using hall c hc
  have hend : trimEnd (fun c => c.toNat ≤ 0x20)
      (base.toList.dropWhile fun c => c.toNat ≤ 0x20) =
      base.toList.dropWhile fun c => c.toNat ≤ 0x20 :=
    trimEnd_eq_self fun c hc => by simpa using hlast c (mem_getLast?_of_dropWhile hc)
  have hstart : (base.toList.dropWhile fun c => c.toNat ≤ 0x20) =
      ((trimEnd (· = '/') base.toList).dropWhile fun c => c.toNat ≤ 0x20) ++ t := by
    have hhead : ∀ c ∈ t.head?, decide (c.toNat ≤ 0x20) = false := fun c hc => by
      rw [hslash c (List.mem_of_mem_head? hc)]
      rfl
    rw [← dropWhile_append_of_head? hhead, ← ht]
  refine ⟨t.filter isInked, fun c hc => hslash c (List.mem_filter.1 hc).1, ?_⟩
  rw [significant_eq, trim, hend, hstart, List.filter_append, ← stem]

/-- **Links under a base**: what is joined to a base that names a host has the
address of the base, if the base is not a file and does not end in a blank. -/
theorem Address.read?_join_of_host {a : Address} (ha : Address.read? base = some a)
    (hhost : a.host.isSome = true) (hkind : SchemeKind.of a.scheme ≠ .file)
    (hlast : ∀ c ∈ base.toList.getLast?, ¬ c.toNat ≤ 0x20) (link : String) :
    Address.read? (join base link) = some a := by
  obtain ⟨t, hall, ht⟩ := significant_eq_of_last hlast
  rw [Address.read?_join]
  rw [Address.read?_eq, ht, readScheme?_append fun c hc => hall c (List.mem_of_mem_head? hc)] at ha
  -- both addresses begin with the base up to its last slashes
  generalize readScheme? (stem base) = parts at ha ⊢
  rcases parts with - | ⟨scheme, r⟩
  · cases ha
  · obtain ⟨host?, hread, rfl⟩ := Option.map_eq_some_iff.1 ha
    obtain ⟨host, rfl⟩ := Option.isSome_iff_exists.1 hhost
    show (hostAfterScheme? (.of scheme) (r ++ '/' :: tailOf link)).map (Address.mk scheme) = _
    rw [hostAfterScheme?_append_slash hkind hall hread]
    rfl

/-- A link resolves to an absolute one if it becomes absolute under the base. -/
theorem isAbsolute_resolve_of_join {link : String} (hne : base ≠ "")
    (h : isAbsolute (join base link) = true) : isAbsolute (resolve base link) = true := by
  rw [resolve]
  split
  · rename_i hkept
    simpa [hne] using hkept
  · exact h

/-! ### Web bases -/

/-- A base under which every link leads somewhere: a web address that names a
host, written without anything at its ends that reading passes over. -/
structure IsWebBase (base : String) : Prop where
  address : ∃ a, Address.read? base = some a ∧ a.host.isSome ∧
    (a.scheme = "http".toList ∨ a.scheme = "https".toList)
  trimmed : Trimmed (fun c => c.toNat ≤ 0x20) base.toList

theorem IsWebBase.ne_empty (h : IsWebBase base) : base ≠ "" := by
  rintro rfl
  obtain ⟨a, ha, -⟩ := h.address
  cases ha

/-- Whatever is joined to a web base has the address of the base. -/
theorem IsWebBase.read?_join (h : IsWebBase base) (link : String) :
    Address.read? (join base link) = Address.read? base := by
  obtain ⟨a, ha, hhost, hscheme⟩ := h.address
  have hkind : SchemeKind.of a.scheme ≠ .file := by
    rcases hscheme with hscheme | hscheme <;> rw [hscheme] <;> decide
  rw [ha]
  exact Address.read?_join_of_host ha hhost hkind
    (fun c hc => by simpa using h.trimmed.last c hc) link

theorem IsWebBase.isAbsolute_join (h : IsWebBase base) (link : String) :
    isAbsolute (join base link) = true := by
  obtain ⟨a, ha, hhost, -⟩ := h.address
  simp [isAbsolute, h.read?_join, ha, hhost]

/-- Under a web base every link resolves to an address that names a host. -/
theorem IsWebBase.isAbsolute_resolve (h : IsWebBase base) (link : String) :
    isAbsolute (resolve base link) = true :=
  isAbsolute_resolve_of_join h.ne_empty (h.isAbsolute_join link)

/-- Resolving a link again leaves it alone. -/
theorem resolve_resolve (h : base = "" ∨ IsWebBase base) (link : String) :
    resolve base (resolve base link) = resolve base link := by
  rcases h with rfl | h
  · rfl
  · exact resolve_of_isAbsolute (h.isAbsolute_resolve link)

end TextRoadmap.Link
