/-
TextRoadmap/Proofs/Link/Bases.lean

Bases under which links lead to hosts.

A link is kept if it makes an address under the base, and an address need
not name a host: `mailto:` addresses have none, and a `file` address loses
its host where a drive letter comes first in its path.  Whether every link
that is kept leads to a host is a question about the base alone, and two
links decide it (`leadsToHost_of_probes`): a single slash, and as many steps
upwards as the base has characters with a drive letter behind them.  Under a
base with a web scheme every link does (`leadsToHost_of_web`).

A base that leads a single slash to a host makes an address of every link, so
the same two links decide whether all become absolute
(`isAbsolute_join_of_probes`).
-/
import TextRoadmap.Proofs.Link.Resolve

namespace TextRoadmap.Link

open TextRoadmap.Text

variable {base link : String} {r s u : List Char} {above segments : List (List Char)}

/-! ### Paths of files -/

/-- The segments at the end of a path, the last one first, if `above` are
those in front of it. -/
def climbed : (above segments : List (List Char)) → List (List Char)
  | above, [] => above
  | above, segment :: rest =>
    if isDoubleDot segment then
      climbed (if above.head?.any isDriveLetter then above else above.tail) rest
    else if isSingleDot segment then climbed above rest
    else climbed (segment :: above) rest

/-- A path in two parts leaves the host in place if both parts do. -/
theorem keepsHost_append (above segments rest : List (List Char)) :
    keepsHost above (segments ++ rest) =
      (keepsHost above segments && keepsHost (climbed above segments) rest) := by
  fun_induction keepsHost above segments with
  | case1 above => simp [climbed]
  | case2 above segment segments hdouble ih => simp [keepsHost, climbed, hdouble, ih]
  | case3 above segment segments hdouble hsingle ih =>
    simp [keepsHost, climbed, hdouble, hsingle, ih]
  | case4 above segment segments hdouble hsingle hdrive =>
    simp [keepsHost, hdouble, hsingle, hdrive]
  | case5 above segment segments hdouble hsingle hdrive ih =>
    simp [keepsHost, climbed, hdouble, hsingle, hdrive, ih]

theorem length_climbed_le (above segments : List (List Char)) :
    (climbed above segments).length ≤ above.length + segments.length := by
  fun_induction climbed above segments with
  | case1 above => simp
  | case2 above segment segments hdouble ih =>
    have : (if above.head?.any isDriveLetter then above else above.tail).length ≤ above.length := by
      split <;> simp
    simp only [List.length_cons]
    omega
  | case3 above segment segments hdouble hsingle ih =>
    simp only [List.length_cons]
    omega
  | case4 above segment segments hdouble hsingle ih =>
    simp only [List.length_cons] at ih ⊢
    omega

/-- No step upwards passes a drive letter, so nothing below it comes to the
root. -/
theorem keepsHost_of_any (h : above.any isDriveLetter = true) (segments : List (List Char)) :
    keepsHost above segments = true := by
  fun_induction keepsHost above segments with
  | case1 => rfl
  | case2 above segment segments hdouble ih =>
    refine ih ?_
    split
    · exact h
    · rename_i hhead
      rcases above with - | ⟨top, above⟩
      · cases h
      · simpa [show isDriveLetter top = false by simpa using hhead] using h
  | case3 above segment segments hdouble hsingle ih => exact ih h
  | case4 above segment segments hdouble hsingle hdrive =>
    rcases above with - | ⟨top, above⟩
    · cases h
    · simp at hdrive
  | case5 above segment segments hdouble hsingle hdrive ih => exact ih (by simp [h])

/-- Steps upwards, and a drive letter behind them. -/
def climb (n : Nat) : List (List Char) := List.replicate n "..".toList ++ ["C:".toList]

/-- Enough steps upwards come to the root if no drive letter is passed, and
the drive letter there takes the host away. -/
theorem keepsHost_climb {n : Nat} (h : above.any isDriveLetter = false) (hn : above.length ≤ n) :
    keepsHost above (climb n) = false := by
  induction n generalizing above with
  | zero =>
    obtain rfl := List.length_eq_zero_iff.1 (Nat.le_zero.1 hn)
    decide
  | succ n ih =>
    have hstep : keepsHost above (climb (n + 1)) =
        keepsHost (if above.head?.any isDriveLetter then above else above.tail) (climb n) := rfl
    rw [hstep]
    rcases above with - | ⟨top, above⟩
    · exact ih rfl (Nat.zero_le n)
    · rw [List.any_cons, Bool.or_eq_false_iff] at h
      rw [List.head?_cons, Option.any_some, h.1, if_neg (by decide), List.tail_cons]
      exact ih h.2 (by simpa using hn)

/-- **A path that can be led to the root is led there by a climb**: if a
climb that is as long as the path leaves the host in place, every way on from
the path does. -/
theorem keepsHost_append_of_climb {n : Nat} (hn : segments.length ≤ n)
    (h : keepsHost [] (segments ++ climb n) = true) (rest : List (List Char)) :
    keepsHost [] (segments ++ rest) = true := by
  rw [keepsHost_append, Bool.and_eq_true] at h
  rw [keepsHost_append, h.1, Bool.true_and]
  refine keepsHost_of_any ?_ rest
  by_contra hany
  have hlength := length_climbed_le [] segments
  rw [keepsHost_climb (by simpa using hany) (by simpa using hlength.trans (by simpa using hn))] at h
  exact absurd h.2 (by decide)

/-! ### Segments behind a slash -/

/-- The segments of what follows a slash in a path. -/
def segmentsBehind (u : List Char) : List (List Char) :=
  ((u.takeWhile fun c => c ≠ '?' && c ≠ '#').map fun c => if c = '\\' then '/' else c).splitOn '/'

/-- What follows the end of a path does not belong to it. -/
theorem pathSegments_append_of_mem (h : ∃ c ∈ s, c = '?' ∨ c = '#') (t : List Char) :
    pathSegments (s ++ t) = pathSegments s := by
  have htake : (s ++ t).takeWhile (fun c => c ≠ '?' && c ≠ '#') =
      s.takeWhile fun c => c ≠ '?' && c ≠ '#' := by
    obtain ⟨c, hc, hmark⟩ := h
    rw [List.takeWhile_append, if_neg]
    intro hlength
    have hall := List.takeWhile_eq_self_iff.1
      ((List.takeWhile_sublist fun c => c ≠ '?' && c ≠ '#').eq_of_length hlength) c hc
    rcases hmark with rfl | rfl <;> simp at hall
  simp only [pathSegments, htake]

theorem length_splitOn_le (mark : Char) (s : List Char) :
    (s.splitOn mark).length ≤ s.length + 1 := by
  induction s with
  | nil => simp
  | cons c s ih =>
    rw [List.splitOn_cons_eq_if_modifyHead]
    split <;> simp <;> omega

/-- A slash in a path ends a segment. -/
theorem pathSegments_append_slash (h : ∀ c ∈ s, c ≠ '?' ∧ c ≠ '#') :
    ∃ segments : List (List Char), segments.length ≤ s.length + 1 ∧
      ∀ u, pathSegments (s ++ '/' :: u) = segments ++ segmentsBehind u := by
  have htake : ∀ u, (s ++ '/' :: u).takeWhile (fun c => c ≠ '?' && c ≠ '#') =
      s ++ '/' :: u.takeWhile fun c => c ≠ '?' && c ≠ '#' := by
    intro u
    rw [List.takeWhile_append_of_pos (by simpa using h), List.takeWhile_cons_of_pos (by decide)]
  rcases s with - | ⟨c, s⟩
  · refine ⟨[], Nat.zero_le _, fun u => ?_⟩
    simp only [pathSegments, htake]
    rfl
  · -- a slash in front of the first segment belongs to none
    let front := if isSlash true c then s else c :: s
    have hfront : ∀ t, (if isSlash true c then s ++ t else c :: (s ++ t)) = front ++ t := by
      intro t
      dsimp only [front]
      split <;> rfl
    refine ⟨(front.map fun c => if c = '\\' then '/' else c).splitOn '/', ?_, fun u => ?_⟩
    · refine (length_splitOn_le ..).trans ?_
      rw [List.length_map]
      dsimp only [front]
      split <;> simp
    · simp only [List.cons_append] at htake
      simp only [pathSegments, List.cons_append, htake, hfront, List.map_append, List.map_cons]
      exact List.splitOn_append_cons_self ..

/-! ### The text of a climb -/

/-- The text of a climb. -/
def climbText (n : Nat) : List Char := (List.replicate n "../".toList).flatten ++ "C:".toList

theorem climbText_succ (n : Nat) : climbText (n + 1) = '.' :: '.' :: '/' :: climbText n := rfl

theorem mem_climbText {n : Nat} : ∀ c ∈ climbText n, c ∈ "./C:".toList := by
  induction n with
  | zero => simp [climbText]
  | succ n ih =>
    rw [climbText_succ]
    simpa using ih

theorem segmentsBehind_climbText (n : Nat) : segmentsBehind (climbText n) = climb n := by
  have hall : ∀ c ∈ "./C:".toList, c ≠ '?' ∧ c ≠ '#' ∧ c ≠ '\\' := by simp
  have hclean := fun c hc => hall c (mem_climbText (n := n) c hc)
  have htake : (climbText n).takeWhile (fun c => c ≠ '?' && c ≠ '#') = climbText n := by
    refine List.takeWhile_eq_self_iff.2 fun c hc => ?_
    simpa using ⟨(hclean c hc).1, (hclean c hc).2.1⟩
  have hmap : ((climbText n).map fun c => if c = '\\' then '/' else c) = climbText n := by
    refine (List.map_congr_left fun c hc => if_neg (hclean c hc).2.2).trans (List.map_id' _)
  rw [segmentsBehind, htake, hmap]
  clear hall hclean htake hmap
  induction n with
  | zero => decide
  | succ n ih =>
    show (['.', '.'] ++ '/' :: climbText n).splitOn '/' = _
    rw [List.splitOn_append_cons_self, ih]
    rfl

theorem tailOf_climbText (n : Nat) :
    tailOf (String.ofList ('/' :: climbText n)) = climbText n := by
  have hhead : ∀ c ∈ (climbText n).head?, (c = '/' : Bool) = false := by
    intro c hc
    cases n with
    | zero =>
      obtain rfl : 'C' = c := by simpa [climbText] using hc
      decide
    | succ n =>
      obtain rfl : '.' = c := by simpa [climbText_succ] using hc
      decide
  have htrim : trimEnd (fun c => c.toNat ≤ 0x20) (climbText n) = climbText n := by
    have hlast : climbText n = ((List.replicate n "../".toList).flatten ++ ['C']) ++ [':'] := by
      simp [climbText]
    rw [hlast]
    exact trimEnd_concat_of_not (by decide) _
  have hinked : ∀ c ∈ "./C:".toList, isInked c = true := by simp [isInked]
  rw [tailOf, String.toList_ofList, List.dropWhile_cons_of_pos (by decide), dropWhile_eq_self hhead,
    htrim]
  exact List.filter_eq_self.2 fun c hc => hinked c (mem_climbText c hc)

/-! ### Hosts in front of a slash -/

/-- An address with a standard scheme names a host, or there is none. -/
theorem readHost?_standard_ne (credentials : Bool) (s : List Char) :
    readHost? true credentials s ≠ some none := by
  rw [readHost?]
  rcases cutPort false s with ⟨text, port⟩
  rcases htext : standardHost? text with - | host
  · simp [htext]
  · simp only [htext]
    split <;> simp

theorem hostAfterScheme?_web_ne (r : List Char) : hostAfterScheme? .web r ≠ some none := by
  rw [hostAfterScheme?, readAuthority?_standard]
  split
  · exact readHost?_standard_ne false _
  · exact readHost?_standard_ne _ _

/-- The part of a file address that names the host. -/
def fileHostText (s : List Char) : List Char := s.takeWhile fun c => !endsAuthority true c

theorem readFileHost?_append_slash (s u : List Char) :
    readFileHost? (s ++ '/' :: u) =
      if (fileHostText s).isEmpty || isDriveLetter (fileHostText s) then some none
      else (standardHost? (fileHostText s)).map fun host =>
        if host = .domain "localhost".toList ||
          !keepsHost [] (pathSegments (s.dropWhile (fun c => !endsAuthority true c) ++ '/' :: u))
        then none else some host := by
  have hends : ∀ c ∈ ('/' :: u).head?, (!endsAuthority true c) = false := by
    intro c hc
    obtain rfl : '/' = c := by simpa using hc
    rfl
  simp only [readFileHost?, takeWhile_append_of_head? hends, dropWhile_append_of_head? hends,
    fileHostText]
  rfl

/-- A base whose scheme is not standard leads every link to a host if it leads
a single slash there. -/
theorem hostAfterScheme?_other_ne (h : hostAfterScheme? .other (r ++ ['/']) ≠ some none)
    (u : List Char) : hostAfterScheme? .other (r ++ '/' :: u) ≠ some none := by
  match r, h with
  | [], h => exact absurd rfl h
  | [c], h =>
    refine absurd ?_ h
    by_cases hc : '/' = c
    · subst hc
      rfl
    · simp [hostAfterScheme?, stripPrefix?, hc]
  | c :: d :: r, h =>
    simp only [List.cons_append, hostAfterScheme?_other_cons_cons] at h ⊢
    split at h
    · rename_i hslashes
      rwa [if_pos hslashes, readAuthority?_append_slash false r u []]
    · exact absurd rfl h

/-- What is needed of a file address so that it names a host. -/
theorem readFileHost?_ne_iff : readFileHost? (s ++ '/' :: u) ≠ some none ↔
    ((fileHostText s).isEmpty || isDriveLetter (fileHostText s)) = false ∧
      ∀ host, standardHost? (fileHostText s) = some host → host ≠ .domain "localhost".toList ∧
        keepsHost [] (pathSegments (s.dropWhile (fun c => !endsAuthority true c) ++ '/' :: u)) := by
  rw [readFileHost?_append_slash]
  generalize keepsHost [] _ = keeps
  generalize Host.domain "localhost".toList = localhost
  rcases ((fileHostText s).isEmpty || isDriveLetter (fileHostText s)) with - | -
  · rcases standardHost? (fileHostText s) with - | host
    · simp
    · by_cases hlocal : host = localhost <;> cases keeps <;> simp [hlocal]
  · simp

/-- A path of a file address is led to the root by a climb, or by nothing. -/
theorem keepsHost_of_climbText {n : Nat} (hn : s.length < n)
    (h : keepsHost [] (pathSegments (s ++ '/' :: climbText n)) = true) (u : List Char) :
    keepsHost [] (pathSegments (s ++ '/' :: u)) = true := by
  by_cases hmark : ∃ c ∈ s, c = '?' ∨ c = '#'
  · rw [pathSegments_append_of_mem hmark] at h ⊢
    exact h
  · have hclean : ∀ c ∈ s, c ≠ '?' ∧ c ≠ '#' := by
      intro c hc
      exact not_or.1 fun hor => hmark ⟨c, hc, hor⟩
    obtain ⟨segments, hlength, hsegments⟩ := pathSegments_append_slash hclean
    rw [hsegments, segmentsBehind_climbText] at h
    rw [hsegments]
    exact keepsHost_append_of_climb (by omega) h _

/-- A base that is a file address leads every link to a host if it leads a
single slash and a climb there. -/
theorem hostAfterScheme?_file_ne {n : Nat} (hn : r.length ≤ n)
    (hslash : hostAfterScheme? .file (r ++ ['/']) ≠ some none)
    (hclimb : hostAfterScheme? .file (r ++ '/' :: climbText n) ≠ some none) (u : List Char) :
    hostAfterScheme? .file (r ++ '/' :: u) ≠ some none := by
  match r, hn, hslash, hclimb with
  | [], _, hslash, _ => exact absurd rfl hslash
  | [c], _, hslash, _ =>
    refine absurd ?_ hslash
    simp only [hostAfterScheme?, List.cons_append, List.nil_append]
    split <;> rfl
  | c :: d :: r, hn, hslash, hclimb =>
    by_cases hslashes : (isSlash true c && isSlash true d) = true
    · simp only [hostAfterScheme?, List.cons_append, hslashes, if_true] at hclimb ⊢
      obtain ⟨htext, hhost⟩ := readFileHost?_ne_iff.1 hclimb
      refine readFileHost?_ne_iff.2 ⟨htext, fun host hread => ?_⟩
      obtain ⟨hlocal, hkeeps⟩ := hhost host hread
      refine ⟨hlocal, keepsHost_of_climbText ?_ hkeeps u⟩
      have hdrop := (List.dropWhile_sublist (fun c => !endsAuthority true c) (l := r)).length_le
      simp only [List.length_cons] at hn
      omega
    · refine absurd ?_ hslash
      simp only [hostAfterScheme?, List.cons_append]
      rw [if_neg hslashes]

/-! ### Bases -/

/-- The link makes no address under the base, or one that names a host. -/
def LeadsToHost (base link : String) : Prop :=
  isValid (join base link) = true → isAbsolute (join base link) = true

instance (base link : String) : Decidable (LeadsToHost base link) :=
  inferInstanceAs (Decidable (_ → _))

theorem leadsToHost_iff : LeadsToHost base link ↔
    ∀ scheme r, readScheme? (stem base) = some (scheme, r) →
      hostAfterScheme? (.of scheme) (r ++ '/' :: tailOf link) ≠ some none := by
  rw [LeadsToHost, isValid, isAbsolute, Address.read?_join]
  rcases readScheme? (stem base) with - | ⟨scheme, r⟩
  · simp
  · rw [Option.bind_some]
    rcases hhost : hostAfterScheme? (.of scheme) (r ++ '/' :: tailOf link) with - | - | host <;>
      simp [hhost]

/-- Two links that show whether a base leads links to hosts: a single slash,
and a climb that is longer than the path of the base. -/
def probes (base : String) : List String :=
  ["/", String.ofList ('/' :: climbText base.length)]

theorem length_le_of_readScheme? {scheme : List Char}
    (h : readScheme? (stem base) = some (scheme, r)) : r.length ≤ base.length := by
  have hrest : r.length ≤ (stem base).length := by
    unfold readScheme? at h
    split at h
    · split at h
      · rename_i rest hdrop
        obtain ⟨-, rfl⟩ := Prod.mk.inj (Option.some.inj h)
        have := (List.dropWhile_sublist isSchemeChar (l := stem base)).length_le
        rw [hdrop, List.length_cons] at this
        omega
      · cases h
    · cases h
  have hstem : (stem base).length ≤ base.toList.length := by
    obtain ⟨t, ht, -⟩ := exists_trimEnd_append (· = '/') base.toList
    have htrim := congrArg List.length ht
    rw [List.length_append] at htrim
    have hdrop := (List.dropWhile_sublist (fun c : Char => c.toNat ≤ 0x20)
      (l := trimEnd (· = '/') base.toList)).length_le
    exact (List.length_filter_le ..).trans (by omega)
  rw [String.length_toList] at hstem
  exact hrest.trans hstem

theorem exists_of_mem_probes (h : link ∈ probes base) :
    ∃ t, link = String.ofList ('/' :: t) ∧ ∀ c ∈ t, c ∈ "./C:".toList := by
  rcases List.mem_cons.1 h with rfl | h
  · exact ⟨[], rfl, by simp⟩
  · exact ⟨_, List.mem_singleton.1 h, mem_climbText⟩

/-- **Two links decide whether every link leads to a host.** -/
theorem leadsToHost_of_probes (h : ∀ probe ∈ probes base, LeadsToHost base probe) (link : String) :
    LeadsToHost base link := by
  have hslash := leadsToHost_iff.1 (h "/" (List.mem_cons_self ..))
  have hclimb := leadsToHost_iff.1 (h _ (List.mem_cons_of_mem _ (List.mem_cons_self ..)))
  rw [leadsToHost_iff]
  intro scheme r hread
  have hslash := hslash scheme r hread
  have hclimb := hclimb scheme r hread
  rw [show tailOf "/" = [] by decide] at hslash
  rw [tailOf_climbText] at hclimb
  generalize SchemeKind.of scheme = kind at hslash hclimb ⊢
  cases kind with
  | web => exact hostAfterScheme?_web_ne _
  | other => exact hostAfterScheme?_other_ne hslash _
  | file => exact hostAfterScheme?_file_ne (length_le_of_readScheme? hread) hslash hclimb _

/-! ### Absolute links -/

/-- Whether there is a file address is settled in front of its first slash. -/
theorem readFileHost?_eq_none_iff : readFileHost? (s ++ '/' :: u) = none ↔
    ((fileHostText s).isEmpty || isDriveLetter (fileHostText s)) = false ∧
      standardHost? (fileHostText s) = none := by
  rw [readFileHost?_append_slash]
  generalize standardHost? (fileHostText s) = host?
  generalize keepsHost [] _ = keeps
  generalize Host.domain "localhost".toList = localhost
  rcases ((fileHostText s).isEmpty || isDriveLetter (fileHostText s)) with - | - <;> simp

/-- A base that leads a single slash to a host makes an address of every
link. -/
theorem hostAfterScheme?_ne_none {kind : SchemeKind} {host : Host}
    (h : hostAfterScheme? kind (r ++ ['/']) = some (some host)) (u : List Char) :
    hostAfterScheme? kind (r ++ '/' :: u) ≠ none := by
  by_cases hkind : kind = .file
  · -- the path may take the host away here, but it leaves the address
    subst hkind
    match r, h with
    | [], h => cases h
    | [c], h =>
      have hpair : hostAfterScheme? .file [c, '/'] = some none := by
        rw [hostAfterScheme?]
        split <;> rfl
      rw [List.singleton_append, hpair] at h
      cases h
    | c :: d :: r, h =>
      simp only [hostAfterScheme?, List.cons_append] at h ⊢
      by_cases hslashes : (isSlash true c && isSlash true d) = true
      · rw [if_pos hslashes] at h ⊢
        intro hnone
        rw [readFileHost?_eq_none_iff.2 (readFileHost?_eq_none_iff.1 hnone)] at h
        cases h
      · rw [if_neg hslashes] at h
        cases h
  · rw [hostAfterScheme?_append_slash hkind (by simp) h u]
    exact Option.some_ne_none _

theorem isValid_join_of_slash (h : isAbsolute (join base "/") = true) (link : String) :
    isValid (join base link) = true := by
  rw [isAbsolute, Address.read?_join, show tailOf "/" = [] by decide] at h
  rw [isValid, Address.read?_join]
  generalize readScheme? (stem base) = parts at h ⊢
  rcases parts with - | ⟨scheme, r⟩
  · cases h
  · rw [Option.bind_some] at h ⊢
    rcases hread : hostAfterScheme? (.of scheme) (r ++ ['/']) with - | - | host
    · simp [hread] at h
    · simp [hread] at h
    · rw [Option.isSome_map, Option.isSome_iff_ne_none]
      exact hostAfterScheme?_ne_none hread (tailOf link)

/-- **Two links decide whether every link becomes absolute.** -/
theorem isAbsolute_join_of_probes
    (h : ∀ probe ∈ probes base, isAbsolute (join base probe) = true) (link : String) :
    isAbsolute (join base link) = true :=
  leadsToHost_of_probes (fun probe hprobe _ => h probe hprobe) link
    (isValid_join_of_slash (h "/" (List.mem_cons_self ..)) link)

/-- What is joined to an absolute base is absolute, if the base is not a file
and does not end in a blank. -/
theorem isAbsolute_join_of_last (h : isAbsolute base = true)
    (hkind : ∀ a ∈ Address.read? base, a.scheme ≠ "file".toList)
    (hlast : ∀ c ∈ base.toList.getLast?, ¬ c.toNat ≤ 0x20) (link : String) :
    isAbsolute (join base link) = true := by
  obtain ⟨a, ha, hhost⟩ := (Option.any_eq_true ..).1 h
  have hof : SchemeKind.of a.scheme ≠ .file := by
    rw [SchemeKind.of, if_neg (hkind a ha)]
    split <;> exact nofun
  rw [isAbsolute, Address.read?_join_of_host ha hhost hof hlast link]
  exact hhost

/-- Under a file base a path can lead to a drive letter. -/
example : isAbsolute "file://host/" = true ∧ isAbsolute (join "file://host/" "C:/x") = false := by
  decide +kernel

/-- What begins with a slash is no address. -/
theorem not_isValid_slash (t : List Char) : isValid (String.ofList ('/' :: t)) = false := by
  have hread := significant_append_slash [] t
  rw [List.nil_append] at hread
  rw [isValid, Address.read?_eq, String.toList_ofList, hread]
  rfl

theorem not_isAbsolute_of_mem_probes (h : link ∈ probes base) : isAbsolute link = false := by
  obtain ⟨t, rfl, -⟩ := exists_of_mem_probes h
  rw [Bool.eq_false_iff]
  intro habsolute
  have hvalid := isValid_of_isAbsolute habsolute
  rw [not_isValid_slash] at hvalid
  cases hvalid

/-- A base with a web scheme leads every link to a host. -/
theorem leadsToHost_of_web {scheme : List Char} (h : readScheme? (stem base) = some (scheme, r))
    (hweb : SchemeKind.of scheme = .web) (link : String) : LeadsToHost base link := by
  rw [leadsToHost_iff]
  intro scheme' r' h'
  obtain ⟨rfl, rfl⟩ := Prod.mk.inj (Option.some.inj (h.symm.trans h'))
  rw [hweb]
  exact hostAfterScheme?_web_ne _

end TextRoadmap.Link
