/-
TextRoadmap/Proofs/Outline/Forms.lean

The lines that stay as they are when they are read and written again.

A project stays exactly if its line has a certain form
(`rewriteProject_eq_self_iff`), and so does a milestone
(`rewriteMilestone?_eq_self_iff`).  Both forms can be checked on the line
alone, given the unit of the outline.  The indentation of a project is the
subtle part: units are counted when a line is read, but tabs are written.
-/
import TextRoadmap.Proofs.Outline.Rewrite

namespace TextRoadmap.Outline

open TextRoadmap.Text TextRoadmap.Calendar

variable {s : Setting} {unit line body : List Char} {n depth : Nat}

/-! ### The line of a project -/

/-- The indentation of a canonical project: tabs, where the tab is the unit;
or none that the unit would count.  There is one more way, where the unit is
a tab and a blank: the blank in front of the block of an untitled project
counts for the unit and is written again. -/
def IsIndented (unit : List Char) (depth : Nat) (body : List Char) : Prop :=
  unit = ['\t'] ∧ depth ≤ 255 ∧ body.head? ≠ some '\t' ∨
  depth = 0 ∧ ¬ unit <+: body ∨
  unit = ['\t', ' '] ∧ depth = 1 ∧ body.head? = some ' ' ∧ ¬ NoBlock body

/-- The form of the line of a project in a canonical outline. -/
def IsProjectForm (s : Setting) (unit line : List Char) : Prop :=
  ∃ depth body, line = List.replicate depth '\t' ++ body ∧ IsIndented unit depth body ∧
    IsStable s (projectTokens s.layout) body

theorem length_units (n : Nat) (unit : List Char) :
    (List.replicate n unit).flatten.length = n * unit.length := by
  simp

/-- Units that fill no more than the tabs that are written for them are tabs. -/
theorem eq_tab_of_length_le {rest : List Char} (hpos : 0 < n) (hne : unit ≠ [])
    (hlen : n * unit.length ≤ min n 255)
    (heq : (List.replicate n unit).flatten ++ body = List.replicate (min n 255) '\t' ++ rest) :
    unit = ['\t'] ∧ n ≤ 255 ∧ body = rest := by
  have hone : unit.length = 1 := by
    have hunit := List.length_pos_iff.2 hne
    by_contra hlong
    have : n * 2 ≤ n * unit.length := Nat.mul_le_mul_left n (by omega)
    omega
  rw [hone, Nat.mul_one] at hlen
  have hmin : min n 255 = n := by omega
  obtain ⟨c, rfl⟩ := List.length_eq_one_iff.1 hone
  have hunits : (List.replicate n [c]).flatten = List.replicate n c := by simp
  rw [hunits, hmin] at heq
  obtain ⟨hc, hrest⟩ := List.append_inj heq (by simp)
  obtain ⟨m, rfl⟩ := Nat.exists_eq_add_of_lt hpos
  simp only [List.replicate_succ] at hc
  exact ⟨by rw [(List.cons.inj hc).1], by omega, hrest⟩

/-- The blank in front of a block belongs to the body of the line or, where
the title is empty, to its indentation. -/
theorem splitExtra_bracket {tokens : List (List Char)} (hne : tokens ≠ [])
    (hfree : ∀ token ∈ tokens, '[' ∉ token) :
    splitExtra ('[' :: (commaJoin tokens ++ [']'])) = splitExtra (withExtra [] tokens) := by
  have hbracket : '[' ∉ commaJoin tokens := not_mem_commaJoin (by decide) (by decide) hfree
  rw [splitExtra_withExtra hne hfree]
  exact splitExtra_block hbracket []

theorem rewriteProject_of_isProjectForm (hunit : IsUnit unit)
    (hline : isMilestoneLine line = false) (h : IsProjectForm s unit line) :
    rewriteProject s unit line = line := by
  have hwrite := isWriter_projectTokens s
  obtain ⟨depth, body, rfl, hindent, hstable⟩ := h
  have hbody := (rewriteBody_eq_self_iff hwrite).2 hstable
  rcases hindent with ⟨rfl, hdepth, hhead⟩ | ⟨rfl, hnot⟩ | ⟨rfl, rfl, hhead, hblock⟩
  · have hnot : ¬ ['\t'] <+: body := by
      rintro ⟨rest, rfl⟩
      exact hhead rfl
    rw [← flatten_replicate_tab] at hline ⊢
    rw [rewriteProject_append hunit hnot hline, hbody, Nat.min_eq_left hdepth,
      flatten_replicate_tab]
  · have hzero : List.replicate 0 '\t' ++ body = (List.replicate 0 unit).flatten ++ body := rfl
    rw [hzero] at hline ⊢
    rw [rewriteProject_append hunit hnot hline, hbody]
    rfl
  · -- the body begins with the blank that the unit counts
    rcases hstable with hno | ⟨htitle, hne, hfree, htokens⟩
    · exact absurd hno hblock
    · rename_i title tokens
      have hnil : title = [] := by
        by_contra hne'
        rw [head?_withExtra hne'] at hhead
        exact absurd (htitle.head ' ' hhead) (by decide)
      subst hnil
      have hsplit := splitExtra_bracket hne hfree
      have hrest : List.replicate 1 '\t' ++ withExtra [] tokens =
          (List.replicate 1 ['\t', ' ']).flatten ++ '[' :: (commaJoin tokens ++ [']']) := by
        rw [withExtra_of_ne_nil hne]
        rfl
      have hnot : ¬ ['\t', ' '] <+: '[' :: (commaJoin tokens ++ [']']) := by
        rintro ⟨rest, hrest⟩
        simp at hrest
      rw [hrest] at hline ⊢
      rw [rewriteProject_append hunit hnot hline, rewriteBody, hsplit, ← rewriteBody, hbody,
        ← hrest]
      rfl

/-- Two texts with the same last bracket are cut there into the same parts. -/
theorem eq_of_append_bracket {before before' after after' : List Char} (h : '[' ∉ after)
    (h' : '[' ∉ after') (heq : before ++ '[' :: after = before' ++ '[' :: after') :
    before = before' ∧ after = after' := by
  have hcut := splitLast?_append h before
  rw [heq, splitLast?_append h' before'] at hcut
  obtain ⟨rfl, rfl⟩ := Prod.mk.inj (Option.some.inj hcut)
  exact ⟨rfl, rfl⟩

/-- Indentation ends where something stands that is no margin. -/
theorem length_le_of_append_eq {units tabs : List Char} {c : Char} {rest after : List Char}
    (hunits : ∀ d ∈ units, isMargin d = true) (hc : isMargin c = false)
    (heq : units ++ rest = tabs ++ c :: after) : units.length ≤ tabs.length := by
  by_contra hlt
  have hget : (units ++ rest)[tabs.length]? = some c := by
    rw [heq]
    simp
  rw [List.getElem?_append_left (by omega)] at hget
  rw [hunits c (List.mem_of_getElem? hget)] at hc
  cases hc

theorem count_units (hunit : IsUnit unit) (n : Nat) :
    (List.replicate n unit).flatten.count '[' = 0 :=
  List.count_eq_zero.2 fun hmem => absurd (isMargin_of_mem_units hunit hmem) (by decide)

/-- Tabs and one blank are the units of one step, or no units at all. -/
theorem eq_tab_blank (h : List.replicate (min n 255) '\t' ++ [' '] =
    (List.replicate n unit).flatten) : n = 1 ∧ unit = ['\t', ' '] := by
  have hblank : (List.replicate n unit).flatten.count ' ' = n * unit.count ' ' := by
    rw [List.count_flatten]
    simp
  rw [← h, List.count_append, List.count_replicate, if_neg (by decide)] at hblank
  have hone : n = 1 := Nat.eq_one_of_mul_eq_one_right hblank.symm
  subst hone
  exact ⟨rfl, by simpa using h.symm⟩

/-- Where the line stays, its body keeps its block: units hold no brackets. -/
theorem keeps_of_units_eq (hunit : IsUnit unit)
    (h : List.replicate (min n 255) '\t' ++ rewriteBody s (projectTokens s.layout) body =
      (List.replicate n unit).flatten ++ body) : Keeps s (projectTokens s.layout) body := by
  refine keeps_of_count_eq (isWriter_projectTokens s) ?_
  have htotal := congrArg (List.count '[') h
  rw [List.count_append, List.count_append, count_units hunit, List.count_replicate] at htotal
  simpa using htotal

/-- Units no longer than their tabs are tabs, and the body stays. -/
theorem isProjectForm_of_length_le (hunit : IsUnit unit) (hpos : 0 < n) (hnot : ¬ unit <+: body)
    (h : List.replicate (min n 255) '\t' ++ rewriteBody s (projectTokens s.layout) body =
      (List.replicate n unit).flatten ++ body) (hlen : n * unit.length ≤ min n 255) :
    IsProjectForm s unit ((List.replicate n unit).flatten ++ body) := by
  obtain ⟨rfl, hn, hbody⟩ := eq_tab_of_length_le hpos hunit.ne_nil hlen h.symm
  refine ⟨n, body, by rw [flatten_replicate_tab], Or.inl ⟨rfl, hn, ?_⟩,
    (rewriteBody_eq_self_iff (isWriter_projectTokens s)).1 hbody.symm⟩
  intro hhead
  obtain ⟨rest, rfl⟩ := List.head?_eq_some_iff.1 hhead
  exact hnot ⟨rest, rfl⟩

/-- The block of an untitled project behind a unit of a tab and a blank. -/
theorem isProjectForm_of_untitled {tokens : List (List Char)} (hne : tokens ≠ [])
    (hfree : ∀ token ∈ tokens, '[' ∉ token)
    (hrewrite : rewriteBody s (projectTokens s.layout) ('[' :: (commaJoin tokens ++ [']'])) =
      withExtra [] tokens) :
    IsProjectForm s ['\t', ' '] ('\t' :: ' ' :: '[' :: (commaJoin tokens ++ [']'])) := by
  have hbracket : '[' ∉ commaJoin tokens := not_mem_commaJoin (by decide) (by decide) hfree
  have hstable : rewriteBody s (projectTokens s.layout) (withExtra [] tokens) =
      withExtra [] tokens := by
    rw [rewriteBody, ← splitExtra_bracket hne hfree, ← rewriteBody, hrewrite]
  refine ⟨1, withExtra [] tokens, ?_, Or.inr (Or.inr ⟨rfl, rfl, ?_, ?_⟩),
    (rewriteBody_eq_self_iff (isWriter_projectTokens s)).1 hstable⟩
  · rw [withExtra_of_ne_nil hne]
    rfl
  · rw [withExtra_of_ne_nil hne]
    rfl
  · rw [withExtra_of_ne_nil hne]
    exact fun hno => hno [' '] _ rfl (by simpa using hbracket) (by simp)

theorem isProjectForm_of_rewriteProject (hunit : IsUnit unit)
    (hline : isMilestoneLine line = false) (h : rewriteProject s unit line = line) :
    IsProjectForm s unit line := by
  have hwrite := isWriter_projectTokens s
  obtain ⟨n, body, rfl, hnot⟩ := exists_units hunit line
  rw [rewriteProject_append hunit hnot hline] at h
  rcases Nat.eq_zero_or_pos n with rfl | hpos
  · -- without units the body is the line
    exact ⟨0, body, rfl, Or.inr (Or.inl ⟨rfl, hnot⟩), (rewriteBody_eq_self_iff hwrite).1 h⟩
  rcases (keeps_of_units_eq hunit h).cases hwrite with ⟨-, hrewrite⟩ |
    ⟨title, block, rest, tokens, hbody, hblock, hrest, htokens, hne, hfree, hrewrite⟩
  · -- a body without a block stays, and so does the length of the indentation
    refine isProjectForm_of_length_le hunit hpos hnot h ?_
    have hlen := congrArg List.length h
    rw [hrewrite, List.length_append, List.length_append, List.length_replicate,
      length_units] at hlen
    omega
  have hbracket : '[' ∉ commaJoin tokens := not_mem_commaJoin (by decide) (by decide) hfree
  have hcut : List.replicate (min n 255) '\t' ++ (trim isMargin title ++ [' ']) ++
      '[' :: (commaJoin tokens ++ [']']) =
      (List.replicate n unit).flatten ++ title ++ '[' :: (block ++ ']' :: rest) := by
    have := h
    rw [hrewrite, withExtra_of_ne_nil hne, hbody] at this
    simpa using this
  obtain ⟨htitle, htail⟩ := eq_of_append_bracket (by simpa using hbracket)
    (by simp [hblock, hrest]) hcut
  rcases htrim : trim isMargin title with - | ⟨c, after⟩
  · -- an empty title: at most the blank in front of the block is counted besides the tabs
    rw [htrim] at htitle hrewrite
    rcases Nat.lt_or_ge (min n 255) (n * unit.length) with hlong | hlen
    · have hlen := congrArg List.length htitle
      simp only [List.length_append, List.length_replicate, length_units, List.length_cons,
        List.length_nil] at hlen
      obtain rfl : title = [] := List.eq_nil_of_length_eq_zero (by omega)
      rw [List.append_nil, List.nil_append] at htitle
      obtain ⟨rfl, rfl⟩ := eq_tab_blank htitle
      rw [List.nil_append, ← htail] at hbody
      subst hbody
      exact isProjectForm_of_untitled hne hfree hrewrite
    · exact isProjectForm_of_length_le hunit hpos hnot h hlen
  · -- the title ends the indentation
    rw [htrim] at htitle
    refine isProjectForm_of_length_le hunit hpos hnot h ?_
    have hc : isMargin c = false := (trimmed_trim isMargin title).head c (by rw [htrim]; rfl)
    have := length_le_of_append_eq (fun d => isMargin_of_mem_units hunit) hc
      (htitle.symm.trans (by simp) : _ = List.replicate (min n 255) '\t' ++
        c :: (after ++ [' ']))
    rwa [length_units, List.length_replicate] at this

theorem rewriteProject_eq_self_iff (hunit : IsUnit unit) (hline : isMilestoneLine line = false) :
    rewriteProject s unit line = line ↔ IsProjectForm s unit line :=
  ⟨isProjectForm_of_rewriteProject hunit hline, rewriteProject_of_isProjectForm hunit hline⟩

/-! ### The line of a milestone -/

/-- The form of the line of a milestone in a canonical outline. -/
def IsMilestoneForm (s : Setting) (line : List Char) : Prop :=
  ∃ body, line = '|' :: body ∧ (Extra.read s (splitExtra body).2).endAt = none ∧
    IsStable s (milestoneTokens s.layout) body

/-- Nothing stands in front of a mark that comes first. -/
theorem eq_nil_of_append_mark {margin body after : List Char}
    (hmargin : ∀ c ∈ margin, isMargin c = true) (h : margin ++ '|' :: body = '|' :: after) :
    margin = [] := by
  rcases margin with - | ⟨c, margin⟩
  · rfl
  · obtain rfl := (List.cons.inj h).1
    exact absurd (hmargin '|' (List.mem_cons_self ..)) (by decide)

theorem rewriteMilestone?_eq_self_iff (hline : isMilestoneLine line = true) :
    rewriteMilestone? s line = some line ↔ IsMilestoneForm s line := by
  have hwrite := isWriter_milestoneTokens s
  obtain ⟨margin, body, rfl, hmargin, hrewrite⟩ := rewriteMilestone?_cases hline (s := s)
  rw [hrewrite]
  constructor
  · intro h
    obtain ⟨hend, h⟩ := Option.ite_none_left_eq_some.1 h
    have h := Option.some.inj h
    obtain rfl := eq_nil_of_append_mark hmargin h.symm
    exact ⟨body, rfl, by simpa using hend,
      (rewriteBody_eq_self_iff hwrite).1 (List.cons.inj h).2⟩
  · rintro ⟨body', heq, hend, hstable⟩
    obtain rfl := eq_nil_of_append_mark hmargin heq
    obtain rfl := (List.cons.inj heq).2
    rw [hend, if_neg (by simp), (rewriteBody_eq_self_iff hwrite).2 hstable]
    rfl

theorem isMilestoneLine_of_isMilestoneForm (h : IsMilestoneForm s line) :
    isMilestoneLine line = true := by
  obtain ⟨body, rfl, -⟩ := h
  exact isMilestoneLine_cons body

end TextRoadmap.Outline
