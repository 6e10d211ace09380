/-
TextRoadmap/Proofs/Settings/LinkBase.lean

What the base of links that settings accept is good for.

A base is accepted if it is absolute itself.  It should then serve all links
(`ServesLinks`): each resolves to an absolute address, and reading an outline
keeps every token.  But a link is joined to the text of the base, and the
text is not all that reading looks at: a blank at the end of a base is passed
over when the base is checked, and belongs to the name of the host once a
path follows it.  And under a `file` base a path can lead to a drive letter,
which takes the host away.

Two links joined to the base show whether it serves all
(`ProjectSettings.servesLinks_iff`), and an accepted base does if it is no
file and does not end in a blank.
-/
import TextRoadmap.Outline.Token
import TextRoadmap.Proofs.Link.Bases
import TextRoadmap.Settings.Basic

namespace TextRoadmap

open TextRoadmap.Outline

variable {s p : ProjectSettings} {base : String}

/-- Every link resolves to an absolute address, which resolves to itself, and
every token means something. -/
structure ServesLinks (base : String) : Prop where
  absolute : ∀ link, Link.isAbsolute (Link.resolve base link) = true
  stable : ∀ link, Link.resolve base (Link.resolve base link) = Link.resolve base link
  kept : ∀ layout token, (classify? ⟨layout, base⟩ token).isSome = true

/-- A token means something if the link that it writes makes an address. -/
theorem isSome_classify? {setting : Setting} {token : List Char}
    (h : (readUrl? setting token).isSome = true) : (classify? setting token).isSome = true := by
  simp only [classify?, Option.orElse_eq_orElse, Option.orElse_eq_or, Option.isSome_or, h,
    Bool.or_true]

/-- A base under which every joined link is absolute serves all links. -/
theorem servesLinks_of_join (hne : base ≠ "")
    (h : ∀ link, Link.isAbsolute (Link.join base link) = true) : ServesLinks base := by
  have habsolute := fun link => Link.isAbsolute_resolve_of_join hne (h link)
  refine ⟨habsolute, fun link => Link.resolve_of_isAbsolute (habsolute link), ?_⟩
  -- whatever else a token is not, it is a link
  intro layout token
  have hvalid := Link.isValid_of_isAbsolute (h (String.ofList token))
  exact isSome_classify? (by simp [readUrl?, hne, hvalid])

/-- A probe is no address by itself, so it is joined to the base. -/
theorem ServesLinks.isAbsolute_join (h : ServesLinks base) (hne : base ≠ "") {probe : String}
    (hprobe : probe ∈ Link.probes base) : Link.isAbsolute (Link.join base probe) = true := by
  have hresolve : Link.resolve base probe = Link.join base probe := by
    rw [Link.resolve, if_neg]
    simp [Link.not_isAbsolute_of_mem_probes hprobe, hne]
  rw [← hresolve]
  exact h.absolute probe

/-- A base of links that is accepted is absolute. -/
theorem ProjectSettings.isAbsolute_of_set (h : s.set "base_url" base = .ok p) (hne : base ≠ "") :
    Link.isAbsolute base = true := by
  by_contra hnot
  have hrefused : s.set "base_url" base = .error (.relativeBase base) := by
    simp [ProjectSettings.set, hne, hnot]
  rw [hrefused] at h
  cases h

/-- **What an accepted base is good for**: it serves all links if and only if
a single slash and a climb become absolute under it, and it always does if
it is no file and does not end in a blank. -/
theorem ProjectSettings.servesLinks_iff (h : s.set "base_url" base = .ok p) (hne : base ≠ "") :
    (ServesLinks base ↔
      ∀ probe ∈ Link.probes base, Link.isAbsolute (Link.join base probe) = true) ∧
    ((∀ a ∈ Link.Address.read? base, a.scheme ≠ "file".toList) →
      (∀ c ∈ base.toList.getLast?, ¬ c.toNat ≤ 0x20) → ServesLinks base) := by
  refine ⟨⟨fun hserves probe hprobe => hserves.isAbsolute_join hne hprobe, fun hprobes => ?_⟩,
    fun hscheme hlast => ?_⟩
  · exact servesLinks_of_join hne (Link.isAbsolute_join_of_probes hprobes)
  · have habsolute := isAbsolute_of_set h hne
    exact servesLinks_of_join hne (Link.isAbsolute_join_of_last habsolute hscheme hlast)

/-- A base with credentials, a port, a path and a query. -/
theorem ProjectSettings.servesLinks_iff_port :
    (({} : ProjectSettings).set "base_url" "ftp://me@example.com:2121/docs?" =
      .ok { baseUrl := some "ftp://me@example.com:2121/docs?" }) ∧
    ServesLinks "ftp://me@example.com:2121/docs?" := by
  have hset : ({} : ProjectSettings).set "base_url" "ftp://me@example.com:2121/docs?" =
      .ok { baseUrl := some "ftp://me@example.com:2121/docs?" } := by decide +kernel
  exact ⟨hset, (ProjectSettings.servesLinks_iff hset (by simp)).2 (by decide +kernel) (by simp)⟩

/-- A base that ends in a blank is accepted, but no link is kept under it. -/
theorem ProjectSettings.not_servesLinks_blank :
    ({} : ProjectSettings).set "base_url" "https://example.com " =
      .ok { baseUrl := some "https://example.com " } ∧
    Link.resolve "https://example.com " "docs" = "https://example.com /docs" ∧
    Link.isAbsolute "https://example.com /docs" = false ∧
    classify? ⟨.standard, "https://example.com "⟩ "docs".toList = none ∧
    ¬ ServesLinks "https://example.com " := by
  have hresolve : Link.resolve "https://example.com " "docs" = "https://example.com /docs" := by
    decide +kernel
  have hnot : Link.isAbsolute "https://example.com /docs" = false := by decide +kernel
  refine ⟨by decide +kernel, hresolve, hnot, by decide +kernel, fun hserves => ?_⟩
  have habsolute := hserves.absolute "docs"
  rw [hresolve, hnot] at habsolute
  cases habsolute

end TextRoadmap
