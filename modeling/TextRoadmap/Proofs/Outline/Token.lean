/-
TextRoadmap/Proofs/Outline/Token.lean

The tokens of a block, one by one and in a row.

A token can stand in a block as it is (`IsPlain`) if nothing in it is taken
for a part of the outline.  Plain tokens are found again in the block that
they make up (`tokensOf_plain`), and read one by one (`tokensOf_commaJoin`) as
long as no date extends over several of them.

Under the layout that is used where none is given, every written token is
read as what it was written for: dates, percentages, milestone numbers and
colors each have a character that the kinds tried before them do without.
-/
import TextRoadmap.Outline.Extra
import TextRoadmap.Outline.Write
import TextRoadmap.Proofs.Color.Basic
import TextRoadmap.Proofs.Layout.RoundTrip
import TextRoadmap.Proofs.Outline.Line

namespace TextRoadmap.Outline

open TextRoadmap.Text TextRoadmap.Calendar

variable {s : Setting} {c : Char} {token title : List Char} {tokens : List (List Char)}

/-! ### One token -/

/-- What a token says is what one of the ways to read it finds. -/
theorem classify?_cases {t : Token} (h : classify? s token = some t) :
    readDate? s token = some t ∨ readPercentage? token = some t ∨
      readMilestone? token = some t ∨ readColor? token = some t ∨ readUrl? s token = some t := by
  simp only [classify?, Option.orElse_eq_orElse, Option.orElse_eq_or, Option.or_eq_some_iff] at h
  rcases h with h | ⟨-, h | ⟨-, h | ⟨-, h | ⟨-, h⟩⟩⟩⟩
  exacts [Or.inl h, Or.inr (Or.inl h), Or.inr (Or.inr (Or.inl h)),
    Or.inr (Or.inr (Or.inr (Or.inl h))), Or.inr (Or.inr (Or.inr (Or.inr h)))]

/-- Each kind of token is read in one way. -/
theorem classify?_inv {t : Token} (h : classify? s token = some t) :
    match t with
    | .date i => readDate? s token = some (.date i)
    | .percentage value => readPercentage? token = some (.percentage value)
    | .milestone number => readMilestone? token = some (.milestone number)
    | .color color => readColor? token = some (.color color)
    | .url url => readUrl? s token = some (.url url) := by
  rcases classify?_cases h with hdate | hpercentage | hmilestone | hcolor | hurl
  · obtain ⟨i, -, rfl⟩ := Option.map_eq_some_iff.1 hdate
    exact hdate
  · obtain ⟨value, -, rfl⟩ := Option.map_eq_some_iff.1 hpercentage
    exact hpercentage
  · obtain ⟨number, -, rfl⟩ := Option.map_eq_some_iff.1 hmilestone
    exact hmilestone
  · obtain ⟨color, -, rfl⟩ := Option.map_eq_some_iff.1 hcolor
    exact hcolor
  · obtain ⟨-, hlink⟩ := Option.ite_none_right_eq_some.1 hurl
    obtain rfl := Option.some.inj hlink
    exact hurl

/-! ### Tokens in a row -/

/-- What a row of tokens says is what one of them says, or a date that as many
neighbours as the layout writes make together. -/
theorem mem_readTokens {t : Token} (skip : Nat) (h : t ∈ readTokens s skip tokens) :
    (∃ token ∈ tokens, classify? s token = some t) ∨
      ∃ group, group <:+: tokens ∧ group.length = s.layout.pieceCount ∧
        readDate? s (commaJoin group) = some t := by
  induction tokens generalizing skip with
  | nil =>
    rw [readTokens] at h
    cases h
  | cons token tokens ih =>
    -- whatever the rest of the row says, the row says
    have hrest : ∀ {skip}, t ∈ readTokens s skip tokens →
        (∃ u ∈ token :: tokens, classify? s u = some t) ∨
          ∃ group, group <:+: token :: tokens ∧ group.length = s.layout.pieceCount ∧
            readDate? s (commaJoin group) = some t := by
      intro skip h
      rcases ih skip h with ⟨u, hu, hread⟩ | ⟨group, hgroup, hlength, hread⟩
      · exact Or.inl ⟨u, List.mem_cons_of_mem _ hu, hread⟩
      · exact Or.inr ⟨group, hgroup.trans (List.suffix_cons ..).isInfix, hlength, hread⟩
    cases skip with
    | succ skip => exact hrest h
    | zero =>
      rw [readTokens] at h
      split at h
      · rename_i date hdate
        rcases List.mem_cons.1 h with rfl | h
        · obtain ⟨hcount, hread⟩ := Option.ite_none_right_eq_some.1 hdate
          exact Or.inr ⟨_, (List.take_prefix ..).isInfix, List.length_take_of_le hcount.2, hread⟩
        · exact hrest h
      · rcases List.mem_append.1 h with h | h
        · exact Or.inl ⟨token, List.mem_cons_self .., Option.mem_toList.1 h⟩
        · exact hrest h

/-- What can stand in a block as a token of its own. -/
structure IsPlain (token : List Char) : Prop where
  ne_nil : token ≠ []
  bracket : '[' ∉ token
  feed : '\n' ∉ token
  comma : ¬ [',', ' '] <:+: token
  trimmed : Trimmed isMargin token

/-- Tokens that neither begin nor end with a margin make up such a block. -/
theorem trimmed_commaJoin (hne : ∀ token ∈ tokens, token ≠ [])
    (h : ∀ token ∈ tokens, Trimmed isMargin token) : Trimmed isMargin (commaJoin tokens) := by
  induction tokens with
  | nil => exact trimmed_nil
  | cons token tokens ih =>
    have htoken := h token (List.mem_cons_self ..)
    by_cases hnil : tokens = []
    · rw [hnil, commaJoin_singleton]
      exact htoken
    · have ih := ih (fun t ht => hne t (List.mem_cons_of_mem _ ht))
        (fun t ht => h t (List.mem_cons_of_mem _ ht))
      obtain ⟨d, rest, rfl⟩ := List.exists_cons_of_ne_nil (hne token (List.mem_cons_self ..))
      rw [commaJoin_cons hnil]
      refine ⟨by simpa using htoken.head, fun c hc => ih.last c ?_⟩
      -- the end of the block is the end of the tokens after the first
      have hjoin : commaJoin tokens ≠ [] :=
        commaJoin_ne_nil hnil fun t ht => hne t (List.mem_cons_of_mem _ ht)
      obtain ⟨e, es, hjoin⟩ := List.exists_cons_of_ne_nil hjoin
      rw [hjoin, List.getLast?_append, List.getLast?_cons_cons, List.getLast?_cons_cons,
        List.getLast?_cons, Option.some_or] at hc
      rw [hjoin, List.getLast?_cons]
      exact hc

theorem trimmed_commaJoin_of_isPlain (h : ∀ token ∈ tokens, IsPlain token) :
    Trimmed isMargin (commaJoin tokens) :=
  trimmed_commaJoin (fun t ht => (h t ht).ne_nil) fun t ht => (h t ht).trimmed

/-- Where a date is never written over several tokens, tokens are read one by one. -/
theorem readTokens_of_pieceCount (h : s.layout.pieceCount = 1) (tokens : List (List Char)) :
    readTokens s 0 tokens = tokens.flatMap fun token => (classify? s token).toList := by
  induction tokens with
  | nil => rfl
  | cons token tokens ih =>
    have hgroup : groupDate? s (token :: tokens) = none := by
      rw [groupDate?, h]
      rfl
    rw [readTokens, hgroup, ih, List.flatMap_cons]

/-- Plain tokens are found again in the block that they make up. -/
theorem tokensOf_plain (h : ∀ token ∈ tokens, IsPlain token) :
    tokensOf s (commaJoin tokens) = readTokens s 0 tokens := by
  rw [tokensOf]
  by_cases hne : tokens = []
  · subst hne
    rfl
  · rw [commaSplit_commaJoin hne fun t ht => (h t ht).comma, List.takeWhile_eq_self_iff.2]
    intro token ht
    simpa using (h token ht).ne_nil

theorem Extra.read_tokens (h : ∀ token ∈ tokens, IsPlain token) :
    read s (trim isMargin (commaJoin tokens)) = ofTokens (readTokens s 0 tokens) := by
  rw [trim_eq_self (trimmed_commaJoin_of_isPlain h), read, tokensOf_plain h]

/-- Plain tokens are read one by one from the block that they make up. -/
theorem tokensOf_commaJoin (hcount : s.layout.pieceCount = 1)
    (h : ∀ token ∈ tokens, IsPlain token) :
    tokensOf s (commaJoin tokens) = tokens.flatMap fun token => (classify? s token).toList := by
  rw [tokensOf_plain h, readTokens_of_pieceCount hcount]

/-- Blocks are cut off at an empty token. -/
theorem tokensOf_empty_token (h : ∀ token ∈ tokens, IsPlain token) (rest : List Char) :
    tokensOf s (commaJoin (tokens ++ [[], rest])) = tokensOf s (commaJoin tokens) := by
  have hsplit : commaSplit (commaJoin [[], rest]) = [] :: commaSplit rest := by
    rw [commaJoin_pair]
    rfl
  rw [tokensOf_plain h, tokensOf]
  by_cases hne : tokens = []
  · rw [hne, List.nil_append, hsplit]
    rfl
  · -- the plain tokens in front are kept, and the empty one is where it ends
    rw [commaJoin_append hne (by simp), commaSplit_append_separator, hsplit,
      commaSplit_commaJoin hne fun t ht => (h t ht).comma,
      List.takeWhile_append_of_pos fun t ht => by simpa using (h t ht).ne_nil]
    simp

/-! ### Lines with a block -/

theorem withExtra_append (head title : List Char) (tokens : List (List Char)) :
    withExtra (head ++ title) tokens = head ++ withExtra title tokens := by
  unfold withExtra
  split <;> simp

/-- A line with a block ends with it. -/
theorem withExtra_of_ne_nil (h : tokens ≠ []) (title : List Char) :
    withExtra title tokens = title ++ ' ' :: '[' :: (commaJoin tokens ++ [']']) := by
  rw [withExtra, if_neg (by simpa using h)]
  simp

/-- The block comes off the title that it was put behind, and both are trimmed. -/
theorem splitExtra_withExtra (hne : tokens ≠ []) (hfree : ∀ token ∈ tokens, '[' ∉ token)
    (title : List Char) : splitExtra (withExtra title tokens) =
      (trim isMargin title, trim isMargin (commaJoin tokens)) := by
  have hbracket : '[' ∉ commaJoin tokens := not_mem_commaJoin (by decide) (by decide) hfree
  have hsplit := splitExtra_block hbracket (title ++ [' '])
  rw [trim_append_right (by simp [isMargin])] at hsplit
  rw [withExtra_of_ne_nil hne, ← hsplit]
  simp

/-- A block of plain tokens comes off a trimmed title as it is. -/
theorem splitExtra_withExtra_of_isPlain (htitle : Trimmed isMargin title)
    (hplain : ∀ token ∈ tokens, IsPlain token) (hno : tokens = [] → NoBlock title) :
    splitExtra (withExtra title tokens) = (title, commaJoin tokens) := by
  by_cases htokens : tokens = []
  · subst htokens
    exact splitExtra_of_noBlock (hno rfl)
  · rw [splitExtra_withExtra htokens fun t ht => (hplain t ht).bracket, trim_eq_self htitle,
      trim_eq_self (trimmed_commaJoin_of_isPlain hplain)]

theorem feed_not_mem_withExtra (htitle : '\n' ∉ title) (h : ∀ token ∈ tokens, '\n' ∉ token) :
    '\n' ∉ withExtra title tokens := by
  by_cases htokens : tokens = []
  · subst htokens
    exact htitle
  · have hjoin : '\n' ∉ commaJoin tokens := not_mem_commaJoin (by decide) (by decide) h
    rw [withExtra_of_ne_nil htokens]
    simp [htitle, hjoin]

/-- A carriage return could only end the title. -/
theorem getLast?_withExtra (h : title.getLast? ≠ some '\r') :
    (withExtra title tokens).getLast? ≠ some '\r' := by
  by_cases htokens : tokens = []
  · subst htokens
    exact h
  · have hend : title ++ ' ' :: '[' :: (commaJoin tokens ++ [']']) =
        title ++ ' ' :: '[' :: commaJoin tokens ++ [']'] := by simp
    rw [withExtra_of_ne_nil htokens, hend, List.getLast?_concat]
    decide

/-- The indentation that a title shows is its own. -/
theorem head?_withExtra (h : title ≠ []) : (withExtra title tokens).head? = title.head? := by
  obtain ⟨c, title, rfl⟩ := List.exists_cons_of_ne_nil h
  unfold withExtra
  split <;> rfl

theorem withExtra_ne_nil (h : title ≠ []) : withExtra title tokens ≠ [] := by
  obtain ⟨c, title, rfl⟩ := List.exists_cons_of_ne_nil h
  unfold withExtra
  split <;> simp

/-! ### Written tokens are plain -/

/-- The characters of written tokens other than links. -/
def isTokenChar (c : Char) : Bool := c.isAlphanum || "+-%|#".toList.contains c

theorem isTokenChar_of_isDigit (h : c.isDigit = true) : isTokenChar c = true := by
  simp [isTokenChar, Char.isAlphanum, h]

/-- The characters that mean something in a block. -/
def blockChars : List Char := "[\n,\t\r ".toList

theorem isPlain_of_forall (hne : token ≠ []) (h : ∀ c ∈ token, c ∉ blockChars) :
    IsPlain token where
  ne_nil := hne
  bracket hmem := absurd (h _ hmem) (by decide)
  feed hmem := absurd (h _ hmem) (by decide)
  comma hin := absurd (h _ (hin.subset (List.mem_cons_self ..))) (by decide)
  trimmed := by
    have hmargin : ∀ c ∈ token, isMargin c = false := by
      intro c hc
      by_contra hm
      simp only [isMargin, Bool.not_eq_false, Bool.or_eq_true, decide_eq_true_eq] at hm
      rcases hm with (rfl | rfl) | rfl <;> exact absurd (h _ hc) (by decide)
    exact ⟨fun c hc => hmargin c (List.mem_of_mem_head? hc),
      fun c hc => hmargin c (List.mem_of_mem_getLast? hc)⟩

theorem isPlain_of_all (h : (tokens.all fun token =>
    !token.isEmpty && token.all fun c => !blockChars.contains c) = true) :
    ∀ token ∈ tokens, IsPlain token := by
  intro token htoken
  obtain ⟨hne, hchars⟩ := Bool.and_eq_true_iff.1 (List.all_eq_true.1 h token htoken)
  refine isPlain_of_forall (by simpa using hne) fun c hc => ?_
  simpa using List.all_eq_true.1 hchars c hc

theorem isPlain_of_isTokenChar (hne : token ≠ []) (h : ∀ c ∈ token, isTokenChar c = true) :
    IsPlain token := by
  have hblock : blockChars.all (fun c => !isTokenChar c) = true := by decide
  refine isPlain_of_forall hne fun c hc hmem => ?_
  simpa [h c hc] using List.all_eq_true.1 hblock c hmem

theorem isPlain_decimal_percent (n : Nat) : IsPlain (decimal n ++ ['%']) := by
  refine isPlain_of_isTokenChar (by simp) fun c hc => ?_
  rcases List.mem_append.1 hc with hc | hc
  · exact isTokenChar_of_isDigit (isDigit_of_mem_decimal hc)
  · rw [List.mem_singleton.1 hc]
    decide

theorem isPlain_bar_decimal (n : Nat) : IsPlain ('|' :: decimal n) := by
  refine isPlain_of_isTokenChar (by simp) fun c hc => ?_
  rcases List.mem_cons.1 hc with rfl | hc
  · decide
  · exact isTokenChar_of_isDigit (isDigit_of_mem_decimal hc)

theorem isPlain_color (c : Color) : IsPlain c.text.toList := by
  have hdigits : hexDigits.all isTokenChar = true := by decide
  refine isPlain_of_isTokenChar (by simp [Color.text]) fun x hx => ?_
  rcases Color.mem_text hx with rfl | hx
  · decide
  · exact List.all_eq_true.1 hdigits x hx

theorem isPlain_dateToken (i : Instant) : IsPlain (dateToken .standard i) := by
  have hyear : ∀ c ∈ Layout.writeYear i.date.year, isTokenChar c = true := by
    intro c hc
    unfold Layout.writeYear at hc
    split at hc
    · exact isTokenChar_of_isDigit (isDigit_of_mem_zeroPadded hc)
    · rcases List.mem_cons.1 hc with rfl | hc
      · split <;> decide
      · exact isTokenChar_of_isDigit (isDigit_of_mem_zeroPadded hc)
  rw [dateToken, Layout.toList_standard_format]
  refine isPlain_of_isTokenChar (by simp) fun c hc => ?_
  simp only [List.mem_append, List.mem_cons] at hc
  rcases hc with hc | rfl | hc | rfl | hc
  · exact hyear c hc
  · decide
  · exact isTokenChar_of_isDigit (isDigit_of_mem_zeroPadded hc)
  · decide
  · exact isTokenChar_of_isDigit (isDigit_of_mem_zeroPadded hc)

/-! ### Written tokens are read -/

theorem smallNumber?_decimal (n : UInt8) : smallNumber? (decimal n.toNat) = some n := by
  have hnumber : isNumber (decimal n.toNat) = true :=
    isNumber_of_forall (decimal_ne_nil _) fun c hc => isDigit_of_mem_decimal hc
  rw [smallNumber?, hnumber, digitsValue_decimal, Bool.true_and,
    if_pos (decide_eq_true n.toNat_lt), UInt8.ofNat_toNat]

theorem classify?_dateToken {i : Instant} (hs : s.layout = .standard)
    (hi : i.time = Time.midnight) : classify? s (dateToken .standard i) = some (.date i) := by
  rw [classify?, readDate?, hs, dateToken, String.ofList_toList, Layout.standard_parse?_format hi]
  rfl

/-- A token without a hyphen is no date. -/
theorem readDate?_eq_none (hs : s.layout = .standard) (h : '-' ∉ token) :
    readDate? s token = none := by
  rw [readDate?, hs, Layout.standard_parse?_eq_none h]
  rfl

theorem readPercentage?_eq_none (h : token.getLast? ≠ some '%') : readPercentage? token = none := by
  rw [readPercentage?]
  rcases hstrip : stripSuffix? ['%'] token with - | rest
  · rfl
  · rw [stripSuffix?_eq_some_iff.1 hstrip] at h
    simp at h

theorem readMilestone?_eq_none (h : token.head? ≠ some '|') : readMilestone? token = none := by
  rw [readMilestone?]
  rcases hstrip : stripPrefix? ['|'] token with - | rest
  · rfl
  · rw [stripPrefix?_eq_some_iff.1 hstrip] at h
    simp at h

theorem readColor?_eq_none (h : token.head? ≠ some '#') : readColor? token = none := by
  rw [readColor?, Color.read, String.toList_ofList]
  split
  · rfl
  · rcases token with - | ⟨c, digits⟩
    · rfl
    · have hc : c ≠ '#' := by simpa using h
      simp only [if_pos hc]
      rfl

theorem classify?_percentage {value : UInt8} (hs : s.layout = .standard) (h : value ≤ 100) :
    classify? s (decimal value.toNat ++ ['%']) = some (.percentage value) := by
  have hdate : readDate? s (decimal value.toNat ++ ['%']) = none := by
    refine readDate?_eq_none hs fun hmem => ?_
    rcases List.mem_append.1 hmem with hmem | hmem
    · exact absurd (isDigit_of_mem_decimal hmem) (by decide)
    · exact absurd hmem (by decide)
  have hread : readPercentage? (decimal value.toNat ++ ['%']) = some (.percentage value) := by
    rw [readPercentage?, stripSuffix?_append, Option.bind_some, smallNumber?_decimal]
    simp [Option.filter, h]
  rw [classify?, hdate, hread]
  rfl

theorem classify?_milestone {number : UInt8} (hs : s.layout = .standard) :
    classify? s ('|' :: decimal number.toNat) = some (.milestone number) := by
  have hdigits : ∀ c ∈ decimal number.toNat, c.isDigit = true := fun c => isDigit_of_mem_decimal
  have hdate : readDate? s ('|' :: decimal number.toNat) = none := by
    refine readDate?_eq_none hs fun hmem => ?_
    rcases List.mem_cons.1 hmem with h | hmem
    · exact absurd h (by decide)
    · exact absurd (hdigits _ hmem) (by decide)
  have hpercentage : readPercentage? ('|' :: decimal number.toNat) = none := by
    refine readPercentage?_eq_none fun hlast => ?_
    rcases List.mem_cons.1 (List.mem_of_getLast? hlast) with h | hmem
    · exact absurd h (by decide)
    · exact absurd (hdigits _ hmem) (by decide)
  have hread : readMilestone? ('|' :: decimal number.toNat) = some (.milestone number) := by
    have hstrip : stripPrefix? ['|'] ('|' :: decimal number.toNat) = some (decimal number.toNat) :=
      stripPrefix?_append ['|'] _
    rw [readMilestone?, hstrip, Option.bind_some, smallNumber?_decimal]
    rfl
  rw [classify?, hdate, hpercentage, hread]
  rfl

theorem classify?_color {color : Color} (hs : s.layout = .standard) :
    classify? s color.text.toList = some (.color color) := by
  have hdate : readDate? s color.text.toList = none := by
    refine readDate?_eq_none hs fun hmem => ?_
    rcases Color.mem_text hmem with h | hmem
    · exact absurd h (by decide)
    · exact absurd hmem (by decide)
  have hpercentage : readPercentage? color.text.toList = none := by
    refine readPercentage?_eq_none fun hlast => ?_
    rcases Color.mem_text (List.mem_of_getLast? hlast) with h | hmem
    · exact absurd h (by decide)
    · exact absurd hmem (by decide)
  have hmilestone : readMilestone? color.text.toList = none := by
    refine readMilestone?_eq_none ?_
    rw [Color.text, String.toList_ofList]
    simp
  have hread : readColor? color.text.toList = some (.color color) := by
    rw [readColor?, String.ofList_toList, Color.read_text]
    rfl
  rw [classify?, hdate, hpercentage, hmilestone, hread]
  rfl

end TextRoadmap.Outline

namespace TextRoadmap

open TextRoadmap.Outline

/-! ### Lines by their parts -/

theorem Project.line_eq (layout : Layout) (p : Project) :
    p.line layout = List.replicate p.indentation.toNat '\t' ++
      withExtra p.title.toList (p.tokens layout) :=
  withExtra_append ..

theorem Milestone.line_eq (layout : Layout) (m : Milestone) :
    m.line layout = '|' :: withExtra m.title.toList (m.tokens layout) :=
  withExtra_append ['|'] ..

theorem Roadmap.lines_eq (r : Roadmap) : r.lines =
    paragraphs (r.projects.map (Project.line r.layout))
      (r.milestones.map (Milestone.line r.layout)) := by
  rw [Roadmap.lines, paragraphs, List.isEmpty_map, List.isEmpty_map]

end TextRoadmap
