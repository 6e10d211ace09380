/-
TextRoadmap/Proofs/Outline/Kinds.lean

The order of unlike tokens.

Where a date is never written over several tokens, what a block says is found
token by token.  Each kind of token goes into fields of its own, so only the
order among tokens of one kind matters (`Extra.ofTokens_congr`): lists that
agree on every kind say the same, and tokens of no kind might as well be
missing.

Nothing counts behind an empty token that something follows
(`Extra.read_empty_token`).  At the end of a block there is no such token: the
blank behind its comma is trimmed off, and the comma is left to the token in
front (`Extra.read_comma`).
-/
import TextRoadmap.Proofs.Outline.Block
import TextRoadmap.Proofs.Outline.Extra

namespace TextRoadmap.Outline

open TextRoadmap.Text TextRoadmap.Calendar

variable {s : Setting} {tokens tokens' : List (List Char)} {ts us : List Token}

/-! ### Tokens of one kind -/

/-- The kind of a token, if it has one. -/
def kindOf? (s : Setting) (token : List Char) : Option Kind := (classify? s token).map Token.kind

/-- What the tokens say to one of the ways to look at them. -/
def said {α : Type} (s : Setting) (get : Token → Option α) (tokens : List (List Char)) : List α :=
  tokens.filterMap fun token => (classify? s token).bind get

/-- What is found in tokens of one kind is found among these. -/
theorem filterMap_filter_kind {α : Type} {kind : Kind} {get : Token → Option α}
    (h : ∀ t, t.kind ≠ kind → get t = none) (ts : List Token) :
    (ts.filter (·.kind = kind)).filterMap get = ts.filterMap get := by
  rw [List.filterMap_filter]
  refine List.filterMap_congr fun t _ => ?_
  by_cases ht : t.kind = kind
  · rw [if_pos (decide_eq_true ht)]
  · rw [if_neg (by rwa [decide_eq_true_iff]), h t ht]

/-- Tokens say the same if those of each kind do. -/
theorem Extra.ofTokens_congr
    (h : ∀ kind, ts.filter (·.kind = kind) = us.filter (·.kind = kind)) :
    ofTokens ts = ofTokens us := by
  have hget {α : Type} (kind : Kind) (get : Token → Option α)
      (hget : ∀ t, t.kind ≠ kind → get t = none) : ts.filterMap get = us.filterMap get := by
    rw [← filterMap_filter_kind hget ts, h kind, filterMap_filter_kind hget us]
  -- each field comes from the tokens of one kind
  rw [ofTokens_eq, ofTokens_eq, hget .date Token.instant? (by rintro (_ | _) <;> simp),
    hget .percentage Token.percentage? (by rintro (_ | _) <;> simp),
    hget .milestone Token.milestone? (by rintro (_ | _) <;> simp),
    hget .color Token.color? (by rintro (_ | _) <;> simp),
    hget .url Token.url? (by rintro (_ | _) <;> simp)]

theorem filter_kind_filterMap (s : Setting) (kind : Kind) (tokens : List (List Char)) :
    (tokens.filterMap (classify? s)).filter (·.kind = kind) =
      (tokens.filter (kindOf? s · = some kind)).filterMap (classify? s) := by
  rw [List.filter_filterMap, List.filterMap_filter]
  refine List.filterMap_congr fun token _ => ?_
  rcases hread : classify? s token with - | t
  · simp [kindOf?, hread]
  · by_cases hkind : t.kind = kind
    · rw [if_pos (decide_eq_true (by rw [kindOf?, hread, Option.map_some, hkind]))]
      exact Option.filter_some_pos (decide_eq_true hkind)
    · rw [if_neg (by simpa only [kindOf?, hread, Option.map_some, decide_eq_true_iff,
        Option.some.injEq] using hkind)]
      exact Option.filter_some_neg (decide_eq_false hkind)

/-! ### Blocks of plain tokens -/

/-- What is read from a block of plain tokens, one by one. -/
theorem Extra.read_plain (hcount : s.layout.pieceCount = 1) (h : ∀ token ∈ tokens, IsPlain token) :
    read s (trim isMargin (commaJoin tokens)) = ofTokens (tokens.filterMap (classify? s)) := by
  rw [read_tokens h, readTokens_of_pieceCount hcount, List.filterMap_eq_flatMap_toList]

/-- Blocks of plain tokens say the same if those of each kind do. -/
theorem Extra.read_congr (hcount : s.layout.pieceCount = 1) (h : ∀ token ∈ tokens, IsPlain token)
    (h' : ∀ token ∈ tokens', IsPlain token)
    (hkinds : ∀ kind, tokens.filter (kindOf? s · = some kind) =
      tokens'.filter (kindOf? s · = some kind)) :
    read s (trim isMargin (commaJoin tokens)) = read s (trim isMargin (commaJoin tokens')) := by
  rw [read_plain hcount h, read_plain hcount h']
  refine ofTokens_congr fun kind => ?_
  rw [filter_kind_filterMap, filter_kind_filterMap, hkinds kind]

/-- Trimming does not reach an empty token that something follows. -/
theorem trim_empty_token {rest : List Char} (h : ∀ token ∈ tokens, IsPlain token)
    (hrest : ∃ c ∈ rest, isMargin c = false) :
    trim isMargin (commaJoin (tokens ++ [[], rest])) =
      commaJoin (tokens ++ [[], trimEnd isMargin rest]) := by
  by_cases hne : tokens = []
  · rw [hne, List.nil_append, List.nil_append, commaJoin_pair, commaJoin_pair]
    exact trimEnd_append hrest [',', ' ']
  · -- the block begins with a plain token, so only its end is trimmed
    obtain ⟨c, block, hblock⟩ := List.exists_cons_of_ne_nil
      (commaJoin_ne_nil hne fun t ht => (h t ht).ne_nil)
    have hc : isMargin c = false :=
      (trimmed_commaJoin_of_isPlain h).head c (by rw [hblock]; rfl)
    have hend := trimEnd_append hrest (c :: block ++ [',', ' ', ',', ' '])
    rw [commaJoin_append hne (by simp), commaJoin_append hne (by simp), commaJoin_pair,
      commaJoin_pair, hblock, trim, dropWhile_eq_self (by simpa using hc)]
    simpa using hend

/-- Nothing counts behind an empty token, if anything follows it at all. -/
theorem Extra.read_empty_token {rest : List Char} (h : ∀ token ∈ tokens, IsPlain token)
    (hrest : ∃ c ∈ rest, isMargin c = false) :
    read s (trim isMargin (commaJoin (tokens ++ [[], rest]))) =
      read s (trim isMargin (commaJoin tokens)) := by
  rw [trim_empty_token h hrest, trim_eq_self (trimmed_commaJoin_of_isPlain h), read, read,
    tokensOf_empty_token h]

/-- A comma at the end of a block belongs to the last token. -/
theorem trim_commaJoin_nil (init : List (List Char)) (last : List Char) :
    trim isMargin (commaJoin (init ++ [last, []])) =
      trim isMargin (commaJoin (init ++ [last ++ [',']])) := by
  have hjoin : commaJoin (init ++ [last, []]) = commaJoin (init ++ [last ++ [',']]) ++ [' '] := by
    by_cases hinit : init = []
    · rw [hinit, List.nil_append, List.nil_append, commaJoin_pair, commaJoin_singleton]
      simp
    · rw [commaJoin_append hinit (by simp), commaJoin_pair, commaJoin_append hinit (by simp),
        commaJoin_singleton]
      simp
  rw [hjoin, trim_append_right (by simp [isMargin])]

theorem said_eq {α : Type} (s : Setting) (get : Token → Option α) (tokens : List (List Char)) :
    said s get tokens = (tokens.filterMap (classify? s)).filterMap get :=
  List.filterMap_filterMap.symm

theorem Extra.read_plain_eq (hcount : s.layout.pieceCount = 1)
    (h : ∀ token ∈ tokens, IsPlain token) : read s (trim isMargin (commaJoin tokens)) =
      { startAt := (said s Token.instant? tokens).head?
        endAt := (said s Token.instant? tokens).tail.getLast?
        percentage := (said s Token.percentage? tokens).getLast?.getD 0
        milestone := (said s Token.milestone? tokens).getLast?.getD 0
        color := (said s Token.color? tokens).getLast?
        urls := said s Token.url? tokens } := by
  rw [read_plain hcount h, ofTokens_eq]
  simp only [said_eq]

theorem filter_kindOf?_insert {before after : List (List Char)} {token : List Char}
    (h : classify? s token = none) (kind : Kind) :
    (before ++ token :: after).filter (kindOf? s · = some kind) =
      (before ++ after).filter (kindOf? s · = some kind) := by
  have hkind : ¬ kindOf? s token = some kind := by
    rw [kindOf?, h]
    simp
  rw [List.filter_append, List.filter_cons_of_neg (by rwa [decide_eq_true_iff]),
    List.filter_append]

/-- **The order of unlike tokens does not matter.**  What is read are the first
and the last date, the last percentage, milestone number and color, and all
links; so lists of tokens that agree on each kind are read alike, and a token
of no kind is as good as missing.  An empty token cuts off what follows it if
that is not blank; at the end of the block its comma goes to the token in
front. -/
theorem readProject_by_kinds (hlayout : ¬ [',', ' '] <:+: s.layout.text.toList)
    (htokens : ∀ token ∈ tokens, IsPlain token) (lines : List (List Char)) (title : List Char) :
    let read tokens := readProject s (unitOf lines) (withBlock title tokens)
    let dates := said s Token.instant? tokens
    (∀ span, (read tokens).dates = some span ↔ dates.head? = some span.startAt ∧
      dates.tail.getLast? = some span.endAt ∧ span.startAt < span.endAt) ∧
    (read tokens).percentage = (said s Token.percentage? tokens).getLast?.getD 0 ∧
    (read tokens).milestone = (said s Token.milestone? tokens).getLast?.getD 0 ∧
    (read tokens).color = (said s Token.color? tokens).getLast? ∧
    (read tokens).urls = said s Token.url? tokens ∧
    (∀ tokens', (∀ token ∈ tokens', IsPlain token) →
      (∀ kind, tokens.filter (kindOf? s · = some kind) = tokens'.filter (kindOf? s · = some kind)) →
      read tokens' = read tokens) ∧
    (∀ before after token, tokens = before ++ after → IsPlain token → classify? s token = none →
      read (before ++ token :: after) = read tokens) ∧
    (∀ rest, '[' ∉ rest → (∃ c ∈ rest, isMargin c = false) →
      read (tokens ++ [[], rest]) = read tokens) ∧
    ∀ init last, tokens = init ++ [last] →
      read (tokens ++ [[]]) = read (init ++ [last ++ [',']]) := by
  intro read dates
  have hunit : IsUnit (unitOf lines) := isUnit_unitOf lines
  have hfree : ∀ token ∈ tokens, '[' ∉ token := fun token ht => (htokens token ht).bracket
  have hcount : s.layout.pieceCount = 1 := by
    rw [Layout.pieceCount, commaSplit_eq_singleton hlayout]
    rfl
  have hread : read tokens = _ :=
    readProject_withBlock hunit (not_mem_commaJoin (by decide) (by decide) hfree) title
  rw [Extra.read_plain_eq hcount htokens] at hread
  have hkinds : ∀ tokens', (∀ token ∈ tokens', IsPlain token) →
      (∀ kind, tokens.filter (kindOf? s · = some kind) = tokens'.filter (kindOf? s · = some kind)) →
      read tokens' = read tokens := by
    intro tokens' htokens' heq
    exact (readProject_withBlock_congr hunit hfree (fun token ht => (htokens' token ht).bracket)
      (Extra.read_congr hcount htokens htokens' heq) title).symm
  refine ⟨fun span => ?_, by rw [hread]; rfl, by rw [hread]; rfl, by rw [hread]; rfl,
    by rw [hread]; rfl, hkinds, ?_, ?_, ?_⟩
  · rw [hread]
    exact Extra.span?_eq_some_iff
  · rintro before after token rfl htoken hnone
    refine hkinds _ ?_ fun kind => (filter_kindOf?_insert hnone kind).symm
    intro t ht
    rcases List.mem_append.1 ht with ht | ht
    · exact htokens t (List.mem_append_left _ ht)
    · rcases List.mem_cons.1 ht with rfl | ht
      · exact htoken
      · exact htokens t (List.mem_append_right _ ht)
  · intro rest hopen hrest
    refine readProject_withBlock_congr hunit ?_ hfree (Extra.read_empty_token htokens hrest) title
    simpa [or_imp, forall_and, hopen] using hfree
  · rintro init last rfl
    refine readProject_withBlock_congr hunit ?_ ?_ ?_ title
    · simpa [or_imp, forall_and] using hfree
    · simpa [or_imp, forall_and] using hfree
    · rw [List.append_assoc, List.singleton_append, trim_commaJoin_nil]

/-- Dates between percentages, and the same with all of a kind together and a
note among them. -/
theorem readProject_by_kinds_mixed :
    let s : Setting := ⟨.standard, ""⟩
    let tokens := ["50%", "2020-02-01", "|1", "2020-01-01", "30%", "2020-03-01"].map String.toList
    let sorted := ["2020-02-01", "2020-01-01", "note", "2020-03-01", "50%", "30%", "|1"].map
      String.toList
    (¬ [',', ' '] <:+: s.layout.text.toList ∧ ∀ token ∈ tokens, IsPlain token) ∧
      readProject s (unitOf []) (withBlock "A".toList sorted) =
        readProject s (unitOf []) (withBlock "A".toList tokens) := by
  intro s tokens sorted
  have hlayout : ¬ [',', ' '] <:+: s.layout.text.toList := by decide +kernel
  have htokens : ∀ token ∈ tokens, IsPlain token := isPlain_of_all (by decide +kernel)
  have hsorted : ∀ token ∈ sorted, IsPlain token := isPlain_of_all (by decide +kernel)
  refine ⟨⟨hlayout, htokens⟩, ?_⟩
  obtain ⟨-, -, -, -, -, hkinds, -⟩ := readProject_by_kinds hlayout htokens [] "A".toList
  refine hkinds sorted hsorted fun kind => ?_
  cases kind <;> decide +kernel

/-- At the end of a block an empty token spoils the percentage in front. -/
theorem readProject_empty_token_at_end :
    let read tokens := readProject ⟨.standard, ""⟩ (unitOf []) (withBlock "A".toList tokens)
    withBlock "A".toList ["50%".toList, []] = "A [50%, ]".toList ∧
      (read ["50%".toList, []]).percentage = 0 ∧ (read ["50%".toList]).percentage = 50 := by
  decide +kernel

end TextRoadmap.Outline
