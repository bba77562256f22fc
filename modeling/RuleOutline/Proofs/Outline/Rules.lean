import Mathlib.Logic.ExistsUnique
import RuleOutline.Proofs.Outline.Candidate
import RuleOutline.Proofs.Outline.Walk

/-! The rules of an outline are the segments with a candidate and a colon after its name. The walk
has one invariant: between two of its steps no candidate is open. -/
namespace RuleOutline

section

variable {tokens prior inner after : List Token} {token semicolon : Token} {start stop : Nat}
  {name : String}

/-- From a candidate to its semicolon, the colons after the name are all the colons there are:
what may stand before them is a second word. -/
theorem exists_colon_iff (hTokens : tokens = prior ++ token :: (inner ++ after))
    (hOpens : Opens tokens prior.length) :
    (∃ i, nameIndex tokens prior.length < i ∧ i < prior.length + inner.length + 1 ∧
        kindAt? tokens i = some .colon) ↔
      ∃ other ∈ inner, other.kind = .colon := by
  have hPlace : ∀ k, (hIndex : k < inner.length) →
      kindAt? tokens (prior.length + 1 + k) = some inner[k].kind := by
    intro k hIndex
    have hLater := kindAt?_append (prior ++ [token]) (inner ++ after) k
    rw [List.length_append, List.length_singleton, List.append_assoc, List.singleton_append,
      ← hTokens] at hLater
    rw [hLater, kindAt?_append_left hIndex]
  constructor
  · rintro ⟨i, hName, hStop, hColon⟩
    have hLower : prior.length + 1 ≤ i := by
      unfold nameIndex at hName
      split at hName <;> omega
    obtain ⟨k, rfl⟩ := Nat.exists_eq_add_of_le hLower
    have hIndex : k < inner.length := by omega
    rw [hPlace k hIndex, Option.some.injEq] at hColon
    exact ⟨inner[k], List.getElem_mem hIndex, hColon⟩
  · rintro ⟨other, hOther, hColon⟩
    obtain ⟨k, hIndex, rfl⟩ := List.getElem_of_mem hOther
    have hAt := hPlace k hIndex
    rw [hColon] at hAt
    refine ⟨prior.length + 1 + k, ?_, by omega, hAt⟩
    unfold nameIndex
    split
    next hWord =>
      -- A colon right after `fragment` would not let the candidate begin.
      have hSecond := hOpens.fragment hWord
      have hLater : k ≠ 0 := by
        rintro rfl
        rw [Nat.add_zero, hSecond] at hAt
        cases hAt
      omega
    next => omega

theorem kindAt?_segment_end (hTokens : tokens = prior ++ token :: (inner ++ semicolon :: after)) :
    kindAt? tokens (prior.length + inner.length + 1) = some semicolon.kind := by
  have hAt := kindAt?_append (prior ++ token :: inner) (semicolon :: after) 0
  rw [List.append_assoc, List.cons_append, ← hTokens, List.length_append, List.length_cons] at hAt
  exact hAt

/-- From where a candidate begins on, its segment is the first to be a rule, if it has a colon. -/
theorem isRule_segment_iff
    (hTokens : tokens = prior ++ token :: (inner ++ semicolon :: after))
    (hIdle : Idle tokens prior.length) (hOpens : Opens tokens prior.length)
    (hInner : ∀ other ∈ inner, other.kind ≠ .semicolon) (hSemicolon : semicolon.kind = .semicolon) :
    (prior.length ≤ stop ∧ IsRule tokens start stop name) ↔
      ((∃ other ∈ inner, other.kind = .colon) ∧ start = prior.length ∧
          stop = prior.length + inner.length + 1 ∧
          textAt? tokens (nameIndex tokens prior.length) = some name) ∨
        (prior.length + inner.length + 2 ≤ stop ∧ IsRule tokens start stop name) := by
  have hToken : token.kind ≠ .semicolon := by
    rw [Opens.kind_eq hTokens hOpens]
    decide
  have hSegment : Unbroken tokens prior.length (prior.length + inner.length + 1) := by
    have hPart := unbroken_append (List.forall_mem_cons.mpr ⟨hToken, hInner⟩) prior
      (semicolon :: after)
    rwa [List.cons_append, ← hTokens, List.length_cons] at hPart
  have hCandidate : IsCandidate tokens start (prior.length + inner.length + 1) ↔
      start = prior.length :=
    hOpens.isCandidate_iff hIdle (by omega) hSegment
  constructor
  · rintro ⟨hLower, hRule⟩
    rcases Nat.lt_trichotomy stop (prior.length + inner.length + 1) with hLess | rfl | hGreater
    · exact absurd hRule.semicolon (hSegment stop hLower hLess)
    · obtain rfl := hCandidate.mp hRule.candidate
      exact .inl ⟨(exists_colon_iff hTokens hOpens).mp hRule.colon, rfl, rfl, hRule.name⟩
    · exact .inr ⟨hGreater, hRule⟩
  · rintro (⟨hColon, rfl, rfl, hName⟩ | ⟨hLower, hRule⟩)
    · have hLast := kindAt?_segment_end hTokens
      rw [hSemicolon] at hLast
      exact ⟨by omega, hLast, hCandidate.mpr rfl, (exists_colon_iff hTokens hOpens).mpr hColon,
        hName⟩
    · exact ⟨by omega, hRule⟩

/-- Behind the semicolon of a candidate there is none open, as at the beginning. -/
theorem exists_past_segment
    (hTokens : tokens = prior ++ token :: (inner ++ semicolon :: after))
    (hSemicolon : semicolon.kind = .semicolon) :
    ∃ past, tokens = past ++ after ∧ prior.length + inner.length + 2 = past.length ∧
      Idle tokens (prior.length + inner.length + 2) := by
  refine ⟨prior ++ token :: (inner ++ [semicolon]), by simp [hTokens], by simp; omega, ?_⟩
  have hLast := kindAt?_segment_end hTokens
  rw [hSemicolon] at hLast
  exact idle_succ_of_semicolon hLast

end

/-- A walk that begins where no candidate is open finds the rules that end from there on. -/
theorem Walk.exists_rule_iff {markers : Markers} {index rules : Nat} {tokens prior rest : List Token}
    {outline : Outline} (h : Walk markers index rules rest outline)
    (hTokens : tokens = prior ++ rest) (hIndex : index = prior.length) (hIdle : Idle tokens index)
    (start stop : Nat) (name : String) :
    (∃ rule ∈ outline.rules, rule.index = start ∧ rule.stopIndex = stop ∧ rule.name = name) ↔
      index ≤ stop ∧ IsRule tokens start stop name := by
  induction h generalizing prior with
  | done index rules =>
      constructor
      · rintro ⟨rule, hRule, _⟩
        cases hRule
      · rintro ⟨hLower, hRule⟩
        have hLast := hRule.semicolon
        rw [hTokens] at hLast
        obtain ⟨other, hOther, _⟩ := exists_mem_of_kindAt? (hIndex ▸ hLower) hLast
        cases hOther
  | @pass index rules token rest later hName tail ih =>
      have hOpens : ¬Opens tokens index := hIndex ▸ (candidateName?_eq_none_iff hTokens).mp hName
      have hRest : tokens = (prior ++ [token]) ++ rest := by simp [hTokens]
      have hLength : index + 1 = (prior ++ [token]).length := by simp [hIndex]
      rw [ih hRest hLength (hIdle.succ hOpens)]
      constructor
      · rintro ⟨hLower, hRule⟩
        exact ⟨Nat.le_of_succ_le hLower, hRule⟩
      · rintro ⟨hLower, hRule⟩
        have hStop : index ≠ stop := by
          rintro rfl
          exact hRule.candidate.not_idle hIdle
        exact ⟨by omega, hRule⟩
  | @unfinished index rules token rest found hName hRest =>
      subst hIndex
      obtain ⟨hOpens, _⟩ := (candidateName?_eq_some_iff hTokens).mp hName
      constructor
      · rintro ⟨rule, hRule, _⟩
        cases hRule
      · rintro ⟨hLower, hRule⟩
        have hLast := hRule.semicolon
        rw [hTokens] at hLast
        obtain ⟨other, hOther, hKind⟩ := exists_mem_of_kindAt? hLower hLast
        rcases List.mem_cons.mp hOther with rfl | hOther
        · rw [Opens.kind_eq hTokens hOpens] at hKind
          cases hKind
        · exact absurd hKind (hRest other hOther)
  | @dropped index rules token semicolon inner after found later hName hInner hSemicolon hColon
      tail ih =>
      subst hIndex
      obtain ⟨hOpens, _⟩ := (candidateName?_eq_some_iff hTokens).mp hName
      obtain ⟨past, hAfter, hLength, hNext⟩ := exists_past_segment hTokens hSemicolon
      rw [ih hAfter hLength hNext,
        isRule_segment_iff hTokens hIdle hOpens hInner hSemicolon]
      constructor
      · exact .inr
      · rintro (⟨⟨other, hOther, hKind⟩, _⟩ | hRule)
        · exact absurd hKind (hColon other hOther)
        · exact hRule
  | @rule index rules token colon semicolon heading body after found later hName hInner hSemicolon
      hHeading hColon tail ih =>
      subst hIndex
      obtain ⟨hOpens, hFound⟩ := (candidateName?_eq_some_iff hTokens).mp hName
      obtain ⟨past, hAfter, hLength, hNext⟩ := exists_past_segment hTokens hSemicolon
      have hTail := ih hAfter hLength hNext
      have hExists : ∃ other ∈ heading ++ colon :: body, other.kind = .colon :=
        ⟨colon, by simp, hColon⟩
      rw [isRule_segment_iff hTokens hIdle hOpens hInner hSemicolon, ← hTail, hFound,
        Option.some.injEq]
      constructor
      · rintro ⟨rule, hRule, hPlace⟩
        rcases List.mem_cons.mp hRule with rfl | hRule
        · obtain ⟨rfl, rfl, rfl⟩ := hPlace
          exact .inl ⟨hExists, rfl, rfl, rfl⟩
        · exact .inr ⟨rule, hRule, hPlace⟩
      · rintro (⟨_, rfl, rfl, rfl⟩ | ⟨rule, hRule, hPlace⟩)
        · exact ⟨_, List.mem_cons_self .., rfl, rfl, rfl⟩
        · exact ⟨rule, List.mem_cons_of_mem _ hRule, hPlace⟩

theorem Walk.le_index {markers : Markers} {index rules : Nat} {tokens : List Token}
    {outline : Outline} (h : Walk markers index rules tokens outline) :
    ∀ rule ∈ outline.rules, index ≤ rule.index := by
  induction h with
  | done index rules => simp
  | pass hName tail ih =>
      intro rule hRule
      exact Nat.le_of_succ_le (ih rule hRule)
  | unfinished hName hRest => simp
  | dropped hName hInner hSemicolon hColon tail ih =>
      intro rule hRule
      have hLater := ih rule hRule
      omega
  | rule hName hInner hSemicolon hHeading hColon tail ih =>
      intro rule hRule
      rcases List.mem_cons.mp hRule with rfl | hRule
      · exact Nat.le_refl _
      · have hLater := ih rule hRule
        omega

theorem Walk.pairwise {markers : Markers} {index rules : Nat} {tokens : List Token}
    {outline : Outline} (h : Walk markers index rules tokens outline) :
    outline.rules.Pairwise fun a b => a.stopIndex < b.index := by
  induction h with
  | done index rules => exact .nil
  | pass hName tail ih => exact ih
  | unfinished hName hRest => exact .nil
  | dropped hName hInner hSemicolon hColon tail ih => exact ih
  | rule hName hInner hSemicolon hHeading hColon tail ih => exact .cons tail.le_index ih

/-- A rule keeps its own tokens, and its index tells how many come before them. -/
theorem Walk.exists_split {markers : Markers} {index rules : Nat} {tokens : List Token}
    {outline : Outline} (h : Walk markers index rules tokens outline) :
    ∀ rule ∈ outline.rules, ∃ before after,
      tokens = before ++ (rule.tokens ++ rule.semicolon :: after) ∧
        rule.index = index + before.length ∧ rule.semicolon.kind = .semicolon ∧
        ∀ token ∈ rule.tokens, token.kind ≠ .semicolon := by
  induction h with
  | done index rules => simp
  | @pass index rules token rest later hName tail ih =>
      intro rule hRule
      obtain ⟨before, after, rfl, hIndex, hKinds⟩ := ih rule hRule
      refine ⟨token :: before, after, rfl, ?_, hKinds⟩
      rw [hIndex, List.length_cons]
      omega
  | unfinished hName hRest => simp
  | @dropped index rules token semicolon inner after name later hName hInner hSemicolon hColon tail
      ih =>
      intro rule hRule
      obtain ⟨before, after, rfl, hIndex, hKinds⟩ := ih rule hRule
      refine ⟨token :: (inner ++ semicolon :: before), after, by simp, ?_, hKinds⟩
      rw [hIndex]
      simp
      omega
  | @rule index rules token colon semicolon heading body after name later hName hInner hSemicolon
      hHeading hColon tail ih =>
      intro rule hRule
      rcases List.mem_cons.mp hRule with rfl | hRule
      · have hFirst : token.kind ≠ .semicolon := by
          rw [kind_of_candidateName? hName]
          decide
        exact ⟨[], after, rfl, rfl, hSemicolon, List.forall_mem_cons.mpr ⟨hFirst, hInner⟩⟩
      · obtain ⟨before, after, rfl, hIndex, hKinds⟩ := ih rule hRule
        refine ⟨token :: (heading ++ colon :: body ++ semicolon :: before), after, by simp, ?_,
          hKinds⟩
        rw [hIndex]
        simp
        omega

/-- Rules found among tokens, exactly. Each rule stands for the tokens between its indices, the
last of which is its only semicolon; there is one for each segment that is a rule, in order. -/
structure Found (tokens : List Token) (rules : List Rule) : Prop where
  found : ∀ start stop name,
    (∃ rule ∈ rules, rule.index = start ∧ rule.stopIndex = stop ∧ rule.name = name) ↔
      IsRule tokens start stop name
  once : ∀ start stop name, IsRule tokens start stop name →
    ∃! i : Nat, rules[i]?.map Rule.stopIndex = some stop
  ordered : rules.Pairwise fun a b => a.stopIndex < b.index
  proper : ∀ rule ∈ rules, rule.index < rule.stopIndex
  covered : ∀ rule ∈ rules,
    tokens.extract rule.index (rule.stopIndex + 1) = rule.tokens ++ [rule.semicolon]
  closed : ∀ rule ∈ rules,
    rule.semicolon.kind = .semicolon ∧ ∀ token ∈ rule.tokens, token.kind ≠ .semicolon

theorem Rule.index_lt_stopIndex (rule : Rule) : rule.index < rule.stopIndex := by
  simp [Rule.stopIndex, Rule.tokens]

/-- Two rules that end at one index are one rule. -/
theorem eq_of_stopIndex_eq {rules : List Rule}
    (hOrdered : rules.Pairwise fun a b => a.stopIndex < b.index) {i j stop : Nat}
    (hFirst : rules[i]?.map Rule.stopIndex = some stop)
    (hSecond : rules[j]?.map Rule.stopIndex = some stop) : i = j := by
  obtain ⟨a, ha, hStop⟩ := Option.map_eq_some_iff.mp hFirst
  obtain ⟨b, hb, hSame⟩ := Option.map_eq_some_iff.mp hSecond
  obtain ⟨hi, rfl⟩ := List.getElem?_eq_some_iff.mp ha
  obtain ⟨hj, rfl⟩ := List.getElem?_eq_some_iff.mp hb
  have hPairs := List.pairwise_iff_getElem.mp hOrdered
  rcases Nat.lt_trichotomy i j with hLess | hEq | hGreater
  · have hBefore := hPairs i j hi hj hLess
    have hProper := rules[j].index_lt_stopIndex
    omega
  · exact hEq
  · have hBefore := hPairs j i hj hi hGreater
    have hProper := rules[i].index_lt_stopIndex
    omega

/-- The outline of any tokens has the rules that are there, and no others. The markers do not
matter. -/
theorem outlineOf_rules_found (markers : Markers) (tokens : List Token) :
    Found tokens (outlineOf markers tokens).rules := by
  have hWalk := walk_outlineFrom markers 0 0 tokens
  have hFound : ∀ start stop name,
      (∃ rule ∈ (outlineOf markers tokens).rules,
        rule.index = start ∧ rule.stopIndex = stop ∧ rule.name = name) ↔
      IsRule tokens start stop name := by
    intro start stop name
    have hIff := hWalk.exists_rule_iff (List.nil_append tokens).symm rfl (idle_zero tokens) start
      stop name
    rw [outlineOf, hIff]
    exact ⟨fun hRule => hRule.2, fun hRule => ⟨Nat.zero_le _, hRule⟩⟩
  refine ⟨hFound, ?_, hWalk.pairwise, fun rule _ => rule.index_lt_stopIndex, ?_, ?_⟩
  · intro start stop name hRule
    obtain ⟨rule, hMem, _, hStop, _⟩ := (hFound start stop name).mpr hRule
    obtain ⟨i, hIndex⟩ := List.mem_iff_getElem?.mp hMem
    have hAt : (outlineOf markers tokens).rules[i]?.map Rule.stopIndex = some stop := by
      rw [hIndex, Option.map_some, hStop]
    exact ⟨i, hAt, fun j hOther => eq_of_stopIndex_eq hWalk.pairwise hOther hAt⟩
  · intro rule hRule
    obtain ⟨before, after, hTokens, hIndex, _⟩ := hWalk.exists_split rule hRule
    rw [Nat.zero_add] at hIndex
    have hLength : rule.stopIndex + 1 - rule.index = (rule.tokens ++ [rule.semicolon]).length := by
      simp [Rule.stopIndex]
      omega
    have hDrop : tokens.drop rule.index = (rule.tokens ++ [rule.semicolon]) ++ after := by
      rw [hTokens, hIndex, List.drop_left]
      simp
    rw [List.extract_eq_take_drop, hDrop, hLength, List.take_left]
  · intro rule hRule
    obtain ⟨_, _, _, _, hKinds⟩ := hWalk.exists_split rule hRule
    exact hKinds

end RuleOutline
