import RuleOutline.Proofs.Count
import RuleOutline.Proofs.Outline.Rules

/-! The groups of an outline are the marker comments that no candidate has taken in. Which rule a
group is anchored to is a count over the finished rules, whatever the walk counted on its way. -/
namespace RuleOutline

section Marker

/-- The name is the text without the white space at its end. -/
def Trims (name text : List Char) : Prop :=
  ∃ blanks, text = name ++ blanks ∧ (∀ c ∈ blanks, Unicode.isBlank c = true) ∧
    ∀ c ∈ name.getLast?, Unicode.isBlank c = false

theorem trims_trimEnd (text : List Char) :
    Trims (Unicode.trimEnd (.ofList text)).toList text := by
  refine ⟨(text.reverse.takeWhile Unicode.isBlank).reverse, ?_, ?_, ?_⟩
  · rw [Unicode.trimEnd, String.toList_ofList, String.toList_ofList, ← List.reverse_append,
      List.takeWhile_append_dropWhile, List.reverse_reverse]
  · intro c hc
    exact List.all_eq_true.mp List.all_takeWhile c (List.mem_reverse.mp hc)
  · intro c hc
    rw [Unicode.trimEnd, String.toList_ofList, String.toList_ofList, List.getLast?_reverse] at hc
    have hHead := List.head?_dropWhile_not Unicode.isBlank text.reverse
    simpa [Option.mem_def.mp hc] using hHead

/-- The comment begins as the marker does, and the opening marker goes first. -/
inductive Reads (markers : Markers) (comment : String) : Marker → Prop where
  | opening {rest : List Char} (hText : markers.opening.toList ++ rest = comment.toList) :
      Reads markers comment (.opening (Unicode.trimEnd (.ofList rest)))
  | closing (hOpening : ¬markers.opening.toList <+: comment.toList)
      (hClosing : markers.closing.toList <+: comment.toList) : Reads markers comment .closing

theorem reads_of_read {markers : Markers} {comment : String} {marker : Marker}
    (h : markers.read comment = some marker) : Reads markers comment marker := by
  unfold Markers.read at h
  split at h
  next hOpening =>
    obtain ⟨rest, hText⟩ := List.isPrefixOf_iff_prefix.mp hOpening
    rw [← hText, List.drop_left] at h
    obtain rfl := Option.some.inj h
    exact .opening hText
  next hOpening =>
    split at h
    next hClosing =>
      obtain rfl := Option.some.inj h
      exact .closing (fun hPrefix => hOpening (List.isPrefixOf_iff_prefix.mpr hPrefix))
        (List.isPrefixOf_iff_prefix.mp hClosing)
    next => cases h

theorem Reads.isOpen {markers : Markers} {comment : String} {group : Group}
    (h : Reads markers comment group.marker) {rest : List Char}
    (hText : markers.opening.toList ++ rest = comment.toList) :
    group.isOpen = true ∧ ∃ name, group.name? = some name ∧ Trims name.toList rest := by
  unfold Group.isOpen Group.name?
  generalize group.marker = marker at h
  cases h with
  | opening hSame =>
      rw [← hText] at hSame
      obtain rfl := List.append_cancel_left hSame
      exact ⟨rfl, _, rfl, trims_trimEnd _⟩
  | closing hOpening => exact absurd ⟨rest, hText⟩ hOpening

theorem Reads.not_isOpen {markers : Markers} {comment : String} {group : Group}
    (h : Reads markers comment group.marker)
    (hText : ¬markers.opening.toList <+: comment.toList) :
    group.isOpen = false ∧ group.name? = none := by
  unfold Group.isOpen Group.name?
  generalize group.marker = marker at h
  cases h with
  | opening hSame => exact absurd ⟨_, hSame⟩ hText
  | closing => exact ⟨rfl, rfl⟩

theorem exists_read_iff {markers : Markers} {comment : String} :
    (∃ marker, markers.read comment = some marker) ↔
      markers.opening.toList <+: comment.toList ∨ markers.closing.toList <+: comment.toList := by
  constructor
  · rintro ⟨marker, hRead⟩
    cases reads_of_read hRead with
    | opening hText => exact .inl ⟨_, hText⟩
    | closing _ hClosing => exact .inr hClosing
  · intro hText
    by_cases hOpening : markers.opening.toList <+: comment.toList
    · exact ⟨_, if_pos (List.isPrefixOf_iff_prefix.mpr hOpening)⟩
    · have hClosing := hText.resolve_left hOpening
      refine ⟨.closing, ?_⟩
      simp [Markers.read, List.isPrefixOf_iff_prefix, hOpening, hClosing]

end Marker

theorem groupAt?_eq_some_iff {markers : Markers} {index rules : Nat} {token : Token}
    {group : Group} :
    groupAt? markers index rules token = some group ↔
      token.kind = .lineComment ∧ markers.read token.text = some group.marker ∧
        group.anchor = lastOf rules ∧ group.index = index ∧ group.comment = token := by
  unfold groupAt?
  split
  next hKind =>
    rw [Option.map_eq_some_iff]
    constructor
    · rintro ⟨marker, hRead, rfl⟩
      exact ⟨beq_iff_eq.mp hKind, hRead, rfl, rfl, rfl⟩
    · rintro ⟨-, hRead, hAnchor, rfl, rfl⟩
      refine ⟨group.marker, hRead, ?_⟩
      rw [show (if rules = 0 then none else some (rules - 1)) = group.anchor from hAnchor.symm]
  next hKind =>
    simp only [reduceCtorEq, false_iff]
    rintro ⟨hComment, -⟩
    exact hKind (beq_iff_eq.mpr hComment)

theorem not_identifier_of_groupAt? {markers : Markers} {rules i : Nat} {tokens : List Token}
    {token : Token} {group : Group} (hToken : tokens[i]? = some token)
    (hGroup : groupAt? markers i rules token = some group) :
    kindAt? tokens i ≠ some .identifier := by
  rw [kindAt?, hToken, Option.map_some, (groupAt?_eq_some_iff.mp hGroup).1]
  decide

/-- Once a candidate has begun, nothing is idle until its semicolon has passed. -/
theorem Idle.past_candidate {tokens prior inner after : List Token} {token : Token}
    (hTokens : tokens = prior ++ token :: (inner ++ after)) (hOpens : Opens tokens prior.length)
    (hInner : ∀ other ∈ inner, other.kind ≠ .semicolon) {i : Nat} (hLower : prior.length ≤ i)
    (hIdle : Idle tokens i) (hKind : kindAt? tokens i ≠ some .identifier) :
    prior.length + inner.length + 1 < i := by
  have hToken : token.kind ≠ .semicolon := by
    rw [Opens.kind_eq hTokens hOpens]
    decide
  have hSegment : Unbroken tokens prior.length (prior.length + inner.length + 1) := by
    have hPart := unbroken_append (List.forall_mem_cons.mpr ⟨hToken, hInner⟩) prior after
    rwa [List.cons_append, ← hTokens, List.length_cons] at hPart
  rcases Nat.eq_or_lt_of_le hLower with rfl | hLess
  · exact absurd hOpens.name hKind
  · rcases Nat.lt_or_ge (prior.length + inner.length + 1) i with hPast | hInside
    · exact hPast
    · exact absurd hOpens (hIdle _ hLess (hSegment.mono (Nat.le_refl _) hInside))

theorem Walk.le_group_index {markers : Markers} {index rules : Nat} {tokens : List Token}
    {outline : Outline} (h : Walk markers index rules tokens outline) :
    ∀ group ∈ outline.groups, index ≤ group.index := by
  induction h with
  | done index rules => simp
  | pass hName tail ih =>
      intro group hGroup
      rcases List.mem_append.mp hGroup with hHere | hLater
      · obtain ⟨-, -, -, hIndex, -⟩ := groupAt?_eq_some_iff.mp (Option.mem_toList.mp hHere)
        exact Nat.le_of_eq hIndex.symm
      · exact Nat.le_of_succ_le (ih group hLater)
  | unfinished hName hRest => simp
  | dropped hName hInner hSemicolon hColon tail ih =>
      intro group hGroup
      have hLater := ih group hGroup
      omega
  | rule hName hInner hSemicolon hHeading hColon tail ih =>
      intro group hGroup
      have hLater := ih group hGroup
      omega

theorem Walk.groups_pairwise {markers : Markers} {index rules : Nat} {tokens : List Token}
    {outline : Outline} (h : Walk markers index rules tokens outline) :
    outline.groups.Pairwise fun a b => a.index < b.index := by
  induction h with
  | done index rules => exact .nil
  | @pass index rules token rest later hName tail ih =>
      refine List.pairwise_append.mpr ⟨?_, ih, ?_⟩
      · cases groupAt? markers index rules token <;> simp
      · intro group hGroup other hOther
        obtain ⟨-, -, -, hIndex, -⟩ := groupAt?_eq_some_iff.mp (Option.mem_toList.mp hGroup)
        have hLater := tail.le_group_index other hOther
        omega
  | unfinished hName hRest => exact .nil
  | dropped hName hInner hSemicolon hColon tail ih => exact ih
  | rule hName hInner hSemicolon hHeading hColon tail ih => exact ih

/-- The number of rules that end before an index. -/
def rulesBefore (rules : List Rule) (i : Nat) : Nat :=
  rules.countP (·.stopIndex < i)

theorem rulesBefore_eq_zero {rules : List Rule} {i : Nat} (h : ∀ rule ∈ rules, i ≤ rule.index) :
    rulesBefore rules i = 0 := by
  rw [rulesBefore, List.countP_eq_zero]
  intro rule hRule
  have hStart := h rule hRule
  have hProper := rule.index_lt_stopIndex
  simp only [decide_eq_true_eq]
  omega

/-- A walk that begins where no candidate is open finds the groups from there on: those of the
marker comments at which it is idle, each after as many rules as end before it. -/
theorem Walk.mem_groups_iff {markers : Markers} {index rules : Nat} {tokens prior rest : List Token}
    {outline : Outline} (h : Walk markers index rules rest outline)
    (hTokens : tokens = prior ++ rest) (hIndex : index = prior.length) (hIdle : Idle tokens index)
    (group : Group) :
    group ∈ outline.groups ↔
      index ≤ group.index ∧ Idle tokens group.index ∧ ∃ token, tokens[group.index]? = some token ∧
        groupAt? markers group.index (rules + rulesBefore outline.rules group.index) token =
          some group := by
  induction h generalizing prior with
  | done index rules =>
      constructor
      · intro hGroup
        cases hGroup
      · rintro ⟨hLower, -, token, hToken, -⟩
        rw [hTokens, List.append_nil, List.getElem?_eq_none (hIndex ▸ hLower)] at hToken
        cases hToken
  | @pass index rules token rest later hName tail ih =>
      have hOpens : ¬Opens tokens index := hIndex ▸ (candidateName?_eq_none_iff hTokens).mp hName
      have hRest : tokens = (prior ++ [token]) ++ rest := by simp [hTokens]
      have hLength : index + 1 = (prior ++ [token]).length := by simp [hIndex]
      have hPlace : tokens[index]? = some token := by rw [hTokens, hIndex]; simp
      have hNone : rulesBefore later.rules index = 0 :=
        rulesBefore_eq_zero (fun rule hRule => Nat.le_of_succ_le (tail.le_index rule hRule))
      rw [List.mem_append, ih hRest hLength (hIdle.succ hOpens), Option.mem_toList]
      constructor
      · rintro (hHere | ⟨hLower, hLater⟩)
        · obtain ⟨-, -, -, rfl, -⟩ := groupAt?_eq_some_iff.mp hHere
          refine ⟨Nat.le_refl _, hIdle, token, hPlace, ?_⟩
          rwa [hNone]
        · exact ⟨Nat.le_of_succ_le hLower, hLater⟩
      · rintro ⟨hLower, hHere, other, hOther, hGroup⟩
        rcases Nat.eq_or_lt_of_le hLower with hSame | hLess
        · rw [← hSame] at hOther hGroup
          obtain rfl := Option.some.inj (hPlace.symm.trans hOther)
          rw [hNone] at hGroup
          exact .inl hGroup
        · exact .inr ⟨hLess, hHere, other, hOther, hGroup⟩
  | @unfinished index rules token rest name hName hRest =>
      subst hIndex
      obtain ⟨hOpens, -⟩ := (candidateName?_eq_some_iff hTokens).mp hName
      constructor
      · intro hGroup
        cases hGroup
      · rintro ⟨hLower, hHere, other, hOther, hGroup⟩
        rw [← List.append_nil rest] at hTokens
        have hPast := hHere.past_candidate hTokens hOpens hRest hLower
          (not_identifier_of_groupAt? hOther hGroup)
        rw [hTokens, List.getElem?_eq_none (by simp; omega)] at hOther
        cases hOther
  | @dropped index rules token semicolon inner after name later hName hInner hSemicolon hColon tail
      ih =>
      subst hIndex
      obtain ⟨hOpens, -⟩ := (candidateName?_eq_some_iff hTokens).mp hName
      obtain ⟨past, hAfter, hLength, hNext⟩ := exists_past_segment hTokens hSemicolon
      rw [ih hAfter hLength hNext]
      constructor
      · rintro ⟨hLower, hLater⟩
        exact ⟨by omega, hLater⟩
      · rintro ⟨hLower, hHere, other, hOther, hGroup⟩
        have hPast := hHere.past_candidate hTokens hOpens hInner hLower
          (not_identifier_of_groupAt? hOther hGroup)
        exact ⟨hPast, hHere, other, hOther, hGroup⟩
  | @rule index rules token colon semicolon heading body after name later hName hInner hSemicolon
      hHeading hColon tail ih =>
      subst hIndex
      obtain ⟨hOpens, -⟩ := (candidateName?_eq_some_iff hTokens).mp hName
      obtain ⟨past, hAfter, hLength, hNext⟩ := exists_past_segment hTokens hSemicolon
      have hCount : ∀ i, prior.length + (heading ++ colon :: body).length + 2 ≤ i →
          rules + rulesBefore
            (⟨name, prior.length, token, heading, colon, body, semicolon, []⟩ :: later.rules) i =
          rules + 1 + rulesBefore later.rules i := by
        intro i hLower
        rw [rulesBefore, List.countP_cons_of_pos, rulesBefore]
        · omega
        · simpa [Rule.stopIndex, Rule.tokens, Nat.succ_le_iff, ← Nat.add_assoc] using hLower
      rw [ih hAfter hLength hNext]
      constructor
      · rintro ⟨hLower, hHere, other, hOther, hGroup⟩
        exact ⟨by omega, hHere, other, hOther, by rwa [hCount _ hLower]⟩
      · rintro ⟨hLower, hHere, other, hOther, hGroup⟩
        have hPast := hHere.past_candidate hTokens hOpens hInner hLower
          (not_identifier_of_groupAt? hOther hGroup)
        exact ⟨hPast, hHere, other, hOther, by rwa [hCount _ hPast] at hGroup⟩

theorem rulesBefore_mono (rules : List Rule) {i j : Nat} (h : i ≤ j) :
    rulesBefore rules i ≤ rulesBefore rules j := by
  apply List.countP_mono_left
  intro rule _ hStop
  rw [decide_eq_true_eq] at hStop ⊢
  omega

/-- The rules that end before an index are the first ones. -/
theorem stopIndex_lt_iff {rules : List Rule}
    (hOrdered : rules.Pairwise fun a b => a.stopIndex < b.index) {i j : Nat} {rule : Rule}
    (hRule : rules[j]? = some rule) : rule.stopIndex < i ↔ j < rulesBefore rules i := by
  have hFront : rules.Pairwise fun a b =>
      decide (b.stopIndex < i) = true → decide (a.stopIndex < i) = true := by
    apply hOrdered.imp
    intro a b hOrder hStop
    have hProper := b.index_lt_stopIndex
    simp only [decide_eq_true_eq] at hStop ⊢
    omega
  rw [rulesBefore, lt_countP_iff hFront hRule, decide_eq_true_eq]

/-- Where a walk is idle there is no rule. -/
theorem IsRule.index_lt_of_idle {tokens : List Token} {start stop i : Nat} {name : String}
    (h : IsRule tokens start stop name) (hIdle : Idle tokens i)
    (hKind : kindAt? tokens i ≠ some .identifier) (hUpper : i ≤ stop) : i < start := by
  rcases Nat.lt_trichotomy start i with hInside | rfl | hBefore
  · have hSegment := h.candidate.segment.mono (Nat.le_refl _) hUpper
    exact absurd h.candidate.opens (hIdle start hInside hSegment)
  · exact absurd h.candidate.opens.name hKind
  · exact hBefore

/-- A comment that marks a group: it begins as one of the markers does, and no candidate has begun
before it in its segment. The last segment may be one without a semicolon. -/
structure IsMarker (markers : Markers) (tokens : List Token) (i : Nat) : Prop where
  comment : ∃ token, tokens[i]? = some token ∧ token.kind = .lineComment ∧
    (markers.opening.toList <+: token.text.toList ∨ markers.closing.toList <+: token.text.toList)
  idle : Idle tokens i

/-- Groups found among tokens, exactly, with what they say of themselves and of the rules. The
rule after the anchor is the first one where there is no anchor. -/
structure Grouped (markers : Markers) (tokens : List Token) (outline : Outline) : Prop where
  found : ∀ i, (∃ group ∈ outline.groups, group.index = i) ↔ IsMarker markers tokens i
  comment : ∀ group ∈ outline.groups, tokens[group.index]? = some group.comment
  opening : ∀ group ∈ outline.groups, ∀ rest,
    markers.opening.toList ++ rest = group.comment.text.toList →
      group.isOpen = true ∧ ∃ name, group.name? = some name ∧ Trims name.toList rest
  closing : ∀ group ∈ outline.groups, ¬markers.opening.toList <+: group.comment.text.toList →
    group.isOpen = false ∧ group.name? = none
  anchor : ∀ group ∈ outline.groups,
    group.anchor = lastOf (rulesBefore outline.rules group.index)
  ordered : outline.groups.Pairwise fun a b => a.index < b.index
  anchors : outline.groups.Pairwise fun a b =>
    ∀ i, a.anchor = some i → ∃ j, b.anchor = some j ∧ i ≤ j
  behind : ∀ group ∈ outline.groups, ∀ i, group.anchor = some i →
    ∃ rule, outline.rules[i]? = some rule ∧ rule.stopIndex < group.index
  ahead : ∀ group ∈ outline.groups, ∀ rule,
    outline.rules[(group.anchor.map (· + 1)).getD 0]? = some rule → group.index < rule.index

theorem lastOf_eq_some_iff {rules i : Nat} : lastOf rules = some i ↔ rules = i + 1 := by
  cases rules <;> simp [lastOf, eq_comm]

theorem getD_lastOf (rules : Nat) : ((lastOf rules).map (· + 1)).getD 0 = rules := by
  cases rules <;> rfl

section Outline

variable {markers : Markers} {tokens : List Token} {group : Group}

theorem mem_groups_outlineOf_iff :
    group ∈ (outlineOf markers tokens).groups ↔
      Idle tokens group.index ∧ ∃ token, tokens[group.index]? = some token ∧
        groupAt? markers group.index (rulesBefore (outlineOf markers tokens).rules group.index)
          token = some group := by
  have hIff := (walk_outlineOf markers tokens).mem_groups_iff (List.nil_append tokens).symm rfl
    (idle_zero tokens) group
  rw [Nat.zero_add] at hIff
  simpa using hIff

/-- What a group says of itself is what its comment says and where it stands. -/
theorem read_of_mem_groups (h : group ∈ (outlineOf markers tokens).groups) :
    tokens[group.index]? = some group.comment ∧ Reads markers group.comment.text group.marker ∧
      group.anchor = lastOf (rulesBefore (outlineOf markers tokens).rules group.index) := by
  obtain ⟨-, token, hToken, hHere⟩ := mem_groups_outlineOf_iff.mp h
  obtain ⟨-, hMarker, hAnchor, -, rfl⟩ := groupAt?_eq_some_iff.mp hHere
  exact ⟨hToken, reads_of_read hMarker, hAnchor⟩

theorem exists_group_iff (i : Nat) :
    (∃ group ∈ (outlineOf markers tokens).groups, group.index = i) ↔
      IsMarker markers tokens i := by
  constructor
  · rintro ⟨group, hGroup, rfl⟩
    obtain ⟨hIdle, token, hToken, hHere⟩ := mem_groups_outlineOf_iff.mp hGroup
    obtain ⟨hKind, hMarker, -⟩ := groupAt?_eq_some_iff.mp hHere
    exact ⟨⟨token, hToken, hKind, exists_read_iff.mp ⟨_, hMarker⟩⟩, hIdle⟩
  · rintro ⟨⟨token, hToken, hKind, hText⟩, hIdle⟩
    obtain ⟨marker, hMarker⟩ := exists_read_iff.mpr hText
    refine ⟨⟨marker, lastOf (rulesBefore (outlineOf markers tokens).rules i), i, token⟩, ?_, rfl⟩
    rw [mem_groups_outlineOf_iff]
    exact ⟨hIdle, token, hToken, groupAt?_eq_some_iff.mpr ⟨hKind, hMarker, rfl, rfl, rfl⟩⟩

theorem exists_anchor_rule (h : group ∈ (outlineOf markers tokens).groups) {i : Nat}
    (hAnchor : group.anchor = some i) :
    ∃ rule, (outlineOf markers tokens).rules[i]? = some rule ∧ rule.stopIndex < group.index := by
  rw [(read_of_mem_groups h).2.2, lastOf_eq_some_iff] at hAnchor
  have hLength : i < (outlineOf markers tokens).rules.length := by
    have hCount := List.countP_le_length (p := fun rule : Rule => rule.stopIndex < group.index)
      (l := (outlineOf markers tokens).rules)
    rw [← rulesBefore, hAnchor] at hCount
    exact hCount
  refine ⟨_, List.getElem?_eq_getElem hLength, ?_⟩
  rw [stopIndex_lt_iff (walk_outlineOf markers tokens).pairwise (List.getElem?_eq_getElem hLength),
    hAnchor]
  exact Nat.lt_succ_self i

/-- A rule that has not ended before a group has not begun before it either. -/
theorem index_lt_of_not_stopIndex_lt (h : group ∈ (outlineOf markers tokens).groups) {rule : Rule}
    (hRule : rule ∈ (outlineOf markers tokens).rules) (hStop : ¬rule.stopIndex < group.index) :
    group.index < rule.index := by
  have hIsRule := ((walk_outlineOf markers tokens).exists_rule_iff (List.nil_append tokens).symm rfl
    (idle_zero tokens) _ _ _).mp ⟨rule, hRule, rfl, rfl, rfl⟩
  obtain ⟨hIdle, token, hToken, hHere⟩ := mem_groups_outlineOf_iff.mp h
  exact hIsRule.2.index_lt_of_idle hIdle (not_identifier_of_groupAt? hToken hHere)
    (Nat.le_of_not_lt hStop)

/-- The rule after the anchor lies wholly behind the group. -/
theorem index_lt_next_rule (h : group ∈ (outlineOf markers tokens).groups) {rule : Rule}
    (hRule : (outlineOf markers tokens).rules[(group.anchor.map (· + 1)).getD 0]? = some rule) :
    group.index < rule.index := by
  rw [(read_of_mem_groups h).2.2, getD_lastOf] at hRule
  apply index_lt_of_not_stopIndex_lt h (List.mem_of_getElem? hRule)
  rw [stopIndex_lt_iff (walk_outlineOf markers tokens).pairwise hRule]
  exact Nat.lt_irrefl _

end Outline

/-- The outline of any tokens has a group for each marker comment outside candidates, and no
others. -/
theorem outlineOf_grouped (markers : Markers) (tokens : List Token) :
    Grouped markers tokens (outlineOf markers tokens) where
  found := exists_group_iff
  comment group hGroup := (read_of_mem_groups hGroup).1
  opening group hGroup rest hText := (read_of_mem_groups hGroup).2.1.isOpen hText
  closing group hGroup hText := (read_of_mem_groups hGroup).2.1.not_isOpen hText
  anchor group hGroup := (read_of_mem_groups hGroup).2.2
  ordered := (walk_outlineOf markers tokens).groups_pairwise
  anchors := by
    refine (walk_outlineOf markers tokens).groups_pairwise.imp_of_mem ?_
    intro a b ha hb hIndex i hFirst
    rw [(read_of_mem_groups ha).2.2, lastOf_eq_some_iff] at hFirst
    have hCount := rulesBefore_mono (outlineOf markers tokens).rules (Nat.le_of_lt hIndex)
    refine ⟨rulesBefore (outlineOf markers tokens).rules b.index - 1, ?_, by omega⟩
    rw [(read_of_mem_groups hb).2.2, lastOf_eq_some_iff]
    omega
  behind _ hGroup _ := exists_anchor_rule hGroup
  ahead _ hGroup _ := index_lt_next_rule hGroup

end RuleOutline
