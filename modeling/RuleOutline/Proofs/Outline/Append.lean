import RuleOutline.Document
import RuleOutline.Proofs.Text.Bytes
import RuleOutline.Proofs.Token.Append
import RuleOutline.Proofs.Outline.Rules

/-! Outlines of a text that goes on. The walk looks one token ahead and no further, so what is
typed at the end of a text can only add to the rules that were there. -/
namespace RuleOutline

open Text

variable {markers : Markers} {index rules : Nat}

theorem candidateName?_append {token : Token} {rest : List Token} (hRest : rest ≠ [])
    (more : List Token) : candidateName? token (rest ++ more) = candidateName? token rest := by
  cases rest with
  | nil => exact absurd rfl hRest
  | cons next rest => rfl

theorem eq_nil_of_candidateName?_ne {token : Token} {rest more : List Token}
    (h : candidateName? token (rest ++ more) ≠ candidateName? token rest) : rest = [] := by
  cases rest with
  | nil => rfl
  | cons next rest => exact absurd rfl h

theorem comment_of_groupAt? {token : Token} {group : Group}
    (h : groupAt? markers index rules token = some group) :
    group.comment = token ∧ token.kind = .lineComment := by
  unfold groupAt? at h
  split at h
  next hKind =>
    obtain ⟨marker, _, rfl⟩ := Option.map_eq_some_iff.mp h
    exact ⟨rfl, beq_iff_eq.mp hKind⟩
  next => cases h

theorem Walk.comment_mem {tokens : List Token} {outline : Outline}
    (h : Walk markers index rules tokens outline) :
    ∀ group ∈ outline.groups, group.comment ∈ tokens := by
  induction h with
  | done index rules => simp
  | @pass index rules token rest later hName tail ih =>
      intro group hGroup
      rcases List.mem_append.mp hGroup with hHere | hLater
      · rw [(comment_of_groupAt? (Option.mem_toList.mp hHere)).1]
        exact List.mem_cons_self ..
      · exact List.mem_cons_of_mem _ (ih group hLater)
  | unfinished hName hRest => simp
  | dropped hName hInner hSemicolon hColon tail ih =>
      intro group hGroup
      simp [ih group hGroup]
  | rule hName hInner hSemicolon hHeading hColon tail ih =>
      intro group hGroup
      simp [ih group hGroup]

/-- Without a semicolon there is no rule. -/
theorem Walk.rules_eq_nil {tokens : List Token} {outline : Outline}
    (h : Walk markers index rules tokens outline)
    (hTokens : ∀ token ∈ tokens, token.kind ≠ .semicolon) : outline.rules = [] := by
  rw [List.eq_nil_iff_forall_not_mem]
  intro rule hRule
  obtain ⟨before, after, rfl, _, hSemicolon, _⟩ := h.exists_split rule hRule
  exact hTokens rule.semicolon (by simp) hSemicolon

/-- What more tokens do to an outline: rules and groups may come behind those that are there, the
groups among these tokens, and no rules but with a semicolon. -/
structure Grows (outline whole : Outline) (more : List Token) : Prop where
  rules : ∃ later, whole.rules = outline.rules ++ later ∧
    ((∀ token ∈ more, token.kind ≠ .semicolon) → later = [])
  groups : ∃ later, whole.groups = outline.groups ++ later ∧
    ∀ group ∈ later, group.comment ∈ more

/-- What follows the first semicolon lies behind all that has none. -/
theorem mem_of_append_eq {rest more inner after : List Token} {semicolon : Token}
    (hSame : rest ++ more = inner ++ semicolon :: after)
    (hRest : ∀ other ∈ rest, other.kind ≠ .semicolon) (hSemicolon : semicolon.kind = .semicolon)
    {other : Token} (hOther : other ∈ after) : other ∈ more := by
  rcases List.append_eq_append_iff.mp hSame with ⟨part, rfl, hMore⟩ | ⟨part, hPart, hAfter⟩
  · rw [hMore]
    simp [hOther]
  · cases part with
    | nil =>
        rw [← List.nil_append more, ← hAfter]
        exact List.mem_cons_of_mem _ hOther
    | cons first part =>
        obtain ⟨rfl, _⟩ := List.cons.inj hAfter
        exact absurd hSemicolon (hRest semicolon (by simp [hPart]))

/-- A candidate that has no semicolon yet takes all that is there into itself. -/
theorem Walk.comment_mem_of_open {token : Token} {tokens rest more : List Token} {whole : Outline}
    (h : Walk markers index rules (token :: tokens) whole) (hTokens : tokens = rest ++ more)
    (hKind : token.kind = .identifier) (hRest : ∀ other ∈ rest, other.kind ≠ .semicolon)
    (hOpen : candidateName? token tokens = none → rest = []) :
    ∀ group ∈ whole.groups, group.comment ∈ more := by
  intro group hGroup
  cases h with
  | pass hName tail =>
      rcases List.mem_append.mp hGroup with hHere | hLater
      · have hComment := (comment_of_groupAt? (Option.mem_toList.mp hHere)).2
        rw [hKind] at hComment
        cases hComment
      · have hMem := tail.comment_mem group hLater
        rwa [hTokens, hOpen hName] at hMem
  | unfinished => cases hGroup
  | dropped hName hInner hSemicolon hColon tail =>
      exact mem_of_append_eq hTokens.symm hRest hSemicolon (tail.comment_mem group hGroup)
  | rule hName hInner hSemicolon hHeading hColon tail =>
      exact mem_of_append_eq hTokens.symm hRest hSemicolon (tail.comment_mem group hGroup)

theorem Walk.grows_of_open {token : Token} {rest more : List Token} {whole : Outline}
    (h : Walk markers index rules (token :: (rest ++ more)) whole)
    (hKind : token.kind = .identifier) (hRest : ∀ other ∈ rest, other.kind ≠ .semicolon)
    (hOpen : candidateName? token (rest ++ more) = none → rest = []) :
    Grows ⟨[], []⟩ whole more := by
  refine ⟨⟨whole.rules, rfl, fun hMore => h.rules_eq_nil ?_⟩,
    ⟨whole.groups, rfl, h.comment_mem_of_open rfl hKind hRest hOpen⟩⟩
  intro other hOther
  rcases List.mem_cons.mp hOther with rfl | hOther
  · rw [hKind]
    decide
  · exact (List.mem_append.mp hOther).elim (hRest other) (hMore other)

/-- The walk over more tokens comes to where the walk over fewer has ended, and goes on. -/
theorem Walk.append {tokens : List Token} {outline : Outline}
    (h : Walk markers index rules tokens outline) (more : List Token) :
    ∃ whole, Walk markers index rules (tokens ++ more) whole ∧ Grows outline whole more := by
  induction h with
  | done index rules =>
      have hMore := walk_outlineFrom markers index rules more
      exact ⟨_, hMore, ⟨_, rfl, hMore.rules_eq_nil⟩, ⟨_, rfl, hMore.comment_mem⟩⟩
  | @pass index rules token rest later hName tail ih =>
      obtain ⟨whole, hWhole, ⟨laterRules, hRules, hNone⟩, ⟨laterGroups, hGroups, hComments⟩⟩ := ih
      cases hMoreName : candidateName? token (rest ++ more) with
      | none =>
          refine ⟨_, .pass hMoreName hWhole, ⟨laterRules, hRules, hNone⟩,
            ⟨laterGroups, ?_, hComments⟩⟩
          simp only [hGroups, List.append_assoc]
      | some name =>
          -- A last word `fragment` gets its name from the first of the new tokens.
          obtain rfl : rest = [] := eq_nil_of_candidateName?_ne (by rw [hMoreName, hName]; simp)
          have hKind := kind_of_candidateName? hMoreName
          cases tail
          have hHere : groupAt? markers index rules token = none := by
            rw [groupAt?, hKind]
            rfl
          rw [hHere]
          have hMore := walk_outlineFrom markers index rules (token :: ([] ++ more))
          exact ⟨_, hMore, hMore.grows_of_open hKind (by simp) (fun _ => rfl)⟩
  | @unfinished index rules token rest name hName hRest =>
      have hMore := walk_outlineFrom markers index rules (token :: (rest ++ more))
      refine ⟨_, hMore, hMore.grows_of_open (kind_of_candidateName? hName) hRest ?_⟩
      intro hMoreName
      exact eq_nil_of_candidateName?_ne (by rw [hMoreName, hName]; simp)
  | @dropped index rules token semicolon inner after name later hName hInner hSemicolon hColon tail
      ih =>
      obtain ⟨whole, hWhole, hGrows⟩ := ih
      have hMoreName := (candidateName?_append (by simp) more).trans hName
      rw [List.append_assoc, List.cons_append] at hMoreName
      refine ⟨whole, ?_, hGrows⟩
      rw [List.cons_append, List.append_assoc, List.cons_append]
      exact .dropped hMoreName hInner hSemicolon hColon hWhole
  | @rule index rules token colon semicolon heading body after name later hName hInner hSemicolon
      hHeading hColon tail ih =>
      obtain ⟨whole, hWhole, ⟨laterRules, hRules, hNone⟩, hGroups⟩ := ih
      have hShift : heading ++ colon :: body ++ semicolon :: after ++ more =
          heading ++ colon :: body ++ semicolon :: (after ++ more) := by simp
      have hMoreName := (candidateName?_append (by simp) more).trans hName
      rw [hShift] at hMoreName
      have hMore := Walk.rule hMoreName hInner hSemicolon hHeading hColon hWhole
      rw [← hShift] at hMore
      refine ⟨_, hMore, ⟨laterRules, ?_, hNone⟩, hGroups⟩
      rw [hRules, List.cons_append]

theorem outlineOf_append (markers : Markers) (tokens more : List Token) :
    Grows (outlineOf markers tokens) (outlineOf markers (tokens ++ more)) more := by
  obtain ⟨whole, hWhole, hGrows⟩ := (walk_outlineFrom markers 0 0 tokens).append more
  rwa [hWhole.eq_outlineFrom] at hGrows

theorem getElem?_append_of_not_mem {α : Type} {kept last : List α} {i : Nat} {x : α}
    (hFound : (kept ++ last)[i]? = some x) (hLast : x ∉ last) (rest : List α) :
    (kept ++ rest)[i]? = some x := by
  by_cases hIndex : i < kept.length
  · rw [List.getElem?_append_left hIndex] at hFound ⊢
    exact hFound
  · rw [List.getElem?_append_right (Nat.le_of_not_lt hIndex)] at hFound
    exact absurd (List.mem_of_getElem? hFound) hLast

/-- What stays of a source when more is typed at its end. -/
structure Stable (before after : Document) : Prop where
  tokens : ∀ (i : Nat) (token : Token), before.tokens[i]? = some token →
    token.stop < before.source.utf8ByteSize → after.tokens[i]? = some token
  rules : before.outline.rules <+: after.outline.rules
  groups : ∀ (i : Nat) (group : Group), before.outline.groups[i]? = some group →
    group.comment.stop < before.source.utf8ByteSize → after.outline.groups[i]? = some group

/-- Typing at the end of a source changes neither the tokens nor the groups that do not touch the
end, and no rule. A rule holds its own tokens, so all that is read off it stays with it. -/
theorem document_stable (markers : Markers) (source more : String) :
    Stable (.read markers source) (.read markers (source ++ more)) := by
  obtain ⟨kept, last, rest, hTokens, hMore, hLast⟩ :=
    (tokenized_tokenize source).append more.toList
  rw [← String.toList_append] at hMore
  have hSource : tokenize (source ++ more) = kept ++ rest := hMore
  have hEnd : ∀ token, token.stop < source.utf8ByteSize → token ∉ last := by
    intro token hStop hMem
    rw [(hLast token hMem).2, utf8ByteSize_eq, Nat.zero_add] at hStop
    exact Nat.lt_irrefl _ hStop
  obtain ⟨⟨_, hRules, hNone⟩, ⟨lastGroups, hGroups, hComments⟩⟩ := outlineOf_append markers kept last
  obtain ⟨⟨laterRules, hMoreRules, _⟩, ⟨laterGroups, hMoreGroups, _⟩⟩ :=
    outlineOf_append markers kept rest
  rw [← hTokens] at hRules hGroups
  rw [← hSource] at hMoreRules hMoreGroups
  refine ⟨?_, ?_, ?_⟩
  · intro i token hToken hStop
    change (tokenize (source ++ more))[i]? = some token
    change (tokenize source)[i]? = some token at hToken
    rw [hTokens] at hToken
    rw [hSource]
    exact getElem?_append_of_not_mem hToken (hEnd token hStop) rest
  · change (outlineOf markers (tokenize source)).rules <+:
      (outlineOf markers (tokenize (source ++ more))).rules
    rw [hRules, hNone (fun token hMem => (hLast token hMem).1), List.append_nil, hMoreRules]
    exact List.prefix_append _ _
  · intro i group hGroup hStop
    change (outlineOf markers (tokenize (source ++ more))).groups[i]? = some group
    change (outlineOf markers (tokenize source)).groups[i]? = some group at hGroup
    rw [hGroups] at hGroup
    rw [hMoreGroups]
    have hKept : group ∉ lastGroups :=
      fun hMem => hEnd group.comment hStop (hComments group hMem)
    exact getElem?_append_of_not_mem hGroup hKept laterGroups

end RuleOutline
