import RuleOutline.Proofs.Token.Part
import RuleOutline.Proofs.Outline.Comments

/-! Rules by themselves. The text of a rule, from its first token to its semicolon, is a source
with that one rule, and the text of its body has the tokens of the body. -/
namespace RuleOutline

open Text

section Walk

variable {markers : Markers} {index rules : Nat} {tokens : List Token} {outline : Outline}

/-- All that makes a rule is in its own tokens: the walk over them finds the rule again. -/
theorem Walk.walk_rule (h : Walk markers index rules tokens outline) : ∀ rule ∈ outline.rules,
    Walk markers 0 0 (rule.tokens ++ [rule.semicolon]) ⟨[{ rule with index := 0 }], []⟩ := by
  induction h with
  | done index rules => simp
  | pass hName tail ih => exact ih
  | unfinished hName hRest => simp
  | dropped hName hInner hSemicolon hColon tail ih => exact ih
  | @rule index rules token colon semicolon heading body after name later hName hInner hSemicolon
      hHeading hColon tail ih =>
      intro rule hRule
      rcases List.mem_cons.mp hRule with rfl | hRule
      · -- The name is told by the tokens up to the semicolon, whatever comes after it.
        have hSplit : heading ++ colon :: body ++ semicolon :: after =
            heading ++ colon :: body ++ [semicolon] ++ after := by simp
        rw [hSplit, candidateName?_append (by simp)] at hName
        exact .rule hName hInner hSemicolon hHeading hColon (.done _ _)
      · exact ih rule hRule

/-- The body of a rule is what stands between its first colon and its semicolon. -/
theorem Walk.body_eq (h : Walk markers index rules tokens outline) : ∀ rule ∈ outline.rules,
    rule.body = (rule.tokens.dropWhile (·.kind != .colon)).tail := by
  induction h with
  | done index rules => simp
  | pass hName tail ih => exact ih
  | unfinished hName hRest => simp
  | dropped hName hInner hSemicolon hColon tail ih => exact ih
  | @rule index rules token colon semicolon heading body after name later hName hInner hSemicolon
      hHeading hColon tail ih =>
      intro rule hRule
      rcases List.mem_cons.mp hRule with rfl | hRule
      · have hFirst : ∀ other ∈ token :: heading, (other.kind != .colon) = true := by
          simpa [kind_of_candidateName? hName] using hHeading
        rw [Rule.tokens, ← List.cons_append, List.dropWhile_append_of_pos hFirst,
          List.dropWhile_cons_of_neg (by simp [hColon])]
        rfl
      · exact ih rule hRule

end Walk

section Span

variable {markers : Markers} {source : String} {rule : Rule}

theorem between_self (source : String) (offset : Nat) : between source offset offset = "" := by
  simp [between, String.Pos.Raw.extract]

theorem tokenize_empty : tokenize "" = [] :=
  tokensFrom_nil 0 1

/-- The tokens of the source behind the first colon of the rule and before its semicolon. -/
def bodyTokens (source : String) (rule : Rule) : List Token :=
  (((tokenize source).extract rule.index rule.stopIndex).dropWhile (·.kind != .colon)).tail

/-- The tokens without their places. -/
def spelling (tokens : List Token) : List (Kind × String) :=
  tokens.map fun token => (token.kind, token.text)

theorem spelling_relativeTo (tokens : List Token) (first : Token) :
    spelling (tokens.map (·.relativeTo first)) = spelling tokens := by
  rw [spelling, List.map_map]
  rfl

/-- Where a rule of a source stands among its tokens. -/
structure Rule.Stands (source : String) (rule : Rule) (before after : List Token) : Prop where
  tokens : tokenize source = before ++ (rule.tokens ++ rule.semicolon :: after)
  index : rule.index = before.length

variable {before after : List Token}

/-- The indices of a rule lead to its tokens. -/
theorem Rule.extract_eq {tokens : List Token}
    (hTokens : tokens = before ++ (rule.tokens ++ rule.semicolon :: after))
    (hIndex : rule.index = before.length) :
    tokens.extract rule.index rule.stopIndex = rule.tokens := by
  rw [hTokens, stopIndex, hIndex, List.extract_eq_take_drop, List.drop_left,
    Nat.add_sub_cancel_left, List.take_left]

theorem Rule.Stands.bodyTokens_eq (h : rule.Stands source before after)
    (hBody : rule.body = (rule.tokens.dropWhile (·.kind != .colon)).tail) :
    bodyTokens source rule = rule.body := by
  rw [bodyTokens, extract_eq h.tokens h.index, ← hBody]

theorem Rule.Stands.tokenize_span (h : rule.Stands source before after) :
    tokenize (between source rule.start rule.stop) =
      (rule.tokens ++ [rule.semicolon]).map (·.relativeTo rule.first) := by
  have hTokens := h.tokens
  rw [List.append_cons] at hTokens
  exact tokenize_between hTokens rfl List.getLast?_concat

theorem Rule.bodySpan_eq (rule : Rule) :
    (rule.body = [] ∧ rule.bodySpan = (rule.semicolon.start, rule.semicolon.start)) ∨
      ∃ first rest last, rule.body = first :: rest ∧ last ∈ rule.body.getLast? ∧
        rule.bodySpan = (first.start, last.stop) := by
  cases hBody : rule.body with
  | nil => exact .inl ⟨rfl, by simp [bodySpan, hBody]⟩
  | cons first rest =>
      have hLast := List.getLast?_eq_some_getLast (List.cons_ne_nil first rest)
      exact .inr ⟨first, rest, _, rfl, hLast, by simp [bodySpan, hBody, hLast]⟩

/-- The tokens of the body are those of its span. An empty body has an empty span. -/
theorem Rule.Stands.tokenize_bodySpan (h : rule.Stands source before after) :
    spelling (tokenize (between source rule.bodySpan.1 rule.bodySpan.2)) = spelling rule.body := by
  rcases rule.bodySpan_eq with ⟨hBody, hSpan⟩ | ⟨first, rest, last, hBody, hLast, hSpan⟩
  · rw [hSpan, hBody, between_self, tokenize_empty]
  · have hTokens : tokenize source =
        before ++ rule.first :: (rule.heading ++ [rule.colon]) ++
          (rule.body ++ rule.semicolon :: after) := by
      simp [h.tokens, Rule.tokens]
    have hFirst : first ∈ rule.body.head? := by rw [hBody]; rfl
    rw [hSpan, tokenize_between hTokens hFirst hLast, spelling_relativeTo]

/-- The span of the body lies behind the first token and before the semicolon. -/
theorem Rule.Stands.bodySpan_within (h : rule.Stands source before after) :
    rule.start < rule.bodySpan.1 ∧ rule.bodySpan.1 ≤ rule.bodySpan.2 ∧
      rule.bodySpan.2 < rule.stop := by
  have hPlace : ∀ token ∈ rule.tokens ++ [rule.semicolon], token.start < token.stop := by
    intro token hToken
    have hMem : token ∈ tokenize source := by
      rw [h.tokens, List.append_cons]
      exact List.mem_append_right _ (List.mem_append_left _ hToken)
    exact (place_of_mem_tokenize hMem).1
  have hOrder := (tokenized_tokenize source).pairwise
  rw [h.tokens] at hOrder
  obtain ⟨hTokens, -, hBefore⟩ := List.pairwise_append.mp (List.pairwise_append.mp hOrder).2.1
  obtain ⟨hFirst, hInner⟩ := List.pairwise_cons.mp hTokens
  obtain ⟨-, hColon, -⟩ := List.pairwise_append.mp hInner
  have hBody := hColon.of_cons
  have hHead := hPlace rule.first (by simp [Rule.tokens])
  have hEnd := hPlace rule.semicolon (by simp)
  rcases rule.bodySpan_eq with ⟨hEmpty, hSpan⟩ | ⟨first, rest, last, hSome, hLast, hSpan⟩
  · have hClose := hBefore rule.first (by simp [Rule.tokens]) rule.semicolon (by simp)
    rw [hSpan]
    exact ⟨Nat.lt_of_lt_of_le hHead hClose, Nat.le_refl _, hEnd⟩
  · have hLast := List.mem_of_getLast? hLast
    have hStart := hFirst first (by simp [hSome])
    have hStop := hBefore last (by simp [Rule.tokens, hLast]) rule.semicolon (by simp)
    have hOpen := hPlace first (by simp [Rule.tokens, hSome])
    have hShut := hPlace last (by simp [Rule.tokens, hLast])
    have hAcross : first.start ≤ last.stop := by
      rw [hSome] at hBody hLast
      rcases List.mem_cons.mp hLast with rfl | hLast
      · exact Nat.le_of_lt hOpen
      · have hPair := (List.pairwise_cons.mp hBody).1 last hLast
        omega
    rw [hSpan]
    exact ⟨Nat.lt_of_lt_of_le hHead hStart, hAcross, Nat.lt_of_le_of_lt hStop hEnd⟩

/-- A rule that is closed in itself. Its span is not empty and lies in the source; the text of the
span has the rule for its outline; and the span of the body lies within, before the semicolon, and
has the tokens of the body. -/
structure SelfContained (markers : Markers) (source : String) (rule : Rule) : Prop where
  proper : rule.start < rule.stop
  inside : rule.stop ≤ source.utf8ByteSize
  alone : ∃ same : Rule,
    outlineOf markers (tokenize (between source rule.start rule.stop)) = ⟨[same], []⟩ ∧
      same.index = 0 ∧ same.isLexerRule = rule.isLexerRule ∧ same.content = rule.content
  within : rule.start < rule.bodySpan.1 ∧ rule.bodySpan.1 ≤ rule.bodySpan.2 ∧
    rule.bodySpan.2 < rule.stop
  body : spelling (tokenize (between source rule.bodySpan.1 rule.bodySpan.2)) =
    spelling (bodyTokens source rule)
  empty : bodyTokens source rule = [] →
    rule.bodySpan = (rule.semicolon.start, rule.semicolon.start)

/-- Every rule of every source is closed in itself. -/
theorem rule_selfContained (hRule : rule ∈ (outlineOf markers (tokenize source)).rules) :
    SelfContained markers source rule := by
  have hWalk := walk_outlineOf markers (tokenize source)
  obtain ⟨before, after, hTokens, hIndex, -⟩ := hWalk.exists_split rule hRule
  have hStands : rule.Stands source before after := ⟨hTokens, hIndex.trans (Nat.zero_add _)⟩
  have hBody := hStands.bodyTokens_eq (hWalk.body_eq rule hRule)
  have hWithin := hStands.bodySpan_within
  refine ⟨by omega, ?_, ?_, hWithin, ?_, ?_⟩
  · have hMem : rule.semicolon ∈ tokenize source := by simp [hTokens]
    exact (place_of_mem_tokenize hMem).2
  · have hKind : ∀ token : Token, (token.relativeTo rule.first).kind = token.kind := fun _ => rfl
    have hAlone := (hWalk.walk_rule rule hRule).move hKind (fun _ _ _ => rfl) 0 0
    rw [← hStands.tokenize_span] at hAlone
    refine ⟨_, hAlone.eq_outlineFrom.symm, rfl, rfl, ?_⟩
    exact Rule.content_move hKind (fun _ => rfl) 0 { rule with index := 0 }
  · rw [hStands.tokenize_bodySpan, hBody]
  · intro hEmpty
    rw [hBody] at hEmpty
    simp [Rule.bodySpan, hEmpty]

theorem rule_selfContained_marker :
    ∃ rule ∈ (outlineOf .standard (tokenize "// $<g\nr : é // $>\n | r 'x' \x7b\x7d ;")).rules,
      rule.name = "r" ∧
        SelfContained .standard "// $<g\nr : é // $>\n | r 'x' \x7b\x7d ;" rule := by
  have hNames : (outlineOf .standard
      (tokenize "// $<g\nr : é // $>\n | r 'x' \x7b\x7d ;")).rules.map (·.name) = ["r"] := by
    decide +kernel
  obtain ⟨rule, rest, hRules, hName, -⟩ := List.map_eq_cons_iff.mp hNames
  have hRule : rule ∈ (outlineOf .standard
      (tokenize "// $<g\nr : é // $>\n | r 'x' \x7b\x7d ;")).rules := by
    rw [hRules]
    exact List.mem_cons_self ..
  exact ⟨rule, hRule, hName, rule_selfContained hRule⟩

end Span

end RuleOutline
