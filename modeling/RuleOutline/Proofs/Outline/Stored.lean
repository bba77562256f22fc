import RuleOutline.Proofs.Outline.Reread
import RuleOutline.Proofs.Outline.Span
import RuleOutline.Proofs.Token.Returns

/-! Alternatives as a snapshot stores them, with a space between any two of their texts. What stood
between the tokens in the source is lost there, and still they are found again: only a literal that
has no closing quote would take in what stands behind it. -/
namespace RuleOutline

open Text

section Words

variable {kind : Kind} {text rest more gap after : List Char} {words : List Word} {tokens : List Token}
  {offset line : Nat}

theorem Lexeme.gap_eq_nil (h : Lexeme kind text rest) (hGap : IsGap gap)
    (hSame : text ++ more = gap ++ after) : gap = [] := by
  obtain ⟨c, tail, reading, rfl, hStart, -⟩ := h.reads
  cases gap with
  | nil => rfl
  | cons d gap =>
      obtain rfl := (List.cons.inj hSame).1
      have hNone := start?_eq_none_iff.mpr (hGap c (List.mem_cons_self ..))
      rw [hStart] at hNone
      cases hNone

/-- A literal that ends in front of a space ends with its quote. -/
theorem Lexeme.isQuoted {text : String} (h : Lexeme .literal text.toList (' ' :: rest)) :
    IsQuoted text := by
  have hLiteral := h.isLiteral
  generalize hText : text.toList = cs at hLiteral
  cases hLiteral with
  | @intro quote body ending _ _ hBody hEnd =>
      cases hEnd with
      | quote => exact ⟨quote, body, hBody, hText⟩
      | lineEnd hBreak => cases hBreak

theorem Tokenized.of_skip {c : Char} {cs : List Char} (h : Tokenized offset line (c :: cs) tokens)
    (hSkip : isSkipped c = true) :
    Tokenized (offset + c.utf8Size) (line + if c = '\n' then 1 else 0) cs tokens := by
  rw [h.eq_tokensFrom, tokensFrom_skip offset line hSkip]
  exact tokenized_tokensFrom _ _ cs

/-- Of spaced words that are read as they are, all literals but the last word are closed. -/
theorem Spells.isQuoted_of_spaced (h : Spells tokens words)
    (hTokens : Tokenized offset line (spaced words).toList tokens) :
    ∀ word ∈ words.dropLast, word.kind = .literal → IsQuoted word.text := by
  induction words generalizing offset line tokens with
  | nil => simp
  | cons word words ih =>
      by_cases hNil : words = []
      · simp [hNil]
      · obtain ⟨token, later, rfl, hKind, hText, hLater⟩ := h.of_cons
        rw [toList_spaced_cons word hNil] at hTokens
        obtain ⟨gap, rest, hSplit, hGap, -, -, hLexeme, hRest⟩ := hTokens.exists_gap
        obtain rfl : gap = [] := word.lexeme.gap_eq_nil hGap hSplit
        rw [hText, List.nil_append] at hSplit
        obtain rfl := List.append_cancel_left hSplit
        rw [List.dropLast_cons_of_ne_nil hNil, List.forall_mem_cons]
        refine ⟨?_, ih hLater (hRest.of_skip rfl)⟩
        intro hLiteral
        rw [hKind, hLiteral, hText] at hLexeme
        exact hLexeme.isQuoted

/-- Spaced words are read as they are just if all literals but the last word are closed. -/
theorem spells_tokenize_spaced_iff (hVisible : ∀ word ∈ words, word.kind.isOpaque = false) :
    Spells (tokenize (spaced words)) words ↔
      ∀ word ∈ words.dropLast, word.kind = .literal → IsQuoted word.text := by
  constructor
  · intro h
    exact h.isQuoted_of_spaced (tokenized_tokenize (spaced words))
  · intro hQuoted
    rcases List.eq_nil_or_concat' words with rfl | ⟨front, last, rfl⟩
    · have hNone : spaced [] = "" := rfl
      rw [hNone, tokenize_empty]
      rfl
    · rw [List.dropLast_concat] at hQuoted
      have hFront : ∀ word ∈ front, word.IsClosed := fun word hWord =>
        ⟨hVisible word (by simp [hWord]), hQuoted word hWord⟩
      have hTokens := @tokenized_spaced 0 1 front last [] [] hFront last.lexeme (.nil _ _)
      rw [List.append_nil, List.append_nil] at hTokens
      rw [tokenize, ← hTokens.eq_tokensFrom]
      exact spells_spacedTokens _

end Words

section Stored

variable {source : String} {tokens : List Token}

/-- Tokens of a source that are no blocks and no comments are found again in their texts with spaces
between them just if all literals but the last token are closed. -/
theorem spelling_tokenize_text_iff (hTokens : tokens ⊆ tokenize source)
    (hVisible : ∀ token ∈ tokens, token.kind.isOpaque = false) :
    spelling (tokenize (Alternative.text (tokens.map (·.text)))) = spelling tokens ↔
      ∀ token ∈ tokens.dropLast, token.kind = .literal → IsQuoted token.text := by
  obtain ⟨words, hWords⟩ := exists_spells hTokens
  have hText : Alternative.text (tokens.map (·.text)) = spaced words := by
    rw [hWords.texts]
    rfl
  have hWordsVisible : ∀ word ∈ words, word.kind.isOpaque = false :=
    (hWords.forall_iff (p := fun kind _ => kind.isOpaque = false)).mp hVisible
  have hQuoted := hWords.dropLast.forall_iff (p := fun kind text => kind = .literal → IsQuoted text)
  rw [hText, hQuoted, ← spells_tokenize_spaced_iff hWordsVisible, Spells, ← hWords]
  rfl

/-- In the snapshot a rule keeps its place, and its alternatives are stored in theirs. -/
theorem exists_view {document : Document} {i : Nat} {rule : Rule}
    (hRule : document.outline.rules[i]? = some rule) :
    ∃ view, document.snapshot.rules[i]? = some view ∧
      view.alternatives = rule.alternatives.map fun alternative =>
        " ".intercalate (alternative.map (·.text)) := by
  refine ⟨RuleView.of document.lines rule, ?_, ?_⟩
  · rw [Document.snapshot, Snapshot.of, List.getElem?_map, hRule, Option.map_some]
  · rw [RuleView.of, Rule.alternativeTexts, List.map_map]
    rfl

/-- The text that the snapshot of a source stores for an alternative whose literals are closed is
read as the tokens of the alternative. -/
theorem alternative_reread (markers : Markers) (source : String) {i j : Nat} {rule : Rule}
    {alternative : List Token}
    (hRule : (outlineOf markers (tokenize source)).rules[i]? = some rule)
    (hAlternative : rule.alternatives[j]? = some alternative)
    (hQuoted : ∀ token ∈ alternative, token.kind = .literal → IsQuoted token.text) :
    ∃ view text, (Document.read markers source).snapshot.rules[i]? = some view ∧
      view.alternatives[j]? = some text ∧
        text = " ".intercalate (alternative.map (·.text)) ∧
          spelling (tokenize text) = spelling alternative := by
  obtain ⟨view, hView, hTexts⟩ := @exists_view (.read markers source) i rule hRule
  have hTokens := alternative_subset (List.mem_of_getElem? hRule) (List.mem_of_getElem? hAlternative)
  have hVisible : ∀ token ∈ alternative, token.kind.isOpaque = false := fun _ hToken =>
    (Rule.mem_body_of_mem_alternative (List.mem_of_getElem? hAlternative) hToken).2
  refine ⟨view, _, hView, ?_, rfl, ?_⟩
  · rw [hTexts, List.getElem?_map, hAlternative, Option.map_some]
  · apply (spelling_tokenize_text_iff hTokens hVisible).mpr
    exact fun token hToken => hQuoted token (List.mem_of_mem_dropLast hToken)

/-- Tokens with nothing between them but a comment or a block, and a literal with an escape in it. -/
def crowded : String :=
  "e : a/* - */->'\\' ;'\x7bx\x7db | c ;"

theorem alternative_reread_crowded :
    ∃ rule alternative,
      (outlineOf .standard (tokenize crowded)).rules[0]? = some rule ∧
      rule.alternatives[0]? = some alternative ∧
      (∀ token ∈ alternative, token.kind = .literal → IsQuoted token.text) ∧
      ∃ view text,
        (Document.read .standard crowded).snapshot.rules[0]? = some view ∧
        view.alternatives[0]? = some text ∧
          text = " ".intercalate (alternative.map (·.text)) ∧
            spelling (tokenize text) = spelling alternative := by
  have hFacts : (outlineOf .standard (tokenize crowded)).rules.map
      (fun rule => rule.alternatives.map spelling) =
      [[[(.identifier, "a"), (.operator, "->"), (.literal, "'\\' ;'"), (.identifier, "b")],
        [(.identifier, "c")]]] := by
    decide +kernel
  obtain ⟨rule, rest, hRules, hRule, -⟩ := List.map_eq_cons_iff.mp hFacts
  obtain ⟨alternative, others, hAlternatives, hTexts, -⟩ := List.map_eq_cons_iff.mp hRule
  have hFirst : (outlineOf .standard (tokenize crowded)).rules[0]? = some rule := by
    rw [hRules]
    rfl
  have hAlternative : rule.alternatives[0]? = some alternative := by
    rw [hAlternatives]
    rfl
  have hQuoted : ∀ token ∈ alternative, token.kind = .literal → IsQuoted token.text := by
    intro token hToken hLiteral
    have hMem : (token.kind, token.text) ∈ spelling alternative := List.mem_map_of_mem hToken
    rw [hTexts, hLiteral] at hMem
    obtain hText : token.text = "'\\' ;'" := by simpa using hMem
    rw [hText]
    exact ⟨'\'', ['\\', '\'', ' ', ';'], .escaped (.plain (by decide) (by decide) (by decide)
      (.plain (by decide) (by decide) (by decide) .nil)), rfl⟩
  exact ⟨rule, alternative, hFirst, hAlternative, hQuoted,
    alternative_reread .standard _ hFirst hAlternative hQuoted⟩

end Stored

end RuleOutline
