import RuleOutline.Proofs.Token.Layout

/-! Words: texts that are a token each. Written one after the other with white space between them
they are the same tokens again, as long as each of them ends where it does whatever follows. -/
namespace RuleOutline

open Text

/-- A text that is a single token by itself. -/
structure Word where
  kind : Kind
  text : String
  alone : ∃ token, tokenize text = [token] ∧ token.kind = kind ∧ token.text = text

theorem Word.lexeme (word : Word) : Lexeme word.kind word.text.toList [] := by
  obtain ⟨token, hTokens, hKind, hText⟩ := word.alone
  have hMem : token ∈ tokenize word.text := by
    rw [hTokens]
    exact List.mem_singleton_self token
  obtain ⟨before, after, hSource, -, -, -, hLexeme⟩ := exists_split_of_mem_tokenize hMem
  rw [hText] at hSource hLexeme
  have hLength := congrArg List.length hSource
  simp only [List.length_append] at hLength
  obtain rfl : after = [] := List.length_eq_zero_iff.mp (by omega)
  rwa [hKind] at hLexeme

def Word.ofLexeme {kind : Kind} {text : String} (h : Lexeme kind text.toList []) : Word where
  kind := kind
  text := text
  alone := by
    have hTokens := tokensFrom_lexeme 0 1 h
    rw [List.append_nil, tokensFrom_nil, String.ofList_toList] at hTokens
    exact ⟨_, hTokens, rfl, rfl⟩

/-- White space after the word is not taken into it: it is no block and no comment, and a literal
has its closing quote. -/
structure Word.IsClosed (word : Word) : Prop where
  visible : word.kind.isOpaque = false
  quoted : word.kind = .literal →
    ∃ quote body, QuotedBody quote body ∧ word.text.toList = quote :: (body ++ [quote])

theorem Word.isClosed_of_kind {word : Word} (hVisible : word.kind.isOpaque = false)
    (hLiteral : word.kind ≠ .literal) : word.IsClosed :=
  ⟨hVisible, fun hKind => absurd hKind hLiteral⟩

/-- White space, and the parenthesis that closes a group, which no closed word takes in either. -/
def endsWords (c : Char) : Bool :=
  isSkipped c || c == ')'

theorem eq_false_of_endsWords {p : Char → Bool} {c : Char} (h : endsWords c = true)
    (hSpaces : [' ', '\t', '\n', '\r', '\x0c'].all (fun d => !p d) = true)
    (hParen : p ')' = false) : p c = false := by
  cases hc : p c with
  | false => rfl
  | true =>
      rw [endsWords, Reading.isSkipped_eq_false hc hSpaces, Bool.false_or, beq_iff_eq] at h
      rw [h, hParen] at hc
      cases hc

theorem Word.IsClosed.lexeme {word : Word} (h : word.IsClosed) {after : List Char}
    (hAfter : ∀ c ∈ after.head?, endsWords c = true) :
    Lexeme word.kind word.text.toList after := by
  obtain ⟨hVisible, hQuoted⟩ := h
  have hWord := word.lexeme
  generalize word.kind = kind, word.text.toList = text at *
  cases hWord with
  | identifier hHead hTail =>
      apply Lexeme.identifier hHead hTail
      exact fun c hc => eq_false_of_endsWords (hAfter c hc) (by decide) (by decide)
  | number hDigits =>
      apply Lexeme.number hDigits
      exact fun c hc =>
        eq_false_of_endsWords (p := Char.isDigit) (hAfter c hc) (by decide) (by decide)
  | mark _ hMark => exact .mark after hMark
  | lineComment => cases hVisible
  | blockComment => cases hVisible
  | block => cases hVisible
  | literal hLiteral =>
      -- A literal by itself may end with the text alone; here its quote ends it anywhere.
      obtain ⟨quote, body, hBody, hText⟩ := hQuoted rfl
      apply Lexeme.literal
      cases hLiteral with
      | intro hQuote =>
          obtain ⟨rfl, hText⟩ := List.cons.inj hText
          rw [hText]
          exact .intro hQuote hBody (.quote after)
  | pair _ hPair => exact .pair after hPair
  | operator hChar =>
      apply Lexeme.operator hChar
      · intro d hd hPair
        have hSecond : ∀ pair ∈ operatorPairs, endsWords pair.2 = false := by decide
        have hEnd := hAfter d hd
        rw [hSecond _ hPair] at hEnd
        cases hEnd
      · intro _
        constructor
        · intro hSlash
          cases hAfter '/' hSlash
        · intro hStar
          cases hAfter '*' hStar
  | unknown _ hSkip hBegins hDigit hMark hOperator hOpening =>
      exact .unknown after hSkip hBegins hDigit hMark hOperator hOpening

section Spells

/-- The tokens are the words, wherever they stand. -/
def Spells (tokens : List Token) (words : List Word) : Prop :=
  tokens.map (fun token => (token.kind, token.text)) =
    words.map fun word => (word.kind, word.text)

variable {tokens later : List Token} {word : Word} {first second words : List Word}

theorem Spells.eq_nil (h : Spells tokens []) : tokens = [] :=
  List.map_eq_nil_iff.mp h

theorem Spells.append (h : Spells tokens first) (hLater : Spells later second) :
    Spells (tokens ++ later) (first ++ second) := by
  rw [Spells, List.map_append, List.map_append]
  exact congr (congrArg _ h) hLater

theorem Spells.of_append (h : Spells tokens (first ++ second)) :
    ∃ before after, tokens = before ++ after ∧ Spells before first ∧ Spells after second := by
  rw [Spells, List.map_append] at h
  exact List.map_eq_append_iff.mp h

theorem Spells.of_cons (h : Spells tokens (word :: words)) :
    ∃ token rest, tokens = token :: rest ∧ token.kind = word.kind ∧ token.text = word.text ∧
      Spells rest words := by
  obtain ⟨token, rest, rfl, hToken, hRest⟩ := List.map_eq_cons_iff.mp h
  exact ⟨token, rest, rfl, congrArg Prod.fst hToken, congrArg Prod.snd hToken, hRest⟩

theorem Spells.of_singleton (h : Spells tokens [word]) :
    ∃ token, tokens = [token] ∧ token.kind = word.kind ∧ token.text = word.text := by
  obtain ⟨token, rest, rfl, hKind, hText, hRest⟩ := h.of_cons
  obtain rfl := hRest.eq_nil
  exact ⟨token, rfl, hKind, hText⟩

theorem Spells.kinds (h : Spells tokens words) : tokens.map (·.kind) = words.map (·.kind) := by
  simpa [Function.comp_def] using congrArg (List.map Prod.fst) h

theorem Spells.texts (h : Spells tokens words) : tokens.map (·.text) = words.map (·.text) := by
  simpa [Function.comp_def] using congrArg (List.map Prod.snd) h

theorem Spells.length_eq (h : Spells tokens words) : tokens.length = words.length := by
  simpa using congrArg List.length h

theorem Spells.dropLast (h : Spells tokens words) : Spells tokens.dropLast words.dropLast := by
  rw [Spells, List.map_dropLast, List.map_dropLast]
  exact congrArg List.dropLast h

/-- What is asked of kinds and texts holds of the tokens as it does of the words. -/
theorem Spells.forall_iff (h : Spells tokens words) {p : Kind → String → Prop} :
    (∀ token ∈ tokens, p token.kind token.text) ↔ ∀ word ∈ words, p word.kind word.text := by
  have hPairs : (∀ pair ∈ tokens.map fun token => (token.kind, token.text), p pair.1 pair.2) ↔
      ∀ pair ∈ words.map fun word => (word.kind, word.text), p pair.1 pair.2 := by
    rw [h]
  rwa [List.forall_mem_map, List.forall_mem_map] at hPairs

end Spells

section Spaced

/-- Words with a space between any two. -/
def spaced (words : List Word) : String :=
  " ".intercalate (words.map (·.text))

theorem toList_spaced_cons (word : Word) {words : List Word} (h : words ≠ []) :
    (spaced (word :: words)).toList = word.text.toList ++ ' ' :: (spaced words).toList := by
  rw [spaced, List.map_cons, String.intercalate_cons_of_ne_nil (by simpa using h)]
  simp [spaced]

/-- Spaced words as tokens. -/
def spacedTokens (offset line : Nat) : List Word → List Token
  | [] => []
  | word :: words =>
    let stop := offset + byteLength word.text.toList
    ⟨word.kind, word.text, offset, stop, line⟩ ::
      spacedTokens (stop + 1) (line + lineFeeds word.text.toList) words

variable {offset line : Nat}

theorem spells_spacedTokens (words : List Word) :
    Spells (spacedTokens offset line words) words := by
  induction words generalizing offset line with
  | nil => rfl
  | cons word words ih =>
      have hRest := @ih (offset + byteLength word.text.toList + 1)
        (line + lineFeeds word.text.toList)
      rw [Spells] at hRest
      rw [Spells, spacedTokens, List.map_cons, List.map_cons, hRest]

theorem start_of_mem_head? {words : List Word} {token : Token}
    (h : token ∈ (spacedTokens offset line words).head?) :
    token.start = offset ∧ token.line = line := by
  cases words with
  | nil => cases h
  | cons word words =>
      obtain rfl := Option.some.inj h
      exact ⟨rfl, rfl⟩

theorem exists_last_token (words : List Word) (last : Word) :
    ∃ before token, spacedTokens offset line (words ++ [last]) = before ++ [token] ∧
      token.stop = offset + byteLength (spaced (words ++ [last])).toList := by
  induction words generalizing offset line with
  | nil => exact ⟨[], _, rfl, rfl⟩
  | cons word words ih =>
      obtain ⟨before, token, hTokens, hStop⟩ := @ih (offset + byteLength word.text.toList + 1)
        (line + lineFeeds word.text.toList)
      refine ⟨⟨word.kind, word.text, offset, offset + byteLength word.text.toList, line⟩ :: before,
        token, ?_, ?_⟩
      · rw [List.cons_append, spacedTokens, hTokens, List.cons_append]
      · rw [hStop, List.cons_append, toList_spaced_cons word (by simp), byteLength_append,
          byteLength_cons, ← Nat.add_assoc, ← Nat.add_assoc]
        rfl

/-- Words one after the other are laid out as they are. Only what follows the last of them bears
on where that ends. -/
theorem tokenized_spaced {words : List Word} {last : Word} {after : List Char}
    {later : List Token} (hWords : ∀ word ∈ words, word.IsClosed)
    (hLast : Lexeme last.kind last.text.toList after)
    (hAfter : Tokenized (offset + byteLength (spaced (words ++ [last])).toList)
      (line + lineFeeds (spaced (words ++ [last])).toList) after later) :
    Tokenized offset line ((spaced (words ++ [last])).toList ++ after)
      (spacedTokens offset line (words ++ [last]) ++ later) := by
  induction words generalizing offset line with
  | nil =>
      -- The last word need not be closed: it is known to end before what follows it.
      have hToken := Tokenized.token hLast hAfter
      rwa [String.ofList_toList] at hToken
  | cons word words ih =>
      obtain ⟨hWord, hWords⟩ := List.forall_mem_cons.mp hWords
      have hMore : words ++ [last] ≠ [] := by simp
      have hText := toList_spaced_cons word hMore
      rw [List.cons_append, hText, byteLength_append, byteLength_cons, lineFeeds_append,
        lineFeeds_cons, ← Nat.add_assoc, ← Nat.add_assoc, ← Nat.add_assoc, ← Nat.add_assoc]
        at hAfter
      have hSpace := Tokenized.skip (c := ' ') rfl (ih hWords hAfter)
      have hToken := Tokenized.token (hWord.lexeme (by simp [endsWords, isSkipped])) hSpace
      rwa [String.ofList_toList, ← List.cons_append, ← List.append_assoc, ← hText] at hToken

end Spaced

end RuleOutline
