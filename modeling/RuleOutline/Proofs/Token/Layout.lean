import RuleOutline.Token
import RuleOutline.Proofs.Text.Bytes
import RuleOutline.Proofs.Token.Grammar

/-! How tokens lie on a text. The tokens of a text are the one list of lexemes in the order of
the text that leaves nothing but white space between them. -/
namespace RuleOutline

open Text

/-- The tokens of a text that begins at an offset on a line: it is white space and lexemes in
turn, and each lexeme is a token with its place. -/
inductive Tokenized : Nat → Nat → List Char → List Token → Prop where
  | nil (offset line : Nat) : Tokenized offset line [] []
  | skip {offset line : Nat} {c : Char} {cs : List Char} {tokens : List Token}
      (hSkip : isSkipped c = true)
      (tail : Tokenized (offset + c.utf8Size) (line + if c = '\n' then 1 else 0) cs tokens) :
      Tokenized offset line (c :: cs) tokens
  | token {offset line : Nat} {kind : Kind} {text after : List Char} {tokens : List Token}
      (hLexeme : Lexeme kind text after)
      (tail : Tokenized (offset + byteLength text) (line + lineFeeds text) after tokens) :
      Tokenized offset line (text ++ after)
        (⟨kind, .ofList text, offset, offset + byteLength text, line⟩ :: tokens)

/-- White space and nothing else. -/
def IsGap (cs : List Char) : Prop :=
  ∀ c ∈ cs, isSkipped c = true

theorem utf8Size_of_isSkipped {c : Char} (h : isSkipped c = true) : c.utf8Size = 1 := by
  simp only [isSkipped, Bool.or_eq_true, beq_iff_eq] at h
  rcases h with (((rfl | rfl) | rfl) | rfl) | rfl <;> rfl

/-- White space takes one byte a character. -/
theorem IsGap.byteLength_eq {cs : List Char} (h : IsGap cs) : byteLength cs = cs.length := by
  induction cs with
  | nil => rfl
  | cons c cs ih =>
      obtain ⟨hSkip, hRest⟩ := List.forall_mem_cons.mp h
      rw [byteLength_cons, utf8Size_of_isSkipped hSkip, ih hRest, List.length_cons, Nat.add_comm]

theorem start?_eq_none_iff {c : Char} : Reading.start? c = none ↔ isSkipped c = true := by
  unfold Reading.start?
  cases isSkipped c <;> simp
  split
  · simp
  · split <;> simp

theorem tokensFrom_nil (offset line : Nat) : tokensFrom offset line [] = [] := by
  rw [tokensFrom]

theorem tokensFrom_skip (offset line : Nat) {c : Char} (hSkip : isSkipped c = true)
    (cs : List Char) :
    tokensFrom offset line (c :: cs) =
      tokensFrom (offset + c.utf8Size) (line + if c = '\n' then 1 else 0) cs := by
  rw [tokensFrom, start?_eq_none_iff.mpr hSkip]

/-- A lexeme at the beginning of a text is its first token. -/
theorem tokensFrom_lexeme (offset line : Nat) {kind : Kind} {text after : List Char}
    (h : Lexeme kind text after) :
    tokensFrom offset line (text ++ after) =
      ⟨kind, .ofList text, offset, offset + byteLength text, line⟩ ::
        tokensFrom (offset + byteLength text) (line + lineFeeds text) after := by
  obtain ⟨c, tail, reading, rfl, hStart, hRun⟩ := h.reads
  rw [List.cons_append, tokensFrom, hStart]
  simp only [hRun]

/-- The tokenizer finds tokens as they are laid out. -/
theorem tokenized_tokensFrom (offset line : Nat) (cs : List Char) :
    Tokenized offset line cs (tokensFrom offset line cs) := by
  induction hLength : cs.length using Nat.strongRecOn generalizing offset line cs with
  | ind length ih =>
      cases cs with
      | nil =>
          rw [tokensFrom_nil]
          exact .nil offset line
      | cons c cs =>
          simp only [List.length_cons] at hLength
          cases hSkip : isSkipped c with
          | true =>
              rw [tokensFrom_skip offset line hSkip]
              exact .skip hSkip (ih cs.length (by omega) _ _ cs rfl)
          | false =>
              obtain ⟨kind, tail, after, rfl, hLexeme⟩ := exists_lexeme hSkip cs
              simp only [List.length_append] at hLength
              rw [← List.cons_append, tokensFrom_lexeme offset line hLexeme]
              exact .token hLexeme (ih after.length (by omega) _ _ after rfl)

/-- There is no other way to lay tokens out. -/
theorem Tokenized.eq_tokensFrom {offset line : Nat} {cs : List Char} {tokens : List Token}
    (h : Tokenized offset line cs tokens) : tokens = tokensFrom offset line cs := by
  induction h with
  | nil offset line => rw [tokensFrom_nil]
  | skip hSkip tail ih => rw [tokensFrom_skip _ _ hSkip, ih]
  | token hLexeme tail ih => rw [tokensFrom_lexeme _ _ hLexeme, ih]

/-- Each token is found in the text at its place, and is a lexeme in front of what follows. -/
theorem Tokenized.exists_split {offset line : Nat} {cs : List Char} {tokens : List Token}
    (h : Tokenized offset line cs tokens) {token : Token} (hMem : token ∈ tokens) :
    ∃ before after, cs = before ++ token.text.toList ++ after ∧
      token.start = offset + byteLength before ∧
      token.stop = token.start + byteLength token.text.toList ∧
      token.line = line + lineFeeds before ∧ Lexeme token.kind token.text.toList after := by
  induction h with
  | nil => cases hMem
  | @skip offset line c cs tokens hSkip tail ih =>
      obtain ⟨before, after, rfl, hStart, hStop, hLine, hLexeme⟩ := ih hMem
      refine ⟨c :: before, after, rfl, ?_, hStop, ?_, hLexeme⟩
      · rw [hStart, byteLength_cons, Nat.add_assoc]
      · rw [hLine, lineFeeds_cons, Nat.add_assoc]
  | @token offset line kind text rest tokens hLexeme tail ih =>
      rcases List.mem_cons.mp hMem with rfl | hMem
      · exact ⟨[], rest, by simp, rfl, by simp, rfl, by simpa using hLexeme⟩
      · obtain ⟨before, after, rfl, hStart, hStop, hLine, hLexeme⟩ := ih hMem
        refine ⟨text ++ before, after, by simp, ?_, hStop, ?_, hLexeme⟩
        · rw [hStart, byteLength_append, Nat.add_assoc]
        · rw [hLine, lineFeeds_append, Nat.add_assoc]

/-- In front of the first token there is a gap of white space, and behind it the next ones. -/
theorem Tokenized.exists_gap {offset line : Nat} {cs : List Char} {token : Token}
    {tokens : List Token} (h : Tokenized offset line cs (token :: tokens)) :
    ∃ gap rest, cs = gap ++ (token.text.toList ++ rest) ∧ IsGap gap ∧
      token.start = offset + byteLength gap ∧ token.line = line + lineFeeds gap ∧
      Lexeme token.kind token.text.toList rest ∧
      Tokenized token.stop (token.line + lineFeeds token.text.toList) rest tokens := by
  generalize hTokens : token :: tokens = all at h
  induction h with
  | nil => cases hTokens
  | @skip offset line c cs all hSkip tail ih =>
      obtain ⟨gap, rest, rfl, hGap, hStart, hLine, hLexeme, hRest⟩ := ih hTokens
      refine ⟨c :: gap, rest, rfl, List.forall_mem_cons.mpr ⟨hSkip, hGap⟩, ?_, ?_, hLexeme, hRest⟩
      · rw [hStart, byteLength_cons, Nat.add_assoc]
      · rw [hLine, lineFeeds_cons, Nat.add_assoc]
  | @token offset line kind text rest all hLexeme tail ih =>
      obtain ⟨rfl, rfl⟩ := List.cons.inj hTokens
      exact ⟨[], rest, by simp, nofun, rfl, rfl, by simpa using hLexeme, by simpa using tail⟩

/-- A text without tokens is a gap. -/
theorem Tokenized.isGap {offset line : Nat} {cs : List Char} (h : Tokenized offset line cs []) :
    IsGap cs := by
  generalize hTokens : ([] : List Token) = tokens at h
  induction h with
  | nil => exact nofun
  | skip hSkip tail ih => exact List.forall_mem_cons.mpr ⟨hSkip, ih hTokens⟩
  | token => cases hTokens

/-- Every token ends before the next ones start. -/
theorem Tokenized.pairwise {offset line : Nat} {cs : List Char} {tokens : List Token}
    (h : Tokenized offset line cs tokens) :
    tokens.Pairwise (fun first second => first.stop ≤ second.start) := by
  induction h with
  | nil => exact List.Pairwise.nil
  | skip hSkip tail ih => exact ih
  | token hLexeme tail ih =>
      refine List.pairwise_cons.mpr ⟨?_, ih⟩
      intro token hMem
      obtain ⟨before, after, -, hStart, -⟩ := tail.exists_split hMem
      rw [hStart]
      exact Nat.le_add_right _ _

theorem Lexeme.ne_nil {kind : Kind} {text after : List Char} (h : Lexeme kind text after) :
    text ≠ [] := by
  obtain ⟨c, tail, -, rfl, -⟩ := h.reads
  exact List.cons_ne_nil c tail

theorem tokenized_tokenize (source : String) :
    Tokenized 0 1 source.toList (tokenize source) :=
  tokenized_tokensFrom 0 1 source.toList

/-- What a token of a source says of its place holds of the part before it. -/
theorem exists_split_of_mem_tokenize {source : String} {token : Token}
    (hMem : token ∈ tokenize source) :
    ∃ before after, source.toList = before ++ token.text.toList ++ after ∧
      token.start = byteLength before ∧
      token.stop = byteLength before + byteLength token.text.toList ∧
      token.line = 1 + lineFeeds before ∧ Lexeme token.kind token.text.toList after := by
  obtain ⟨before, after, hSource, hStart, hStop, hLine, hLexeme⟩ :=
    (tokenized_tokenize source).exists_split hMem
  rw [Nat.zero_add] at hStart
  exact ⟨before, after, hSource, hStart, hStart ▸ hStop, hLine, hLexeme⟩

/-- A token is not empty and lies within its source. -/
theorem place_of_mem_tokenize {source : String} {token : Token}
    (hMem : token ∈ tokenize source) :
    token.start < token.stop ∧ token.stop ≤ source.utf8ByteSize := by
  obtain ⟨before, after, hSource, hStart, hStop, -, hLexeme⟩ := exists_split_of_mem_tokenize hMem
  have hPos := byteLength_pos hLexeme.ne_nil
  rw [utf8ByteSize_eq, hSource, byteLength_append, byteLength_append]
  omega

/-- Of two tokens the one that is listed first stops before the other one starts. -/
theorem stop_le_start_of_index_lt {source : String} {i j : Nat} {a b : Token} (hIndex : i < j)
    (ha : (tokenize source)[i]? = some a) (hb : (tokenize source)[j]? = some b) :
    a.stop ≤ b.start := by
  obtain ⟨hi, rfl⟩ := List.getElem?_eq_some_iff.mp ha
  obtain ⟨hj, rfl⟩ := List.getElem?_eq_some_iff.mp hb
  exact List.pairwise_iff_getElem.mp (tokenized_tokenize source).pairwise i j hi hj hIndex

/-- Tokens start in the order in which they are listed. -/
theorem start_lt_of_index_lt {source : String} {i j : Nat} {a b : Token} (hIndex : i < j)
    (ha : (tokenize source)[i]? = some a) (hb : (tokenize source)[j]? = some b) :
    a.start < b.start := by
  have hPlace := (place_of_mem_tokenize (List.mem_of_getElem? ha)).1
  exact Nat.lt_of_lt_of_le hPlace (stop_le_start_of_index_lt hIndex ha hb)

/-- A token is what the grammar prescribes at the place where it starts: it is the only lexeme
there, longer or shorter and of whatever kind. -/
def Prescribed (source : String) (token : Token) : Prop :=
  ∃ before after, source.toList = before ++ token.text.toList ++ after ∧
    token.start = byteLength before ∧ token.stop = byteLength (before ++ token.text.toList) ∧
    ∀ kind text rest, text ++ rest = token.text.toList ++ after →
      (Lexeme kind text rest ↔ kind = token.kind ∧ text = token.text.toList)

/-- Every token of every source is prescribed by the grammar, in its kind and in its extent. -/
theorem prescribed_of_mem_tokenize {source : String} {token : Token}
    (hMem : token ∈ tokenize source) : Prescribed source token := by
  obtain ⟨before, after, hSource, hStart, hStop, -, hLexeme⟩ := exists_split_of_mem_tokenize hMem
  refine ⟨before, after, hSource, hStart, by rw [hStop, byteLength_append], ?_⟩
  intro kind text rest hRest
  constructor
  · intro hOther
    obtain ⟨hKind, hText, -⟩ := hOther.unique hLexeme hRest
    exact ⟨hKind, hText⟩
  · rintro ⟨rfl, rfl⟩
    rw [List.append_cancel_left hRest]
    exact hLexeme

theorem prescribed_block :
    (⟨.block, "\x7b'\x7d'\x7d", 2, 7, 1⟩ : Token) ∈ tokenize "é\x7b'\x7d'\x7d;" ∧
      Prescribed "é\x7b'\x7d'\x7d;" ⟨.block, "\x7b'\x7d'\x7d", 2, 7, 1⟩ :=
  ⟨by decide +kernel, prescribed_of_mem_tokenize (by decide +kernel)⟩

end RuleOutline
