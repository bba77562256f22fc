import RuleOutline.Proofs.Token.Append

/-! Tokens of a text that stands behind another. They are those of the text by itself, only
further on, as long as nothing of the text before reaches into it. -/
namespace RuleOutline

open Text

/-- The token behind so many more bytes and line feeds. -/
def Token.shift (size feeds : Nat) (token : Token) : Token :=
  { token with
    start := token.start + size
    stop := token.stop + size
    line := token.line + feeds }

@[simp] theorem Token.shift_kind (size feeds : Nat) (token : Token) :
    (token.shift size feeds).kind = token.kind := rfl

@[simp] theorem Token.shift_text (size feeds : Nat) (token : Token) :
    (token.shift size feeds).text = token.text := rfl

theorem Tokenized.shift {offset line : Nat} {cs : List Char} {tokens : List Token}
    (h : Tokenized offset line cs tokens) (size feeds : Nat) :
    Tokenized (offset + size) (line + feeds) cs (tokens.map (·.shift size feeds)) := by
  induction h with
  | nil offset line => exact .nil _ _
  | @skip offset line c cs tokens hSkip tail ih =>
      apply Tokenized.skip hSkip
      rwa [Nat.add_right_comm offset, Nat.add_right_comm line] at ih
  | @token offset line kind text after tokens hLexeme tail ih =>
      rw [Nat.add_right_comm offset, Nat.add_right_comm line] at ih
      simpa [Token.shift, Nat.add_right_comm offset] using Tokenized.token hLexeme ih

/-- Tokens with a semicolon for their last, if they have a last. -/
def Closed (tokens : List Token) : Prop :=
  ∀ token ∈ tokens.getLast?, token.kind = .semicolon

theorem Closed.of_append {before tokens : List Token} (h : Closed (before ++ tokens)) :
    Closed tokens := by
  cases tokens with
  | nil => simp [Closed]
  | cons next tokens => simpa [Closed] using h

theorem Closed.tail {token : Token} {tokens : List Token} (h : Closed (token :: tokens)) :
    Closed tokens := by
  rw [← List.singleton_append] at h
  exact h.of_append

theorem Closed.kind_eq {token : Token} (h : Closed [token]) : token.kind = .semicolon :=
  h token rfl

/-- Behind a last semicolon a text begins anew. Only white space may stand between them. -/
theorem Tokenized.append_of_closed {offset line : Nat} {cs : List Char} {tokens : List Token}
    (h : Tokenized offset line cs tokens) (hClosed : Closed tokens) {more : List Char}
    {later : List Token}
    (hMore : Tokenized (offset + byteLength cs) (line + lineFeeds cs) more later) :
    Tokenized offset line (cs ++ more) (tokens ++ later) := by
  induction h with
  | nil offset line => exact hMore
  | @skip offset line c cs tokens hSkip tail ih =>
      apply Tokenized.skip hSkip
      apply ih hClosed
      rwa [byteLength_cons, lineFeeds_cons, ← Nat.add_assoc, ← Nat.add_assoc] at hMore
  | @token offset line kind text after tokens hLexeme tail ih =>
      have hEnd : kind = .semicolon ∨ after ≠ [] := by
        cases tail with
        | nil => exact .inl hClosed.kind_eq
        | skip => exact .inr (List.cons_ne_nil _ _)
        | token hNext => exact .inr (by simp [hNext.ne_nil])
      rw [List.append_assoc]
      apply Tokenized.token (hLexeme.append hEnd more)
      apply ih hClosed.tail
      rwa [byteLength_append, lineFeeds_append, ← Nat.add_assoc, ← Nat.add_assoc] at hMore

/-- The tokens of a source whose last is a semicolon come before those of whatever follows. -/
theorem tokenize_append_of_closed {source : String} (hClosed : Closed (tokenize source))
    (more : String) :
    tokenize (source ++ more) =
      tokenize source ++
        (tokenize more).map (·.shift (byteLength source.toList) (lineFeeds source.toList)) := by
  have hMore := (tokenized_tokenize more).shift (byteLength source.toList)
    (lineFeeds source.toList)
  have hWhole := (tokenized_tokenize source).append_of_closed hClosed hMore
  rw [hWhole.eq_tokensFrom, tokenize, String.toList_append]

end RuleOutline
