import RuleOutline.Proofs.Token.Layout

/-! Tokens of a text that goes on. What is typed at the end of a text reaches into no token but
the last, and not into that one if it is a semicolon. -/
namespace RuleOutline

open Text

/-- A lexeme that something follows is the same whatever follows after that. A semicolon is the
same in any case. -/
theorem Lexeme.append {kind : Kind} {text after : List Char} (h : Lexeme kind text after)
    (hEnd : kind = .semicolon ∨ after ≠ []) (more : List Char) :
    Lexeme kind text (after ++ more) := by
  rcases hEnd with rfl | hAfter
  · cases h with
    | mark after hMark => exact .mark _ hMark
  · obtain ⟨c, tail, reading, rfl, hStart, hRun⟩ := h.reads
    have hRest : (reading.run (tail ++ after)).rest ≠ [] := by rwa [hRun]
    have hMore := Reading.run_append hRest more
    have hLexeme := lexeme_run hStart (tail ++ after ++ more)
    rw [hMore, hRun] at hLexeme
    exact hLexeme

/-- The tokens of a text and of what it goes on to are the same up to the last token, which
reaches to the end and is no semicolon. -/
theorem Tokenized.append {offset line : Nat} {cs : List Char} {tokens : List Token}
    (h : Tokenized offset line cs tokens) (more : List Char) :
    ∃ kept last rest, tokens = kept ++ last ∧ tokensFrom offset line (cs ++ more) = kept ++ rest ∧
      ∀ token ∈ last, token.kind ≠ .semicolon ∧ token.stop = offset + byteLength cs := by
  induction h with
  | nil offset line => exact ⟨[], [], tokensFrom offset line more, rfl, rfl, by simp⟩
  | @skip offset line c cs tokens hSkip tail ih =>
      obtain ⟨kept, last, rest, hTokens, hMore, hLast⟩ := ih
      refine ⟨kept, last, rest, hTokens, ?_, ?_⟩
      · rw [List.cons_append, tokensFrom_skip offset line hSkip, hMore]
      · intro token hMem
        rw [byteLength_cons, ← Nat.add_assoc]
        exact hLast token hMem
  | @token offset line kind text after tokens hLexeme tail ih =>
      by_cases hEnd : kind = .semicolon ∨ after ≠ []
      · obtain ⟨kept, last, rest, rfl, hMore, hLast⟩ := ih
        refine ⟨_ :: kept, last, rest, rfl, ?_, ?_⟩
        · rw [List.append_assoc, tokensFrom_lexeme offset line (hLexeme.append hEnd more), hMore,
            List.cons_append]
        · intro token hMem
          rw [byteLength_append, ← Nat.add_assoc]
          exact hLast token hMem
      · -- The token touches the end of the text: what follows may extend or replace it.
        rw [not_or, Classical.not_not] at hEnd
        obtain ⟨hKind, rfl⟩ := hEnd
        rw [tail.eq_tokensFrom, tokensFrom_nil]
        refine ⟨[], [_], tokensFrom offset line (text ++ [] ++ more), rfl, rfl, ?_⟩
        simp [hKind]

end RuleOutline
