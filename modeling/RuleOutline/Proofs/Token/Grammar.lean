import RuleOutline.Proofs.Token.Cut

/-! The lexical grammar is total and unambiguous: a text that begins with no white space begins
with exactly one lexeme, and that is the one the reader cuts off. -/
namespace RuleOutline

/-- The longest beginning of a text with characters of one class only. -/
theorem exists_class (p : Char → Bool) (cs : List Char) :
    ∃ body after, cs = body ++ after ∧ (∀ c ∈ body, p c = true) ∧
      ∀ c ∈ after.head?, p c = false := by
  refine ⟨cs.takeWhile p, cs.dropWhile p, List.takeWhile_append_dropWhile.symm, ?_, ?_⟩
  · intro c hc
    exact List.all_eq_true.mp List.all_takeWhile c hc
  · intro c hc
    have hHead := List.head?_dropWhile_not p cs
    simpa [Option.mem_def.mp hc] using hHead

/-- Behind a quote there is the inside of a literal and what closes it. -/
theorem exists_quoted (quote : Char) :
    ∀ cs : List Char, ∃ body ending after, cs = body ++ ending ++ after ∧
      QuotedBody quote body ∧ QuotedEnd quote ending after
  | [] => ⟨[], [], [], rfl, .nil, .textEnd⟩
  | [c] => by
      by_cases hQuote : c = quote
      · exact ⟨[], [c], [], rfl, .nil, hQuote ▸ .quote []⟩
      · by_cases hEscape : c = '\\'
        · exact ⟨[], [c], [], rfl, .nil, hEscape ▸ .cutEscape⟩
        · cases hBreak : isBreak c with
          | true => exact ⟨[], [], [c], rfl, .nil, .lineEnd hBreak⟩
          | false => exact ⟨[c], [], [], rfl, .plain hQuote hEscape hBreak .nil, .textEnd⟩
  | c :: d :: cs => by
      by_cases hQuote : c = quote
      · exact ⟨[], [c], d :: cs, rfl, .nil, hQuote ▸ .quote (d :: cs)⟩
      · by_cases hEscape : c = '\\'
        · obtain ⟨body, ending, after, rfl, hBody, hEnd⟩ := exists_quoted quote cs
          exact ⟨c :: d :: body, ending, after, rfl, hEscape ▸ .escaped hBody, hEnd⟩
        · cases hBreak : isBreak c with
          | true => exact ⟨[], [], c :: d :: cs, rfl, .nil, .lineEnd hBreak⟩
          | false =>
              obtain ⟨body, ending, after, hTail, hBody, hEnd⟩ := exists_quoted quote (d :: cs)
              exact ⟨c :: body, ending, after, by simp [hTail],
                .plain hQuote hEscape hBreak hBody, hEnd⟩

/-- Behind a quote there is a literal. -/
theorem exists_literal {quote : Char} (hQuote : quote = '\'' ∨ quote = '"') (cs : List Char) :
    ∃ tail after, cs = tail ++ after ∧ IsLiteral (quote :: tail) after := by
  obtain ⟨body, ending, after, hText, hBody, hEnd⟩ := exists_quoted quote cs
  exact ⟨body ++ ending, after, hText, .intro hQuote hBody hEnd⟩

/-- Behind a slash and a star there is a block comment. -/
theorem exists_blockComment (cs : List Char) :
    ∃ tail after, cs = tail ++ after ∧ IsBlockComment ('/' :: '*' :: tail) after := by
  by_cases hClose : HasClose cs
  · induction cs with
    | nil => simp [HasClose] at hClose
    | cons c cs ih =>
        by_cases hHere : c = '*' ∧ cs.head? = some '/'
        · obtain ⟨rfl, hSlash⟩ := hHere
          obtain ⟨after, rfl⟩ := List.head?_eq_some_iff.mp hSlash
          refine ⟨['*', '/'], after, rfl, @IsBlockComment.closed [] after ?_⟩
          rw [List.nil_append, hasClose_cons]
          simp [HasClose]
        · obtain ⟨tail, after, rfl, hComment⟩ := ih
            ((hasClose_cons.mp hClose).resolve_left hHere)
          cases hComment with
          | @closed body after hFirst =>
              refine ⟨c :: (body ++ ['*', '/']), after, rfl, @IsBlockComment.closed (c :: body) after ?_⟩
              intro hClose
              rcases hasClose_cons.mp hClose with ⟨rfl, hSlash⟩ | hClose
              · exact hHere ⟨rfl, by cases body <;> simp_all⟩
              · exact hFirst hClose
          | unclosed hNone =>
              exact absurd ((hasClose_cons.mp hClose).resolve_left hHere) (by simpa using hNone)
  · exact ⟨cs, [], by simp, .unclosed hClose⟩

/-- A slash before another or before a star begins a comment. Line comments may be told apart by
what ends them. -/
theorem exists_comment (ends : Char → Bool) {cs : List Char}
    (hNext : ¬(cs.head? ≠ some '/' ∧ cs.head? ≠ some '*')) :
    ∃ tail after, cs = tail ++ after ∧
      (IsLineComment ends ('/' :: tail) after ∨ IsBlockComment ('/' :: tail) after) := by
  cases cs with
  | nil => simp at hNext
  | cons d cs =>
      by_cases hLine : d = '/'
      · subst hLine
        obtain ⟨body, after, rfl, hBody, hAfter⟩ := exists_class (fun c => !ends c) cs
        refine ⟨'/' :: body, after, rfl, Or.inl (.intro ?_ ?_)⟩
        · simpa using hBody
        · simpa using hAfter
      · have hStar : d = '*' := by simpa [hLine] using hNext
        subst hStar
        obtain ⟨tail, after, rfl, hComment⟩ := exists_blockComment cs
        exact ⟨'*' :: tail, after, rfl, Or.inr hComment⟩

/-- A character that is no brace begins a part of action code whose braces do not count. -/
theorem exists_piece {c : Char} (hOpen : c ≠ '\x7b') (hShut : c ≠ '\x7d') (cs : List Char) :
    ∃ tail rest, cs = tail ++ rest ∧ Piece (c :: tail) rest := by
  by_cases hQuote : c = '\'' ∨ c = '"'
  · obtain ⟨tail, rest, hText, hLiteral⟩ := exists_literal hQuote cs
    exact ⟨tail, rest, hText, .literal hLiteral⟩
  · by_cases hSlash : c = '/' → cs.head? ≠ some '/' ∧ cs.head? ≠ some '*'
    · rw [not_or] at hQuote
      exact ⟨[], cs, rfl, .other (by simp [hOpen, hShut, hQuote]) hSlash⟩
    · rw [Classical.not_imp] at hSlash
      obtain ⟨rfl, hNext⟩ := hSlash
      obtain ⟨tail, rest, hText, hLine | hBlock⟩ := exists_comment (· == '\n') hNext
      · exact ⟨tail, rest, hText, .lineComment hLine⟩
      · exact ⟨tail, rest, hText, .blockComment hBlock⟩

/-- Behind an open brace there is action code, at any depth. -/
theorem exists_code (depth : Nat) (cs : List Char) :
    ∃ text after, cs = text ++ after ∧ Code (depth + 1) text after := by
  induction hLength : cs.length using Nat.strongRecOn generalizing depth cs with
  | ind length ih =>
      cases cs with
      | nil => exact ⟨[], [], rfl, .textEnd depth⟩
      | cons c cs =>
          simp only [List.length_cons] at hLength
          by_cases hOpen : c = '\x7b'
          · obtain ⟨text, after, rfl, hCode⟩ := ih cs.length (by omega) (depth + 1) cs rfl
            exact ⟨c :: text, after, rfl, hOpen ▸ .opening hCode⟩
          · by_cases hShut : c = '\x7d'
            · cases depth with
              | zero => exact ⟨[c], cs, rfl, hShut ▸ .closing (.closed cs)⟩
              | succ depth =>
                  obtain ⟨text, after, rfl, hCode⟩ := ih cs.length (by omega) depth cs rfl
                  exact ⟨c :: text, after, rfl, hShut ▸ .closing hCode⟩
            · obtain ⟨tail, rest, rfl, hPiece⟩ := exists_piece hOpen hShut cs
              simp only [List.length_append] at hLength
              obtain ⟨text, after, rfl, hCode⟩ := ih rest.length (by omega) depth rest rfl
              exact ⟨(c :: tail) ++ text, after, by simp, .piece hPiece hCode⟩

/-- An operator character begins an operator or a comment. -/
theorem exists_operator {c : Char} (hChar : c ∈ operatorChars) (cs : List Char) :
    ∃ kind tail after, cs = tail ++ after ∧ Lexeme kind (c :: tail) after := by
  by_cases hPair : ∃ d ∈ cs.head?, (c, d) ∈ operatorPairs
  · obtain ⟨d, hHead, hPair⟩ := hPair
    obtain ⟨after, rfl⟩ := List.head?_eq_some_iff.mp hHead
    exact ⟨.operator, [d], after, rfl, .pair after hPair⟩
  · by_cases hSlash : c = '/' → cs.head? ≠ some '/' ∧ cs.head? ≠ some '*'
    · exact ⟨.operator, [], cs, rfl,
        .operator hChar (fun d hHead hMem => hPair ⟨d, hHead, hMem⟩) hSlash⟩
    · rw [Classical.not_imp] at hSlash
      obtain ⟨rfl, hNext⟩ := hSlash
      obtain ⟨tail, after, hText, hLine | hBlock⟩ := exists_comment isBreak hNext
      · exact ⟨.lineComment, tail, after, hText, .lineComment hLine⟩
      · exact ⟨.blockComment, tail, after, hText, .blockComment hBlock⟩

/-- A text that begins with no white space begins with a lexeme. -/
theorem exists_lexeme {c : Char} (hSkip : isSkipped c = false) (cs : List Char) :
    ∃ kind tail after, cs = tail ++ after ∧ Lexeme kind (c :: tail) after := by
  cases hWord : beginsWord c with
  | true =>
      obtain ⟨tail, after, rfl, hTail, hAfter⟩ := exists_class continuesWord cs
      exact ⟨.identifier, tail, after, rfl, .identifier hWord hTail hAfter⟩
  | false =>
      cases hDigit : c.isDigit with
      | true =>
          obtain ⟨tail, after, rfl, hTail, hAfter⟩ := exists_class (·.isDigit) cs
          exact ⟨.number, tail, after, rfl, .number (by simpa [hDigit] using hTail) hAfter⟩
      | false =>
          by_cases hMark : ∃ kind, (c, kind) ∈ marks
          · obtain ⟨kind, hMark⟩ := hMark
            exact ⟨kind, [], cs, rfl, .mark cs hMark⟩
          · by_cases hOperator : c ∈ operatorChars
            · exact exists_operator hOperator cs
            · by_cases hQuote : c = '\'' ∨ c = '"'
              · obtain ⟨tail, after, hText, hLiteral⟩ := exists_literal hQuote cs
                exact ⟨.literal, tail, after, hText, .literal hLiteral⟩
              · by_cases hOpen : c = '\x7b'
                · obtain ⟨text, after, hText, hCode⟩ := exists_code 0 cs
                  exact ⟨.block, text, after, hText, hOpen ▸ .block hCode⟩
                · refine ⟨.unknown, [], cs, rfl, .unknown cs hSkip hWord hDigit ?_ hOperator ?_⟩
                  · exact fun kind hMem => hMark ⟨kind, hMem⟩
                  · rw [not_or] at hQuote
                    simp [hOpen, hQuote]

/-- What the reader cuts off is a lexeme. -/
theorem lexeme_run {c : Char} {reading : Reading} (hStart : Reading.start? c = some reading)
    (cs : List Char) :
    Lexeme (reading.run cs).kind (c :: (reading.run cs).taken) (reading.run cs).rest := by
  have hSkip : isSkipped c = false := by
    cases hc : isSkipped c with
    | false => rfl
    | true => simp [Reading.start?, hc] at hStart
  obtain ⟨kind, tail, after, rfl, hLexeme⟩ := exists_lexeme hSkip cs
  obtain ⟨d, tail', reading', hText, hStart', hRun⟩ := hLexeme.reads
  obtain ⟨rfl, rfl⟩ := List.cons.inj hText
  obtain rfl : reading = reading' := Option.some.inj (hStart.symm.trans hStart')
  rwa [hRun]

/-- A text has at most one lexeme at its beginning, of one kind. -/
theorem Lexeme.unique {kind kind' : Kind} {text text' after after' : List Char}
    (h : Lexeme kind text after) (h' : Lexeme kind' text' after')
    (hSame : text ++ after = text' ++ after') : kind = kind' ∧ text = text' ∧ after = after' := by
  obtain ⟨c, tail, reading, rfl, hStart, hRun⟩ := h.reads
  obtain ⟨c', tail', reading', rfl, hStart', hRun'⟩ := h'.reads
  rw [List.cons_append, List.cons_append] at hSame
  obtain ⟨rfl, hTail⟩ := List.cons.inj hSame
  obtain rfl : reading = reading' := Option.some.inj (hStart.symm.trans hStart')
  rw [hTail, hRun'] at hRun
  cases hRun
  exact ⟨rfl, rfl, rfl⟩

end RuleOutline
