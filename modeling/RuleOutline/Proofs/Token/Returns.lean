import RuleOutline.Proofs.Token.Part

/-! Line ends of two characters. A carriage return before each line feed of a text moves its
tokens further on and changes nothing else about them, unless a backslash of a literal is before
a line feed. It would escape the carriage return instead, and the line feed would end the
literal. -/
namespace RuleOutline

open Text

section Returns

/-- A line feed with a carriage return before it; other characters as they are. -/
def addReturn (c : Char) : List Char :=
  if c = '\n' then ['\r', '\n'] else [c]

/-- The characters with a carriage return before each line feed. -/
def addReturns (cs : List Char) : List Char :=
  cs.flatMap addReturn

/-- The text with a carriage return before each line feed. -/
def withReturns (text : String) : String :=
  .ofList (addReturns text.toList)

@[simp] theorem addReturns_feed (cs : List Char) :
    addReturns ('\n' :: cs) = '\r' :: '\n' :: addReturns cs := rfl

theorem addReturns_cons {c : Char} (h : c ≠ '\n') (cs : List Char) :
    addReturns (c :: cs) = c :: addReturns cs := by
  simp [addReturns, addReturn, h]

@[simp] theorem addReturns_append (a b : List Char) :
    addReturns (a ++ b) = addReturns a ++ addReturns b :=
  List.flatMap_append

theorem addReturns_eq_self {cs : List Char} (h : '\n' ∉ cs) : addReturns cs = cs := by
  induction cs with
  | nil => rfl
  | cons c cs ih =>
      rw [List.mem_cons, not_or, eq_comm] at h
      rw [addReturns_cons h.1, ih h.2]

theorem mem_head?_addReturns {cs : List Char} {c : Char} (h : c ∈ (addReturns cs).head?) :
    c = '\r' ∨ c ∈ cs.head? := by
  cases cs with
  | nil => exact .inr h
  | cons d cs =>
      by_cases hFeed : d = '\n'
      · subst hFeed
        exact .inl (Option.some.inj h).symm
      · rw [addReturns_cons hFeed] at h
        exact .inr h

/-- What is true of a carriage return and of the first character is true of the first one still. -/
theorem forall_head?_addReturns {P : Char → Prop} {cs : List Char} (hReturn : P '\r')
    (h : ∀ c ∈ cs.head?, P c) : ∀ c ∈ (addReturns cs).head?, P c := by
  intro c hc
  rcases mem_head?_addReturns hc with rfl | hc
  · exact hReturn
  · exact h c hc

theorem head?_addReturns_ne {cs : List Char} {c : Char} (hReturn : c ≠ '\r')
    (h : cs.head? ≠ some c) : (addReturns cs).head? ≠ some c := by
  intro hHead
  rcases mem_head?_addReturns hHead with rfl | hc
  · exact hReturn rfl
  · exact h hc

theorem byteLength_addReturns (cs : List Char) :
    byteLength (addReturns cs) = byteLength cs + lineFeeds cs := by
  induction cs with
  | nil => rfl
  | cons c cs ih =>
      by_cases hFeed : c = '\n'
      · subst hFeed
        simp only [addReturns_feed, byteLength_cons, lineFeeds_cons, ih, if_true]
        have hReturn : '\r'.utf8Size = 1 := rfl
        omega
      · simp [addReturns_cons hFeed, ih, hFeed, Nat.add_assoc]

theorem lineFeeds_addReturns (cs : List Char) : lineFeeds (addReturns cs) = lineFeeds cs := by
  induction cs with
  | nil => rfl
  | cons c cs ih =>
      by_cases hFeed : c = '\n'
      · subst hFeed
        simp [ih]
      · simp [addReturns_cons hFeed, ih]

/-- Without any carriage returns the text is as it was without those that it had. -/
theorem filter_addReturns (cs : List Char) :
    (addReturns cs).filter (· ≠ '\r') = cs.filter (· ≠ '\r') := by
  induction cs with
  | nil => rfl
  | cons c cs ih =>
      by_cases hFeed : c = '\n'
      · subst hFeed
        simpa using ih
      · rw [addReturns_cons hFeed, List.filter_cons, List.filter_cons, ih]

end Returns

section Literals

/-- The action code has the literal in it, behind braces and parts whose braces do not count. -/
inductive Holds (literal : List Char) : List Char → Prop where
  | here {rest : List Char} (h : IsLiteral literal rest) : Holds literal (literal ++ rest)
  | brace {c : Char} {text : List Char} (hBrace : c = '\x7b' ∨ c = '\x7d')
      (tail : Holds literal text) : Holds literal (c :: text)
  | piece {text rest : List Char} (hPiece : Piece text rest) (tail : Holds literal rest) :
      Holds literal (text ++ rest)

/-- The literals of a token: a literal is one by itself, and a block has those of its code. -/
inductive HasLiteral (literal : List Char) : Kind → List Char → Prop where
  | itself : HasLiteral literal .literal literal
  | code {text : List Char} (h : Holds literal text) : HasLiteral literal .block ('\x7b' :: text)

/-- No literal of the source has a line feed in it. Only a backslash could have put it there. -/
def LiteralsOnOneLine (source : String) : Prop :=
  ∀ token ∈ tokenize source, ∀ literal,
    HasLiteral literal token.kind token.text.toList → '\n' ∉ literal

theorem QuotedEnd.cut {quote : Char} {ending rest more : List Char}
    (h : QuotedEnd quote ending (rest ++ more)) : QuotedEnd quote ending rest := by
  generalize hAfter : rest ++ more = after at h
  cases h with
  | quote => exact .quote rest
  | lineEnd hBreak =>
      cases rest with
      | nil => exact .textEnd
      | cons c rest =>
          obtain ⟨rfl, -⟩ := List.cons.inj hAfter
          exact .lineEnd hBreak
  | textEnd =>
      obtain ⟨rfl, -⟩ := List.append_eq_nil_iff.mp hAfter
      exact .textEnd
  | cutEscape =>
      obtain ⟨rfl, -⟩ := List.append_eq_nil_iff.mp hAfter
      exact .cutEscape

theorem IsLiteral.cut {text rest more : List Char} (h : IsLiteral text (rest ++ more)) :
    IsLiteral text rest := by
  cases h with
  | intro hQuote hBody hEnd => exact .intro hQuote hBody hEnd.cut

/-- A part of action code stays one when the text is cut off anywhere behind it. -/
theorem Piece.cut {text rest more : List Char} (h : Piece text (rest ++ more)) :
    Piece text rest := by
  have hHead : ∀ c ∈ rest.head?, c ∈ (rest ++ more).head? := by
    intro c hc
    rw [List.head?_append, Option.mem_def.mp hc]
    rfl
  cases h with
  | literal h => exact .literal h.cut
  | lineComment h =>
      cases h with
      | intro hBody hAfter =>
          exact .lineComment (.intro hBody fun c hc => hAfter c (hHead c hc))
  | blockComment h =>
      generalize hAfter : rest ++ more = after at h
      cases h with
      | closed after hFirst => exact .blockComment (.closed rest hFirst)
      | unclosed hNone =>
          obtain ⟨rfl, -⟩ := List.append_eq_nil_iff.mp hAfter
          exact .blockComment (.unclosed hNone)
  | other hPlain hSlash =>
      refine .other hPlain fun hc => ?_
      exact ⟨fun hNext => (hSlash hc).1 (hHead _ hNext), fun hNext => (hSlash hc).2 (hHead _ hNext)⟩

end Literals

section Escape

/-- A backslash at the end of a line. -/
def EndsInEscape (cs : List Char) : Prop :=
  ['\\', '\n'] <:+: cs

variable {literal : List Char}

theorem QuotedBody.endsInEscape {quote : Char} {body : List Char} (h : QuotedBody quote body)
    (hFeed : '\n' ∈ body) : EndsInEscape body := by
  induction h with
  | nil => cases hFeed
  | @plain c body hQuote hEscape hBreak tail ih =>
      rcases List.mem_cons.mp hFeed with rfl | hFeed
      · cases hBreak
      · exact (ih hFeed).trans (List.suffix_cons c body).isInfix
  | @escaped c body tail ih =>
      by_cases hHere : c = '\n'
      · subst hHere
        exact ⟨[], body, rfl⟩
      · have hLater : '\n' ∈ body := by simpa [eq_comm, hHere] using hFeed
        exact (ih hLater).trans (List.suffix_append ['\\', c] body).isInfix

theorem IsLiteral.endsInEscape {rest : List Char} (h : IsLiteral literal rest)
    (hFeed : '\n' ∈ literal) : EndsInEscape literal := by
  cases h with
  | @intro quote body ending rest hQuote hBody hEnd =>
      have hInside : '\n' ∈ body := by
        have hQuoteFeed : quote ≠ '\n' := by rcases hQuote with rfl | rfl <;> decide
        have hEndFeed : '\n' ∉ ending := by
          cases hEnd <;> simp [hQuoteFeed.symm]
        simpa [hQuoteFeed.symm, hEndFeed] using hFeed
      exact (hBody.endsInEscape hInside).trans ⟨[quote], ending, by simp⟩

theorem Holds.within {text : List Char} (h : Holds literal text) :
    literal <:+: text ∧ ∃ rest, IsLiteral literal rest := by
  induction h with
  | @here rest h => exact ⟨(List.prefix_append literal rest).isInfix, rest, h⟩
  | @brace c text hBrace tail ih =>
      exact ih.imp_left fun h => h.trans (List.suffix_cons c text).isInfix
  | @piece text rest hPiece tail ih =>
      exact ih.imp_left fun h => h.trans (List.suffix_append text rest).isInfix

theorem Lexeme.isLiteral {after : List Char} (h : Lexeme .literal literal after) :
    IsLiteral literal after := by
  cases h with
  | mark after hMark =>
      have hAll : ∀ mark ∈ marks, mark.2 ≠ .literal := by decide
      exact absurd rfl (hAll _ hMark)
  | literal h => exact h

theorem HasLiteral.within {kind : Kind} {text after : List Char} (h : HasLiteral literal kind text)
    (hLexeme : Lexeme kind text after) : literal <:+: text ∧ ∃ rest, IsLiteral literal rest := by
  cases h with
  | itself => exact ⟨List.infix_rfl, after, hLexeme.isLiteral⟩
  | @code text hCode =>
      exact hCode.within.imp_left fun h => h.trans (List.suffix_cons '\x7b' text).isInfix

/-- Literals of more than one line need a line that ends in a backslash. -/
theorem literalsOnOneLine_of_not_endsInEscape {source : String}
    (h : ¬EndsInEscape source.toList) : LiteralsOnOneLine source := by
  intro token hToken literal hLiteral hFeed
  obtain ⟨before, after, hSource, -, -, -, hLexeme⟩ := exists_split_of_mem_tokenize hToken
  obtain ⟨hInfix, rest, hIsLiteral⟩ := hLiteral.within hLexeme
  apply h
  rw [hSource]
  exact ((hIsLiteral.endsInEscape hFeed).trans hInfix).trans ⟨before, after, rfl⟩

end Escape

section Shape

variable {text after : List Char}

theorem QuotedEnd.returned {quote : Char} {ending : List Char}
    (h : QuotedEnd quote ending after) : QuotedEnd quote ending (addReturns after) := by
  cases h with
  | quote => exact .quote _
  | @lineEnd c after hBreak =>
      by_cases hFeed : c = '\n'
      · subst hFeed
        exact .lineEnd rfl
      · rw [addReturns_cons hFeed]
        exact .lineEnd hBreak
  | textEnd => exact .textEnd
  | cutEscape => exact .cutEscape

theorem IsLiteral.returned (h : IsLiteral text after) (hFeed : '\n' ∉ text) :
    IsLiteral (addReturns text) (addReturns after) := by
  rw [addReturns_eq_self hFeed]
  cases h with
  | intro hQuote hBody hEnd => exact .intro hQuote hBody hEnd.returned

theorem hasClose_of_addReturns {cs : List Char} (h : HasClose (addReturns cs)) : HasClose cs := by
  induction cs with
  | nil => exact h
  | cons c cs ih =>
      by_cases hFeed : c = '\n'
      · subst hFeed
        have hTail : HasClose (addReturns cs) := by simpa [hasClose_cons] using h
        exact hasClose_cons.mpr (.inr (ih hTail))
      · rw [addReturns_cons hFeed, hasClose_cons] at h
        rw [hasClose_cons]
        refine h.imp (And.imp_right fun hSlash => ?_) ih
        exact (mem_head?_addReturns hSlash).resolve_left (by decide)

theorem IsBlockComment.returned (h : IsBlockComment text after) :
    IsBlockComment (addReturns text) (addReturns after) := by
  cases h with
  | @closed body after hFirst =>
      show IsBlockComment ('/' :: '*' :: addReturns (body ++ ['*', '/'])) (addReturns after)
      rw [addReturns_append]
      apply IsBlockComment.closed
      intro hClose
      apply hFirst
      apply hasClose_of_addReturns
      rwa [addReturns_append]
  | @unclosed body hNone =>
      show IsBlockComment ('/' :: '*' :: addReturns body) []
      exact .unclosed fun hClose => hNone (hasClose_of_addReturns hClose)

theorem IsLineComment.feed_not_mem {ends : Char → Bool} (hEnds : ends '\n' = true)
    (h : IsLineComment ends text after) : '\n' ∉ text := by
  cases h with
  | @intro body after hBody hAfter =>
      intro hFeed
      have hInside : '\n' ∈ body := by simpa using hFeed
      rw [hBody _ hInside] at hEnds
      cases hEnds

end Shape

namespace Reading

variable {depth : Nat} {text rest : List Char}

/-- A line comment of action code takes the carriage return in that is put behind it. -/
theorem run_lineComment_returned (h : ∀ c ∈ rest.head?, c = '\n') :
    (block depth .lineComment).run (addReturns rest) =
      (block depth .code).run (addReturns rest) := by
  cases rest with
  | nil => rfl
  | cons c rest =>
      obtain rfl := h c rfl
      rfl

theorem run_piece_returned (h : Piece text rest)
    (hFeed : IsLiteral text rest → '\n' ∉ text) :
    (block depth .code).run (addReturns text ++ addReturns rest) =
      ((block depth .code).run (addReturns rest)).prepend (addReturns text) := by
  cases h with
  | literal h => exact run_piece (.literal (h.returned (hFeed h)))
  | lineComment h =>
      -- No piece corresponds to the comment: it is longer by the carriage return behind it, which
      -- is the first character of the rest. So this case is followed through the reader.
      rw [addReturns_eq_self (h.feed_not_mem rfl)]
      cases h with
      | intro hBody hAfter =>
          rw [run_slashes hBody, run_lineComment_returned fun c hc => by simpa using hAfter c hc]
  | blockComment h => exact run_piece (.blockComment h.returned)
  | @other c rest hPlain hSlash =>
      by_cases hLine : c = '\n'
      · subst hLine
        rw [addReturns_feed, List.cons_append, List.cons_append,
          run_cons_more (block depth .code) _ rfl, run_cons_more (block depth .code) _ rfl,
          Cut.prepend_prepend]
        rfl
      · rw [addReturns_cons hLine]
        apply run_piece
        refine .other hPlain fun hc => ?_
        exact (hSlash hc).imp (head?_addReturns_ne (by decide)) (head?_addReturns_ne (by decide))

/-- The reader goes through action code alike, up to where a literal has a line feed. -/
theorem run_code_returned (depth : Nat) {after : List Char} (h : Code (depth + 1) text after)
    (hFeed : ∀ literal, Holds literal text → '\n' ∉ literal) :
    (block depth .code).run (addReturns text ++ addReturns after) =
      ⟨.block, addReturns text, addReturns after⟩ := by
  generalize hOpen : depth + 1 = opened at h
  induction h generalizing depth with
  | closed after => omega
  | textEnd depth => rfl
  | @opening opened text after tail ih =>
      show (block depth .code).run ('\x7b' :: (addReturns text ++ addReturns after)) = _
      rw [run_cons_more (block (depth + 1) .code) _ rfl,
        ih (depth + 1) (fun literal h => hFeed literal (.brace (.inl rfl) h)) (by omega)]
      rfl
  | @closing opened text after tail ih =>
      show (block depth .code).run ('\x7d' :: (addReturns text ++ addReturns after)) = _
      cases depth with
      | zero =>
          obtain rfl : opened = 0 := by omega
          cases tail
          exact run_cons_last _ rfl
      | succ depth =>
          rw [run_cons_more (block depth .code) _ rfl,
            ih depth (fun literal h => hFeed literal (.brace (.inr rfl) h)) (by omega)]
          rfl
  | @piece opened text rest after hPiece tail ih =>
      have hRest := ih depth (fun literal h => hFeed literal (.piece hPiece.cut h)) hOpen
      rw [addReturns_append, List.append_assoc, ← addReturns_append rest after,
        run_piece_returned hPiece (fun h => hFeed text (.here h.cut)), addReturns_append, hRest]
      rfl

end Reading

section Token

variable {kind : Kind} {text after : List Char}

/-- Only literals, blocks and block comments can have more than one line. -/
theorem Lexeme.feed_not_mem (h : Lexeme kind text after)
    (hKind : kind ≠ .literal ∧ kind ≠ .block ∧ kind ≠ .blockComment) : '\n' ∉ text := by
  intro hFeed
  cases h with
  | identifier hHead hTail =>
      rcases List.mem_cons.mp hFeed with rfl | hFeed
      · exact absurd hHead (by decide)
      · exact absurd (hTail _ hFeed) (by decide)
  | number hDigits => exact absurd (hDigits _ hFeed) (by decide)
  | @mark c _ after hMark =>
      obtain rfl := List.mem_singleton.mp hFeed
      have hAll : ∀ mark ∈ marks, mark.1 ≠ '\n' := by decide
      exact hAll _ hMark rfl
  | lineComment h => exact h.feed_not_mem rfl hFeed
  | @pair c d after hPair =>
      have hAll : ∀ pair ∈ operatorPairs, '\n' ∉ [pair.1, pair.2] := by decide
      exact hAll _ hPair hFeed
  | operator hChar =>
      obtain rfl := List.mem_singleton.mp hFeed
      exact absurd hChar (by decide)
  | unknown after hSkip =>
      obtain rfl := List.mem_singleton.mp hFeed
      exact absurd hSkip (by decide)
  | literal => exact hKind.1 rfl
  | block => exact hKind.2.1 rfl
  | blockComment => exact hKind.2.2 rfl

theorem feed_not_mem_of_mem_tokenize {source : String} {token : Token}
    (hToken : token ∈ tokenize source)
    (hKind : token.kind ≠ .literal ∧ token.kind ≠ .block ∧ token.kind ≠ .blockComment) :
    '\n' ∉ token.text.toList := by
  obtain ⟨-, after, -, -, -, -, hLexeme⟩ := exists_split_of_mem_tokenize hToken
  exact hLexeme.feed_not_mem hKind

theorem Lexeme.before_returns (h : Lexeme kind text after)
    (hKind : kind ≠ .literal ∧ kind ≠ .block ∧ kind ≠ .blockComment) :
    Lexeme kind text (addReturns after) := by
  cases h with
  | identifier hHead hTail hAfter =>
      exact .identifier hHead hTail (forall_head?_addReturns (by decide) hAfter)
  | number hDigits hAfter =>
      exact .number hDigits (forall_head?_addReturns (by decide) hAfter)
  | mark after hMark => exact .mark _ hMark
  | lineComment h =>
      cases h with
      | intro hBody hAfter =>
          exact .lineComment (.intro hBody (forall_head?_addReturns rfl hAfter))
  | pair after hPair => exact .pair _ hPair
  | @operator c after hChar hPair hSlash =>
      refine .operator hChar (forall_head?_addReturns ?_ hPair) fun hc => ?_
      · have hAll : ∀ pair ∈ operatorPairs, pair.2 ≠ '\r' := by decide
        exact fun hReturn => hAll _ hReturn rfl
      · exact (hSlash hc).imp (head?_addReturns_ne (by decide)) (head?_addReturns_ne (by decide))
  | unknown after hSkip hWord hDigit hMark hOperator hOpening =>
      exact .unknown _ hSkip hWord hDigit hMark hOperator hOpening
  | literal => exact absurd rfl hKind.1
  | block => exact absurd rfl hKind.2.1
  | blockComment => exact absurd rfl hKind.2.2

/-- A lexeme with carriage returns added to it is one of the same kind. -/
theorem Lexeme.returned (h : Lexeme kind text after)
    (hFeed : ∀ literal, HasLiteral literal kind text → '\n' ∉ literal) :
    Lexeme kind (addReturns text) (addReturns after) := by
  by_cases hKind : kind ≠ .literal ∧ kind ≠ .block ∧ kind ≠ .blockComment
  · rw [addReturns_eq_self (h.feed_not_mem hKind)]
    exact h.before_returns hKind
  · cases h with
    | blockComment h => exact .blockComment h.returned
    | literal h => exact .literal (h.returned (hFeed text .itself))
    | @block text after h =>
        have hStart : Reading.start? '\x7b' = some (.block 0 .code) := rfl
        have hLexeme := lexeme_run hStart (addReturns text ++ addReturns after)
        rw [Reading.run_code_returned 0 h fun literal h => hFeed literal (.code h)] at hLexeme
        rwa [addReturns_cons (by decide)]
    | mark after hMark =>
        have hAll : ∀ mark ∈ marks,
            mark.2 ≠ .literal ∧ mark.2 ≠ .block ∧ mark.2 ≠ .blockComment := by decide
        exact absurd (hAll _ hMark) hKind
    | _ => simp at hKind

/-- The token in the text with carriage returns. So many line feeds come before it as its line
says, and each of them has taken one more byte. -/
def Token.returned (token : Token) : Token :=
  { token with
    text := withReturns token.text
    start := token.start + (token.line - 1)
    stop := token.stop + (token.line - 1) + lineFeeds token.text.toList }

theorem Tokenized.returned {offset line : Nat} {cs : List Char} {tokens : List Token}
    (h : Tokenized offset line cs tokens) (hLine : 1 ≤ line)
    (hFeed : ∀ token ∈ tokens, ∀ literal,
      HasLiteral literal token.kind token.text.toList → '\n' ∉ literal) :
    Tokenized (offset + (line - 1)) line (addReturns cs) (tokens.map Token.returned) := by
  induction h with
  | nil offset line => exact .nil _ _
  | @skip offset line c cs tokens hSkip tail ih =>
      have hTail := ih (by omega) hFeed
      -- A line feed is passed over together with the carriage return before it.
      by_cases hLineFeed : c = '\n'
      · subst hLineFeed
        have hPlace : offset + '\n'.utf8Size + (line + 1 - 1) =
            offset + (line - 1) + '\r'.utf8Size + '\n'.utf8Size := by
          have hOne : '\n'.utf8Size = 1 ∧ '\r'.utf8Size = 1 := ⟨rfl, rfl⟩
          omega
        rw [if_pos rfl, hPlace] at hTail
        exact .skip rfl (.skip rfl hTail)
      · rw [if_neg hLineFeed, Nat.add_zero, Nat.add_right_comm] at hTail
        rw [addReturns_cons hLineFeed]
        apply Tokenized.skip hSkip
        rwa [if_neg hLineFeed]
  | @token offset line kind text after tokens hLexeme tail ih =>
      have hTail := ih (by omega) fun token hToken => hFeed token (List.mem_cons_of_mem _ hToken)
      have hHere := hFeed _ (List.mem_cons_self ..)
      simp only [String.toList_ofList] at hHere
      have hPlace : offset + byteLength text + (line + lineFeeds text - 1) =
          offset + (line - 1) + byteLength (addReturns text) := by
        rw [byteLength_addReturns]
        omega
      rw [hPlace, ← lineFeeds_addReturns] at hTail
      have hReturned : Token.returned ⟨kind, .ofList text, offset, offset + byteLength text, line⟩ =
          ⟨kind, .ofList (addReturns text), offset + (line - 1),
            offset + (line - 1) + byteLength (addReturns text), line⟩ := by
        simp only [Token.returned, withReturns, String.toList_ofList, byteLength_addReturns,
          Token.mk.injEq, true_and, and_true]
        omega
      rw [addReturns_append, List.map_cons, hReturned]
      exact .token (hLexeme.returned hHere) hTail

theorem tokenize_withReturns {source : String} (h : LiteralsOnOneLine source) :
    tokenize (withReturns source) = (tokenize source).map Token.returned := by
  have hTokens := (tokenized_tokenize source).returned (Nat.le_refl 1) h
  rw [hTokens.eq_tokensFrom, tokenize, withReturns, String.toList_ofList]

end Token

end RuleOutline
