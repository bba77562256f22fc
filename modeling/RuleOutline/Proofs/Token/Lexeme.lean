import RuleOutline.Token.Reading

/-! The lexical grammar, stated without the reader. A lexeme is a text of a certain kind in front
of a certain rest: where it ends may depend on what follows it. -/
namespace RuleOutline

/-- The inside of a literal: no quote and no line end that is not escaped. A backslash escapes
the character after it, whatever that is. -/
inductive QuotedBody (quote : Char) : List Char → Prop where
  | nil : QuotedBody quote []
  | plain {c : Char} {body : List Char} (hQuote : c ≠ quote) (hEscape : c ≠ '\\')
      (hBreak : isBreak c = false) (tail : QuotedBody quote body) : QuotedBody quote (c :: body)
  | escaped {c : Char} {body : List Char} (tail : QuotedBody quote body) :
      QuotedBody quote ('\\' :: c :: body)

/-- What closes the inside of a literal, given the rest: its quote, or nothing before a line end
and at the end of the text. The end of the text may also cut an escape in two. -/
inductive QuotedEnd (quote : Char) : List Char → List Char → Prop where
  | quote (after : List Char) : QuotedEnd quote [quote] after
  | lineEnd {c : Char} {after : List Char} (hBreak : isBreak c = true) :
      QuotedEnd quote [] (c :: after)
  | textEnd : QuotedEnd quote [] []
  | cutEscape : QuotedEnd quote ['\\'] []

/-- A literal: a quote, an inside and what closes it. -/
inductive IsLiteral : List Char → List Char → Prop where
  | intro {quote : Char} {body ending after : List Char} (hQuote : quote = '\'' ∨ quote = '"')
      (hBody : QuotedBody quote body) (hEnd : QuotedEnd quote ending after) :
      IsLiteral (quote :: (body ++ ending)) after

/-- A star and a slash in a row, which close a block comment. -/
def HasClose (cs : List Char) : Prop :=
  ['*', '/'] <:+: cs

theorem hasClose_cons {c : Char} {cs : List Char} :
    HasClose (c :: cs) ↔ (c = '*' ∧ cs.head? = some '/') ∨ HasClose cs := by
  unfold HasClose
  rw [List.infix_cons_iff]
  cases cs with
  | nil => simp
  | cons d cs => simp [List.cons_prefix_cons, eq_comm]

/-- A comment up to the first star and slash after its own, or to the end of the text if there
are none. -/
inductive IsBlockComment : List Char → List Char → Prop where
  | closed {body : List Char} (after : List Char) (hFirst : ¬HasClose (body ++ ['*'])) :
      IsBlockComment ('/' :: '*' :: (body ++ ['*', '/'])) after
  | unclosed {body : List Char} (hNone : ¬HasClose body) :
      IsBlockComment ('/' :: '*' :: body) []

/-- A comment that runs up to the first character of a class, or to the end of the text. -/
inductive IsLineComment (ends : Char → Bool) : List Char → List Char → Prop where
  | intro {body after : List Char} (hBody : ∀ c ∈ body, ends c = false)
      (hAfter : ∀ c ∈ after.head?, ends c = true) :
      IsLineComment ends ('/' :: '/' :: body) after

/-- A part of action code whose braces do not count: a literal, a comment, or a character that is
no brace and begins neither. Line comments of action code run up to a line feed. -/
inductive Piece : List Char → List Char → Prop where
  | literal {text after : List Char} (h : IsLiteral text after) : Piece text after
  | lineComment {text after : List Char} (h : IsLineComment (· == '\n') text after) :
      Piece text after
  | blockComment {text after : List Char} (h : IsBlockComment text after) : Piece text after
  | other {c : Char} {after : List Char}
      (hPlain : c ∉ ['\x7b', '\x7d', '\'', '"'])
      (hSlash : c = '/' → after.head? ≠ some '/' ∧ after.head? ≠ some '*') :
      Piece [c] after

/-- Action code with as many braces open as given, up to and with the brace that closes the last
of them, or up to the end of the text. -/
inductive Code : Nat → List Char → List Char → Prop where
  | closed (after : List Char) : Code 0 [] after
  | textEnd (depth : Nat) : Code (depth + 1) [] []
  | opening {depth : Nat} {text after : List Char} (tail : Code (depth + 2) text after) :
      Code (depth + 1) ('\x7b' :: text) after
  | closing {depth : Nat} {text after : List Char} (tail : Code depth text after) :
      Code (depth + 1) ('\x7d' :: text) after
  | piece {depth : Nat} {text rest after : List Char} (hPiece : Piece text (rest ++ after))
      (tail : Code (depth + 1) rest after) : Code (depth + 1) (text ++ rest) after

/-- The characters that stand for themselves in a rule. -/
def marks : List (Char × Kind) :=
  [(':', .colon), (';', .semicolon), ('|', .pipe), ('(', .openParen), (')', .closeParen)]

/-- The operators of one character. -/
def operatorChars : List Char :=
  ['*', '+', '?', '=', '~', '!', '^', '.', '<', '>', ',', '@', '$', '#', '%', '&', '/', '\\',
    '[', ']', '-']

/-- The operators of two characters. -/
def operatorPairs : List (Char × Char) :=
  [('.', '.'), ('-', '>'), ('+', '=')]

/-- A text of a kind in front of a rest. An operator of one character begins no longer operator
and no comment, and what is unknown begins nothing else. -/
inductive Lexeme : Kind → List Char → List Char → Prop where
  | identifier {c : Char} {tail after : List Char} (hHead : beginsWord c = true)
      (hTail : ∀ d ∈ tail, continuesWord d = true)
      (hAfter : ∀ d ∈ after.head?, continuesWord d = false) :
      Lexeme .identifier (c :: tail) after
  | number {c : Char} {tail after : List Char} (hDigits : ∀ d ∈ c :: tail, d.isDigit = true)
      (hAfter : ∀ d ∈ after.head?, d.isDigit = false) : Lexeme .number (c :: tail) after
  | mark {c : Char} {kind : Kind} (after : List Char) (hMark : (c, kind) ∈ marks) :
      Lexeme kind [c] after
  | lineComment {text after : List Char} (h : IsLineComment isBreak text after) :
      Lexeme .lineComment text after
  | blockComment {text after : List Char} (h : IsBlockComment text after) :
      Lexeme .blockComment text after
  | literal {text after : List Char} (h : IsLiteral text after) : Lexeme .literal text after
  | block {text after : List Char} (h : Code 1 text after) :
      Lexeme .block ('\x7b' :: text) after
  | pair {c d : Char} (after : List Char) (hPair : (c, d) ∈ operatorPairs) :
      Lexeme .operator [c, d] after
  | operator {c : Char} {after : List Char} (hChar : c ∈ operatorChars)
      (hPair : ∀ d ∈ after.head?, (c, d) ∉ operatorPairs)
      (hSlash : c = '/' → after.head? ≠ some '/' ∧ after.head? ≠ some '*') :
      Lexeme .operator [c] after
  | unknown {c : Char} (after : List Char) (hSkip : isSkipped c = false)
      (hWord : beginsWord c = false) (hDigit : c.isDigit = false)
      (hMark : ∀ kind, (c, kind) ∉ marks) (hOperator : c ∉ operatorChars)
      (hOpening : c ∉ ['\x7b', '\'', '"']) : Lexeme .unknown [c] after

end RuleOutline
