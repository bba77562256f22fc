/-! The lexical classes of grammar text. -/
namespace RuleOutline

/-- What a token is. Action code and the bodies of header sections are a single block each. -/
inductive Kind where
  | identifier
  | colon
  | semicolon
  | pipe
  | openParen
  | closeParen
  | block
  | lineComment
  | blockComment
  | literal
  | number
  | operator
  | unknown
  deriving DecidableEq

/-- The name under which the kind is listed. -/
def Kind.name : Kind → String
  | .identifier => "Identifier"
  | .colon => "Colon"
  | .semicolon => "Semicolon"
  | .pipe => "Pipe"
  | .openParen => "OpenParen"
  | .closeParen => "CloseParen"
  | .block => "Block"
  | .lineComment => "SingleLineComment"
  | .blockComment => "MultiLineComment"
  | .literal => "Literal"
  | .number => "Number"
  | .operator => "Operator"
  | .unknown => "Unknown"

/-- Comments of either form. -/
def Kind.isComment : Kind → Bool
  | .lineComment | .blockComment => true
  | _ => false

/-- Kinds that take no part in the shape of an alternative: blocks and comments. -/
def Kind.isOpaque : Kind → Bool
  | .block => true
  | kind => kind.isComment

end RuleOutline
