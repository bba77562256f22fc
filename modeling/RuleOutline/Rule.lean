import RuleOutline.Token
import RuleOutline.Finding
import RuleOutline.LeftRecursion
import RuleOutline.Unicode.Case

/-! Rules. A rule runs from its name, or the keyword before it, over a colon to a semicolon. It
keeps its own tokens, so all that is asked of it later is a function of the rule alone. -/
namespace RuleOutline

/-- A rule whose first token has the given index among the tokens of its text. The tokens of the
heading lie between the first token and the first colon, those of the body between that colon
and the semicolon. -/
structure Rule where
  name : String
  index : Nat
  first : Token
  heading : List Token
  colon : Token
  body : List Token
  semicolon : Token
  findings : List Finding := []

namespace Rule

/-- All tokens of the rule but its semicolon. -/
def tokens (rule : Rule) : List Token :=
  rule.first :: (rule.heading ++ rule.colon :: rule.body)

/-- The index of the semicolon. -/
def stopIndex (rule : Rule) : Nat :=
  rule.index + rule.tokens.length

/-- The offset of the first byte. -/
def start (rule : Rule) : Nat :=
  rule.first.start

/-- The offset after the semicolon. -/
def stop (rule : Rule) : Nat :=
  rule.semicolon.stop

/-- The number of bytes from the first token up to and with the semicolon. -/
def length (rule : Rule) : Nat :=
  rule.stop - rule.start

/-- The offset lies on the text of the rule. -/
def covers (rule : Rule) (offset : Nat) : Bool :=
  rule.start ≤ offset && offset < rule.stop

/-- The bytes of the body, an empty body lying where the semicolon starts. -/
def bodySpan (rule : Rule) : Nat × Nat :=
  match rule.body.head?, rule.body.getLast? with
  | some first, some last => (first.start, last.stop)
  | _, _ => (rule.semicolon.start, rule.semicolon.start)

/-- Names of lexer rules are written in capitals. -/
def isLexerRule (rule : Rule) : Bool :=
  Unicode.isUpperCase rule.name

/-- The blocks among tokens that follow a given one, without those right after the word
`options`, which hold settings and no action. -/
def actionBlocks (previous : Token) : List Token → List Token
  | [] => []
  | token :: tokens =>
    if token.kind == .block && !previous.isWord "options" then token :: actionBlocks token tokens
    else actionBlocks token tokens

/-- The action blocks of the rule. Its first token is a word and never one of them. -/
def blocks (rule : Rule) : List Token :=
  actionBlocks rule.first (rule.heading ++ rule.colon :: rule.body)

/-- Puts a token in front of the first piece. -/
def growFirst (token : Token) : List (List Token) → List (List Token)
  | [] => [[token]]
  | piece :: pieces => (token :: piece) :: pieces

/-- Cuts a body at the bars outside parentheses, `depth` of which are open. There is one piece
more than there are such bars. -/
def splitPipes (depth : Int) : List Token → List (List Token)
  | [] => [[]]
  | token :: tokens =>
    match token.kind with
    | .openParen => growFirst token (splitPipes (depth + 1) tokens)
    | .closeParen => growFirst token (splitPipes (depth - 1) tokens)
    | .pipe =>
      if depth = 0 then [] :: splitPipes depth tokens else growFirst token (splitPipes depth tokens)
    | _ => growFirst token (splitPipes depth tokens)

/-- The list without its last member if that is empty. -/
def dropEmptyLast (pieces : List (List Token)) : List (List Token) :=
  match pieces.getLast? with
  | some [] => pieces.dropLast
  | _ => pieces

/-- The body without blocks and comments. -/
def shape (rule : Rule) : List Token :=
  rule.body.filter (!·.kind.isOpaque)

/-- The alternatives of the rule: the pieces of its body, of which an empty last one does not
count. -/
def alternatives (rule : Rule) : List (List Token) :=
  dropEmptyLast (splitPipes 0 rule.shape)

/-- The alternatives by their texts. -/
def alternativeTexts (rule : Rule) : List Alternative :=
  rule.alternatives.map fun alternative => alternative.map (·.text)

/-- The rule is directly left recursive. -/
def isLeftRecursive (rule : Rule) : Bool :=
  RuleOutline.isLeftRecursive rule.name rule.alternativeTexts

/-- The body that the rule would have without left recursion. -/
def unrolled (rule : Rule) : String :=
  (Unrolled.of rule.name rule.alternativeTexts).text

/-- Rules are ordered by their names alone, so rules of one name count as equal. -/
def order (a b : Rule) : Ordering :=
  compare a.name b.name

/-- Something was found about the rule. -/
def hasFindings (rule : Rule) : Bool :=
  !rule.findings.isEmpty

/-- The messages of the findings, in order. -/
def messages (rule : Rule) : List String :=
  rule.findings.map (·.message)

/-- The messages, one on a line. -/
def messageText (rule : Rule) : String :=
  "\n".intercalate rule.messages

/-- The messages as a page for a tool tip. -/
def messageHtml (rule : Rule) : String :=
  "<html>" ++ "<br>".intercalate rule.messages ++ "</html>"

end Rule

end RuleOutline
