import RuleOutline.Token.Reading
import RuleOutline.Text.Extent
import RuleOutline.Text.Quoted

/-! Tokens: the text of a grammar cut into names, punctuation, literals, blocks and comments.
Every text has tokens, however incomplete it is. -/
namespace RuleOutline

open Text

/-- A token with the bytes it covers, from `start` up to `stop`, and the line it starts on. -/
structure Token where
  kind : Kind
  text : String
  start : Nat
  stop : Nat
  line : Nat
  deriving DecidableEq

/-- The token is the given word. -/
def Token.isWord (token : Token) (word : String) : Bool :=
  token.kind == .identifier && token.text == word

/-- The token on one line: line, kind, span and quoted text. -/
def Token.display (token : Token) : String :=
  s!"{token.line} {token.kind.name} {token.start}..{token.stop} {quoted token.text}"

/-- The tokens of a text that begins at the given offset and line. -/
def tokensFrom (offset line : Nat) (cs : List Char) : List Token :=
  match cs with
  | [] => []
  | c :: rest =>
    match Reading.start? c with
    | none => tokensFrom (offset + c.utf8Size) (line + if c = '\n' then 1 else 0) rest
    | some reading =>
      let cut := reading.run rest
      let text := c :: cut.taken
      let stop := offset + byteLength text
      ⟨cut.kind, .ofList text, offset, stop, line⟩ ::
        tokensFrom stop (line + lineFeeds text) cut.rest
termination_by cs.length
decreasing_by
  · simp
  · exact Nat.lt_succ_of_le (reading.length_rest_le rest)

/-- The tokens of a source text. -/
def tokenize (source : String) : List Token :=
  tokensFrom 0 1 source.toList

end RuleOutline
