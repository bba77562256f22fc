import RuleOutline.Token

/-! A place among tokens, from which the token there and the next one can be seen. -/
namespace RuleOutline

/-- Tokens with the index of a place among them. The place after the last is the end. -/
structure Cursor where
  tokens : List Token
  index : Nat

namespace Cursor

/-- The place before the first token. -/
def start (tokens : List Token) : Cursor :=
  ⟨tokens, 0⟩

/-- The token at the place. -/
def current? (cursor : Cursor) : Option Token :=
  cursor.tokens[cursor.index]?

/-- The token after the place. -/
def peek? (cursor : Cursor) : Option Token :=
  cursor.tokens[cursor.index + 1]?

/-- The place is not the end. -/
def isInside (cursor : Cursor) : Bool :=
  cursor.index < cursor.tokens.length

/-- The next place. There is none after the end. -/
def advance (cursor : Cursor) : Cursor :=
  if cursor.isInside then { cursor with index := cursor.index + 1 } else cursor

end Cursor

end RuleOutline
