import RuleOutline.Token.Kind
import RuleOutline.Unicode.Letter

/-! How far a token reaches. A token is read one character at a time: its first character says
what is being read, and each further character extends it, ends it, or stays outside. No state
outlives the token, and nothing after the first character outside it is looked at. -/
namespace RuleOutline

/-- Where a reader of action code stands. Braces count in `code` and after a lone slash only. -/
inductive Inside where
  | code
  | slash
  | quoted (quote : Char) (escaped : Bool)
  | lineComment
  | blockComment (star : Bool)
  deriving DecidableEq

/-- What is being read, so far as it decides how the token goes on. -/
inductive Reading where
  /-- A name. -/
  | word
  /-- A run of decimal digits. -/
  | digits
  /-- A token of one character, complete as it stands. -/
  | lone (kind : Kind)
  /-- An operator that the given second character would extend. -/
  | pair (second : Char)
  /-- A slash, which is an operator unless a comment begins with it. -/
  | slash
  | lineComment
  /-- A comment up to star and slash; `star` says that a star came just before. -/
  | blockComment (star : Bool)
  /-- A literal; `escaped` says that a backslash came just before. -/
  | quoted (quote : Char) (escaped : Bool)
  /-- A block with `depth` braces open besides its own. -/
  | block (depth : Nat) (inside : Inside)
  deriving DecidableEq

/-- What the next character does to the token. -/
inductive Step where
  /-- It belongs to the token, which goes on. -/
  | more (next : Reading)
  /-- It is the last character of the token. -/
  | last
  /-- It stands outside the token. -/
  | stop

/-- The characters between tokens: space, tab, line feed, carriage return and form feed. -/
def isSkipped (c : Char) : Bool :=
  c == ' ' || c == '\t' || c == '\n' || c == '\r' || c == '\x0c'

/-- Line ends, which no unescaped part of a literal contains. -/
def isBreak (c : Char) : Bool :=
  c == '\n' || c == '\r'

/-- A character that a name can begin with. -/
def beginsWord (c : Char) : Bool :=
  c == '_' || Unicode.isLetter c

/-- A character that a name can go on with. -/
def continuesWord (c : Char) : Bool :=
  c == '_' || Unicode.isLetter c || Unicode.isNumber c

/-- What a first character that belongs to no word and no number begins. -/
def Reading.ofPunctuation (c : Char) : Reading :=
  match c with
  | ':' => .lone .colon
  | ';' => .lone .semicolon
  | '|' => .lone .pipe
  | '(' => .lone .openParen
  | ')' => .lone .closeParen
  | '\x7b' => .block 0 .code
  | '\'' => .quoted '\'' false
  | '"' => .quoted '"' false
  | '/' => .slash
  | '.' => .pair '.'
  | '-' => .pair '>'
  | '+' => .pair '='
  | '*' | '?' | '=' | '~' | '!' | '^' | '<' | '>' | ',' | '@' | '$' | '#' | '%' | '&' | '\\'
  | '[' | ']' => .lone .operator
  | _ => .lone .unknown

/-- What a first character begins, which is nothing for those between tokens. -/
def Reading.start? (c : Char) : Option Reading :=
  if isSkipped c then none
  else if beginsWord c then some .word
  else if c.isDigit then some .digits
  else some (.ofPunctuation c)

/-- Action code, at a character that no literal and no comment hides. -/
def Reading.inCode (depth : Nat) (c : Char) : Step :=
  match c with
  | '\x7b' => .more (.block (depth + 1) .code)
  | '\x7d' =>
    match depth with
    | 0 => .last
    | depth + 1 => .more (.block depth .code)
  | '\'' => .more (.block depth (.quoted '\'' false))
  | '"' => .more (.block depth (.quoted '"' false))
  | '/' => .more (.block depth .slash)
  | _ => .more (.block depth .code)

/-- Action code, anywhere. -/
def Reading.inBlock (depth : Nat) (inside : Inside) (c : Char) : Step :=
  match inside with
  | .code => inCode depth c
  | .slash =>
    if c = '/' then .more (.block depth .lineComment)
    else if c = '*' then .more (.block depth (.blockComment false))
    else inCode depth c
  | .quoted quote escaped =>
    if escaped then .more (.block depth (.quoted quote false))
    else if c = '\\' then .more (.block depth (.quoted quote true))
    else if isBreak c || c == quote then .more (.block depth .code)
    else .more (.block depth (.quoted quote false))
  | .lineComment =>
    if c = '\n' then .more (.block depth .code) else .more (.block depth .lineComment)
  | .blockComment star =>
    if star && c == '/' then .more (.block depth .code)
    else .more (.block depth (.blockComment (c == '*')))

/-- What the next character does to the token that is being read. -/
def Reading.step (reading : Reading) (c : Char) : Step :=
  match reading with
  | .word => if continuesWord c then .more .word else .stop
  | .digits => if c.isDigit then .more .digits else .stop
  | .lone _ => .stop
  | .pair second => if c = second then .last else .stop
  | .slash =>
    if c = '/' then .more .lineComment
    else if c = '*' then .more (.blockComment false)
    else .stop
  | .lineComment => if isBreak c then .stop else .more .lineComment
  | .blockComment star => if star && c == '/' then .last else .more (.blockComment (c == '*'))
  | .quoted quote escaped =>
    if escaped then .more (.quoted quote false)
    else if c = '\\' then .more (.quoted quote true)
    else if isBreak c then .stop
    else if c = quote then .last
    else .more (.quoted quote false)
  | .block depth inside => inBlock depth inside c

/-- The kind of a token that ends in this state. -/
def Reading.kind : Reading → Kind
  | .word => .identifier
  | .digits => .number
  | .lone kind => kind
  | .pair _ | .slash => .operator
  | .lineComment => .lineComment
  | .blockComment _ => .blockComment
  | .quoted .. => .literal
  | .block .. => .block

/-- A text cut in two: the part that a token takes, and the rest. -/
structure Cut where
  kind : Kind
  taken : List Char
  rest : List Char

/-- Reads on to the end of the token. A token that is never closed reaches to the end. -/
def Reading.run : Reading → List Char → Cut
  | reading, [] => ⟨reading.kind, [], []⟩
  | reading, c :: cs =>
    match reading.step c with
    | .more next =>
      let cut := next.run cs
      ⟨cut.kind, c :: cut.taken, cut.rest⟩
    | .last => ⟨reading.kind, [c], cs⟩
    | .stop => ⟨reading.kind, [], c :: cs⟩

/-- Reading a token neither loses nor moves a character. -/
theorem Reading.taken_append_rest (reading : Reading) (cs : List Char) :
    (reading.run cs).taken ++ (reading.run cs).rest = cs := by
  induction cs generalizing reading with
  | nil => rfl
  | cons c cs ih =>
    unfold run
    split
    next next _ => simp [ih next]
    next => rfl
    next => rfl

/-- What is left is never longer than the text. -/
theorem Reading.length_rest_le (reading : Reading) (cs : List Char) :
    (reading.run cs).rest.length ≤ cs.length := by
  have h := congrArg List.length (taken_append_rest reading cs)
  simp only [List.length_append] at h
  omega

/-- A token that ends before the text does is the same when more text follows. -/
theorem Reading.run_append {reading : Reading} {cs : List Char}
    (h : (reading.run cs).rest ≠ []) (more : List Char) :
    reading.run (cs ++ more) =
      ⟨(reading.run cs).kind, (reading.run cs).taken, (reading.run cs).rest ++ more⟩ := by
  induction cs generalizing reading with
  | nil => simp [run] at h
  | cons c cs ih =>
    rw [List.cons_append]
    unfold run at h ⊢
    split
    next next hstep =>
      rw [hstep] at h
      rw [ih h]
    next => rfl
    next => rfl

/-- What a token takes is a token of the same kind by itself. -/
theorem Reading.run_taken (reading : Reading) (cs : List Char) :
    reading.run (reading.run cs).taken =
      ⟨(reading.run cs).kind, (reading.run cs).taken, []⟩ := by
  induction cs generalizing reading with
  | nil => rfl
  | cons c cs ih =>
    rw [run]
    split
    next next hstep =>
      simp only [run, hstep, ih next]
    next hstep => simp [run, hstep]
    next => rfl

end RuleOutline
