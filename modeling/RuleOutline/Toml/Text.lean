import RuleOutline.Toml.Value

/-! Blanks, comments, texts and keys. -/
namespace RuleOutline.Toml

/-- Blanks within a line. -/
def isBlank (c : Char) : Bool :=
  c == ' ' || c == '\t'

/-- A character that a comment or a text may hold as it is. -/
def isOrdinary (c : Char) : Bool :=
  c == '\t' || (0x20 ≤ c.toNat && c.toNat ≤ 0x7E) || 0x80 ≤ c.toNat

/-- The text after the blanks at its front. -/
def skipBlanks (cs : List Char) : List Char :=
  cs.dropWhile isBlank

/-- The text after the line end at its front. -/
def skipNewline? : List Char → Option (List Char)
  | '\n' :: cs => some cs
  | '\r' :: '\n' :: cs => some cs
  | _ => none

/-- The text after the comment at its front, if there is one. -/
def skipComment : List Char → List Char
  | '#' :: cs => cs.dropWhile isOrdinary
  | cs => cs

/-- The text of the next line, if nothing but a comment is left of this one. -/
def skipLineEnd? (cs : List Char) : Option (List Char) :=
  match skipComment (skipBlanks cs) with
  | [] => some []
  | cs => skipNewline? cs

/-- The text after all blanks, line ends and comments at its front, of which there are no more
than `fuel`. -/
def skipFiller : Nat → List Char → List Char
  | 0, cs => cs
  | fuel + 1, cs =>
    let cs := skipBlanks cs
    match skipNewline? (skipComment cs) with
    | some rest => skipFiller fuel rest
    | none => cs

/-- The text after all blanks and line ends at its front. A carriage return alone ends no line. -/
def skipSpace : List Char → List Char
  | '\r' :: '\n' :: cs => skipSpace cs
  | c :: cs => if isBlank c || c == '\n' then skipSpace cs else c :: cs
  | [] => []

/-- The value of a digit of base sixteen. -/
def hexValue? (c : Char) : Option Nat :=
  if c.isDigit then some (c.toNat - '0'.toNat)
  else if 'a' ≤ c && c ≤ 'f' then some (c.toNat - 'a'.toNat + 10)
  else if 'A' ≤ c && c ≤ 'F' then some (c.toNat - 'A'.toNat + 10)
  else none

/-- The character whose code point is written with the given number of digits. -/
def readCodePoint : Nat → Nat → Reader Char
  | 0, code, cs => if code.isValidChar then some (Char.ofNat code, cs) else none
  | _ + 1, _, [] => none
  | count + 1, code, c :: cs => do
    let digit ← hexValue? c
    readCodePoint count (16 * code + digit) cs

/-- The character that is written after a backslash. -/
def readEscape : Reader Char
  | 'b' :: cs => some ('\x08', cs)
  | 't' :: cs => some ('\t', cs)
  | 'n' :: cs => some ('\n', cs)
  | 'f' :: cs => some ('\x0c', cs)
  | 'r' :: cs => some ('\r', cs)
  | '"' :: cs => some ('"', cs)
  | '\\' :: cs => some ('\\', cs)
  | 'u' :: cs => readCodePoint 4 0 cs
  | 'U' :: cs => readCodePoint 8 0 cs
  | _ => none

/-- Puts characters in front of a text that has been read. -/
def after (front : List Char) (text : Option (List Char × List Char)) :
    Option (List Char × List Char) :=
  text.map fun (read, rest) => (front ++ read, rest)

/-- A text on one line, from behind its opening quote. -/
def readBasic : Nat → Reader (List Char)
  | 0, _ => none
  | fuel + 1, cs =>
    match cs with
    | [] => none
    | '"' :: cs => some ([], cs)
    | '\\' :: cs => do
      let (c, cs) ← readEscape cs
      after [c] (readBasic fuel cs)
    | c :: cs => if isOrdinary c then after [c] (readBasic fuel cs) else none

/-- A text on one line without escapes, from behind its opening apostrophe. -/
def readLiteral (cs : List Char) : Option (List Char × List Char) :=
  let text := cs.takeWhile fun c => isOrdinary c && c != '\''
  match cs.drop text.length with
  | '\'' :: rest => some (text, rest)
  | _ => none

/-- The end of a text over several lines, from behind three quotes. Up to two quotes more belong
to the text. -/
def readClosing (quote : Char) (cs : List Char) : List Char × List Char :=
  let extra := (cs.take 2).takeWhile (· == quote)
  (extra, cs.drop extra.length)

/-- A text over several lines, from behind its opening quotes. A backslash at the end of a line
takes the line end and all blanks and line ends after it away. -/
def readMultiBasic : Nat → Reader (List Char)
  | 0, _ => none
  | fuel + 1, cs =>
    match cs with
    | [] => none
    | '"' :: '"' :: '"' :: cs => some (readClosing '"' cs)
    | '\\' :: cs =>
      match skipNewline? (skipBlanks cs) with
      | some rest => readMultiBasic fuel (skipSpace rest)
      | none => do
        let (c, cs) ← readEscape cs
        after [c] (readMultiBasic fuel cs)
    | c :: rest =>
      match skipNewline? cs with
      | some rest => after ['\n'] (readMultiBasic fuel rest)
      | none => if isOrdinary c then after [c] (readMultiBasic fuel rest) else none

/-- A text over several lines without escapes, from behind its opening apostrophes. -/
def readMultiLiteral : Nat → Reader (List Char)
  | 0, _ => none
  | fuel + 1, cs =>
    match cs with
    | [] => none
    | '\'' :: '\'' :: '\'' :: cs => some (readClosing '\'' cs)
    | c :: rest =>
      match skipNewline? cs with
      | some rest => after ['\n'] (readMultiLiteral fuel rest)
      | none => if isOrdinary c then after [c] (readMultiLiteral fuel rest) else none

/-- The text after a line end at its front, if there is one. -/
def skipFirstNewline (cs : List Char) : List Char :=
  (skipNewline? cs).getD cs

/-- A text in any of its four forms. -/
def readText (cs : List Char) : Option (String × List Char) :=
  let text := match cs with
    | '"' :: '"' :: '"' :: cs => readMultiBasic (cs.length + 1) (skipFirstNewline cs)
    | '"' :: cs => readBasic (cs.length + 1) cs
    | '\'' :: '\'' :: '\'' :: cs => readMultiLiteral (cs.length + 1) (skipFirstNewline cs)
    | '\'' :: cs => readLiteral cs
    | _ => none
  text.map fun (text, rest) => (.ofList text, rest)

/-- A character of a name without quotes. -/
def isBare (c : Char) : Bool :=
  c.isAlphanum || c == '_' || c == '-'

/-- One name of a key, with or without quotes. -/
def readName (cs : List Char) : Option (String × List Char) :=
  let name := match cs with
    | '"' :: cs => readBasic (cs.length + 1) cs
    | '\'' :: cs => readLiteral cs
    | cs =>
      let name := cs.takeWhile isBare
      if name.isEmpty then none else some (name, cs.dropWhile isBare)
  name.map fun (name, rest) => (.ofList name, rest)

/-- The names of a key, with points and blanks between them. -/
def readNames : Nat → Reader (List String)
  | 0, _ => none
  | fuel + 1, cs => do
    let (name, cs) ← readName (skipBlanks cs)
    match skipBlanks cs with
    | '.' :: cs =>
      let (names, cs) ← readNames fuel cs
      some (name :: names, cs)
    | cs => some ([name], cs)

/-- A key: the names of the tables it leads through, and its last name. -/
def readKey (cs : List Char) : Option ((List String × String) × List Char) := do
  let (names, cs) ← readNames nestingLimit cs
  let name ← names.getLast?
  some ((names.dropLast, name), cs)

end RuleOutline.Toml
