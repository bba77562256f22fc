import RuleOutline.Number.Decimal

/-! Texts in YAML. A text stands plain where a reader takes it for the same text, and otherwise
in single quotes, as a literal block or in double quotes: the first of these that can hold it. -/
namespace RuleOutline.Yaml

/-- How a text is written. -/
inductive Style where
  | plain
  | singleQuoted
  | doubleQuoted
  | literal
  deriving DecidableEq

/-- Line ends. -/
def isBreak (c : Char) : Bool :=
  let n := c.toNat
  n == 0x0A || n == 0x0D || n == 0x85 || n == 0x2028 || n == 0x2029

/-- A character that can stand outside double quotes. -/
def isPrintable (c : Char) : Bool :=
  let n := c.toNat
  n == 0x0A || (0x20 ≤ n && n ≤ 0x7E) || (0xA0 ≤ n && n ≤ 0xD7FF) ||
    (0xE000 ≤ n && n ≤ 0xFFFD && n != 0xFEFF) || (0x10000 ≤ n && n ≤ 0x10FFFF)

/-- The end of the text, a blank or a line end. -/
def endsWord : List Char → Bool
  | [] => true
  | c :: _ => c == ' ' || c == '\t' || c == '\x00' || isBreak c

/-- The text without a sign in front. -/
def unsigned : List Char → List Char
  | '+' :: cs => cs
  | '-' :: cs => cs
  | cs => cs

/-- Null and the two truth values. -/
def isKeyword (s : String) : Bool :=
  ["", "~", "null", "Null", "NULL", "true", "True", "TRUE", "false", "False", "FALSE"].contains s

/-- The digits of a number in a base from two to sixteen. -/
def digitsIn? (base : Nat) (cs : List Char) : Option Nat :=
  if cs.isEmpty then none
  else cs.foldl (fun value c => value.bind fun value =>
    let digit :=
      if c.isDigit then c.toNat - '0'.toNat
      else if 'a' ≤ c && c ≤ 'f' then c.toNat - 'a'.toNat + 10
      else if 'A' ≤ c && c ≤ 'F' then c.toNat - 'A'.toNat + 10
      else base
    if digit < base then some (base * value + digit) else none) (some 0)

/-- A whole number, in decimal or with the mark of another base, that fits into 128 bits. -/
def isInteger (cs : List Char) : Bool :=
  let limit := if cs.head? == some '-' then Nat.pow 2 127 else Nat.pow 2 128 - 1
  let value := match unsigned cs with
    | '0' :: 'x' :: ds => digitsIn? 16 ds
    | '0' :: 'o' :: ds => digitsIn? 8 ds
    | '0' :: 'b' :: ds => digitsIn? 2 ds
    | ds => digitsIn? 10 ds
  match value with
  | some value => value ≤ limit
  | none => false

/-- A number with or without fraction and exponent that is finite in double precision, or one of
the words for infinity and for no number. -/
def isFloat (cs : List Char) : Bool :=
  let word := String.ofList (unsigned cs)
  let finite := match cs with
    | '+' :: '+' :: _ | '+' :: '-' :: _ => false
    | _ => match Number.Decimal.read? cs with
      | some decimal => decimal.toFloat.isFinite
      | none => false
  finite || [".inf", ".Inf", ".INF"].contains word ||
    [".nan", ".NaN", ".NAN"].contains (String.ofList cs)

/-- Two digits or more, of which the first is zero, after a sign if there is one. -/
def isZeroPadded (cs : List Char) : Bool :=
  match unsigned cs with
  | '0' :: c :: ds => (c :: ds).all Char.isDigit
  | _ => false

/-- A reader would take the plain text for something else than a text. -/
def isAmbiguous (s : String) : Bool :=
  isKeyword s || isInteger s.toList || isFloat s.toList || isZeroPadded s.toList

/-- Some character with the first property stands right before one with the second. -/
def hasPair (p q : Char → Bool) : List Char → Bool
  | a :: b :: cs => (p a && q b) || hasPair p q (b :: cs)
  | _ => false

/-- A colon that ends a word, or a number sign that begins one. -/
def hasIndicator : List Char → Bool
  | [] => false
  | c :: cs =>
    (c == ':' && endsWord cs) || (endsWord [c] && cs.head? == some '#') || hasIndicator cs

/-- A first character that gives a plain text another meaning. -/
def beginsIndicator (cs : List Char) : Bool :=
  match cs with
  | [] => false
  | c :: rest =>
    "#,[]\x7b\x7d&*!|>'\"%@\x60".toList.contains c ||
      ((c == '?' || c == ':' || c == '-') && endsWord rest) ||
      "---".toList.isPrefixOf cs || "...".toList.isPrefixOf cs

/-- The text can stand plain. -/
def allowsPlain (cs : List Char) : Bool :=
  cs.all isPrintable && !cs.any isBreak && cs.head? != some ' ' && cs.getLast? != some ' ' &&
    !beginsIndicator cs && !hasIndicator cs

/-- The text can stand in single quotes. -/
def allowsSingleQuoted (cs : List Char) : Bool :=
  cs.all isPrintable && !hasPair (· == ' ') isBreak cs && !hasPair isBreak (· == ' ') cs

/-- The text can stand as a literal block. -/
def allowsLiteral (cs : List Char) : Bool :=
  cs.all isPrintable && !hasPair (· == ' ') isBreak cs && cs.getLast? != some ' '

/-- The style that a text is written in. -/
def styleOf (s : String) : Style :=
  let cs := s.toList
  if cs.contains '\n' then if allowsLiteral cs then .literal else .doubleQuoted
  else if !isAmbiguous s && allowsPlain cs then .plain
  else if allowsSingleQuoted cs then .singleQuoted
  else .doubleQuoted

/-- A number in base sixteen with at least the given number of digits, in capitals. -/
def hexPadded (width n : Nat) : List Char :=
  let ds := (Nat.toDigits 16 n).map Char.toUpper
  List.replicate (width - ds.length) '0' ++ ds

/-- A character as it stands between double quotes. -/
def escapeChar (c : Char) : List Char :=
  match c.toNat with
  | 0x00 => ['\\', '0']
  | 0x07 => ['\\', 'a']
  | 0x08 => ['\\', 'b']
  | 0x09 => ['\\', 't']
  | 0x0A => ['\\', 'n']
  | 0x0B => ['\\', 'v']
  | 0x0C => ['\\', 'f']
  | 0x0D => ['\\', 'r']
  | 0x1B => ['\\', 'e']
  | 0x22 => ['\\', '"']
  | 0x5C => ['\\', '\\']
  | 0x85 => ['\\', 'N']
  | 0x2028 => ['\\', 'L']
  | 0x2029 => ['\\', 'P']
  | n =>
    if isPrintable c then [c]
    else if n ≤ 0xFF then '\\' :: 'x' :: hexPadded 2 n
    else if n ≤ 0xFFFF then '\\' :: 'u' :: hexPadded 4 n
    else '\\' :: 'U' :: hexPadded 8 n

/-- Characters with blanks in front of each line, `fresh` saying that a line begins here. Lines
without characters have no blanks, except a last one if `closed` is set. -/
def indentLines (indent : Nat) (closed fresh : Bool) : List Char → List Char
  | [] => if fresh && closed then List.replicate indent ' ' else []
  | c :: cs =>
    if isBreak c then c :: indentLines indent closed true cs
    else if fresh then List.replicate indent ' ' ++ c :: indentLines indent closed false cs
    else c :: indentLines indent closed false cs

/-- The marks after the bar of a literal block: the indentation if it cannot be seen from the
first line, and what becomes of the line ends that the text closes with. -/
def literalMarks (cs : List Char) : List Char :=
  let indentation := match cs with
    | c :: _ => if c == ' ' || isBreak c then ['2'] else []
    | [] => []
  let closing := match cs.reverse with
    | c :: rest =>
      if !isBreak c then ['-']
      else match rest with
        | d :: _ => if isBreak d then ['+'] else []
        | [] => ['+']
    | [] => ['-']
  indentation ++ closing

/-- A text with the line end after it. The lines of a text that takes several are indented. -/
def scalarText (indent : Nat) (s : String) : String :=
  let cs := s.toList
  match styleOf s with
  | .plain => s ++ "\n"
  | .singleQuoted =>
    let doubled := cs.flatMap fun c => if c == '\'' then [c, c] else [c]
    .ofList ('\'' :: (indentLines indent true false doubled ++ ['\'', '\n']))
  | .doubleQuoted => .ofList ('"' :: (cs.flatMap escapeChar ++ ['"', '\n']))
  | .literal =>
    let ending := match cs.getLast? with
      | some c => if isBreak c then [] else ['\n']
      | none => ['\n']
    .ofList ('|' :: (literalMarks cs ++ '\n' :: (indentLines indent false true cs ++ ending)))

end RuleOutline.Yaml
