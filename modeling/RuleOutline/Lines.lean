import RuleOutline.Text.Extent

/-! The lines of a text. Offsets count bytes; lines and columns start at one, and columns count
characters. A line ends with its line feed, and a text has one line more than it has line
feeds. -/
namespace RuleOutline

open Text

/-- A place in a text as an editor shows it. -/
structure Position where
  line : Nat
  column : Nat
  deriving DecidableEq

/-- The place as line and column around a colon. -/
def Position.display (position : Position) : String :=
  s!"{position.line}:{position.column}"

/-- A line with the offset of its first byte. Its line feed, if it has one, is part of it. -/
structure Line where
  start : Nat
  chars : List Char

/-- Cuts a text after every line feed. The last piece may be empty. -/
def splitLines : List Char → List (List Char)
  | [] => [[]]
  | c :: cs =>
    if c = '\n' then [c] :: splitLines cs
    else match splitLines cs with
      | [] => [[c]]
      | first :: others => (c :: first) :: others

/-- Pieces of a text, each with its offset, when the first begins at `start`. -/
def placeLines (start : Nat) : List (List Char) → List Line
  | [] => []
  | chars :: others => ⟨start, chars⟩ :: placeLines (start + byteLength chars) others

/-- The lines of a source text, in order. -/
def linesOf (source : String) : List Line :=
  placeLines 0 (splitLines source.toList)

/-- The line that an offset lies on: the number of lines that start at or before it. Offsets
past the end lie on the last line. -/
def lineOf (lines : List Line) (offset : Nat) : Nat :=
  lines.countP (·.start ≤ offset)

/-- How many characters, the first at `start`, lie wholly before the offset. -/
def charsBefore (start offset : Nat) : List Char → Nat
  | [] => 0
  | c :: cs =>
    if start + c.utf8Size ≤ offset then 1 + charsBefore (start + c.utf8Size) offset cs else 0

/-- The place of an offset. Within a character it is the place of the character, past the end
it is the place of the end. -/
def positionOf (lines : List Line) (offset : Nat) : Position :=
  let line := lineOf lines offset
  match lines[line - 1]? with
  | some l => ⟨line, 1 + charsBefore l.start offset l.chars⟩
  | none => ⟨line, 1⟩

/-- The line with a given number, if there is one. -/
def lineAt? (lines : List Line) : Nat → Option Line
  | 0 => none
  | n + 1 => lines[n]?

/-- The text of a line without the line ends it closes with. -/
def Line.text (line : Line) : String :=
  .ofList (line.chars.reverse.dropWhile fun c => c == '\n' || c == '\r').reverse

end RuleOutline
