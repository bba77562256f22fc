import RuleOutline.Toml.Time
import RuleOutline.Toml.Number
import RuleOutline.Toml.Node

/-! Files of the configuration language: entries and headers, one on a line. -/
namespace RuleOutline.Toml

/-- Text, from behind an opening bracket, up to the closing one: values with commas between them
and perhaps one after the last. -/
def readItems (readValue : Reader Value) : Nat → Reader (List Value)
  | 0, _ => none
  | fuel + 1, cs =>
    match skipFiller cs.length cs with
    | ']' :: cs => some ([], cs)
    | cs => do
      let (item, cs) ← readValue cs
      match skipFiller cs.length cs with
      | ']' :: cs => some ([item], cs)
      | ',' :: cs =>
        let (items, cs) ← readItems readValue fuel cs
        some (item :: items, cs)
      | _ => none

/-- An entry: a key, an equals sign and a value. -/
def readEntry (readValue : Reader Value) (cs : List Char) :
    Option (((List String × String) × Value) × List Char) := do
  let (key, cs) ← readKey cs
  match cs with
  | '=' :: cs =>
    let (value, cs) ← readValue (skipBlanks cs)
    some ((key, value), cs)
  | _ => none

/-- Entries with commas between them up to a closing brace, added to a table. -/
def readEntries (readValue : Reader Value) : Nat → Node → Reader Node
  | 0, _, _ => none
  | fuel + 1, table, cs => do
    let (((steps, name), value), cs) ← readEntry readValue cs
    let table ← table.insert? name value steps
    match skipBlanks cs with
    | '\x7d' :: cs => some (table, cs)
    | ',' :: cs => readEntries readValue fuel table cs
    | _ => none

/-- The empty table of a header or a pair of braces. -/
def Node.emptyTable : Node :=
  .table .headed []

/-- A value, in which others stand no deeper than the given number of levels. -/
def readValue : Nat → Reader Value
  | 0, cs => readFlat cs
  | levels + 1, cs =>
    match cs with
    | '[' :: cs => do
      let (items, cs) ← readItems (readValue levels) (cs.length + 1) cs
      some (.list items, cs)
    | '\x7b' :: cs =>
      match skipBlanks cs with
      | '\x7d' :: cs => some (.table [], cs)
      | cs => do
        let (table, cs) ← readEntries (readValue levels) (cs.length + 1) .emptyTable cs
        some (table.value, cs)
    | cs => readFlat cs
where
  /-- A value in which no others stand. -/
  readFlat (cs : List Char) : Option (Value × List Char) :=
    match cs with
    | 't' :: 'r' :: 'u' :: 'e' :: cs => some (.flag true, cs)
    | 'f' :: 'a' :: 'l' :: 's' :: 'e' :: cs => some (.flag false, cs)
    | '"' :: _ | '\'' :: _ => (readText cs).map fun (text, cs) => (.text text, cs)
    | cs =>
      if looksLikeDate cs || looksLikeTime cs then
        (readMoment .strict cs).map fun (moment, cs) => (.moment moment, cs)
      else readNumber cs

/-- The tables read so far, and the header that entries are added under. -/
structure Progress where
  root : Node
  header : List String

/-- A header on a line of its own, from behind its first bracket. -/
def readHeader (progress : Progress) (cs : List Char) : Option (Progress × List Char) :=
  match cs with
  | '[' :: cs => do
    let ((steps, name), cs) ← readKey cs
    let root ← progress.root.change? (·.openNext? name) steps
    match cs with
    | ']' :: ']' :: cs => some (⟨root, steps ++ [name]⟩, ← skipLineEnd? cs)
    | _ => none
  | cs => do
    let ((steps, name), cs) ← readKey cs
    let root ← progress.root.change? (·.openTable? name) steps
    match cs with
    | ']' :: cs => some (⟨root, steps ++ [name]⟩, ← skipLineEnd? cs)
    | _ => none

/-- An entry on a line of its own. -/
def readLine (progress : Progress) (cs : List Char) : Option (Progress × List Char) := do
  let (((steps, name), value), cs) ← readEntry (readValue nestingLimit) cs
  let root ← progress.root.change? (·.insert? name value steps) progress.header
  some (⟨root, progress.header⟩, ← skipLineEnd? cs)

/-- The lines of a file, of which there are no more than `fuel`. -/
def readLines : Nat → Progress → List Char → Option Node
  | 0, _, _ => none
  | fuel + 1, progress, cs =>
    match skipBlanks cs with
    | [] => some progress.root
    | '[' :: cs => do
      let (progress, cs) ← readHeader progress cs
      readLines fuel progress cs
    | cs =>
      match skipLineEnd? cs with
      | some cs => readLines fuel progress cs
      | none => do
        let (progress, cs) ← readLine progress cs
        readLines fuel progress cs

/-- The entries of a file, if it follows the rules of the language. A mark of the byte order in
front is not part of the text. A file that is marked as a date has no entries to give. -/
def read? (source : String) : Option (List (String × Value)) :=
  let cs := match source.toList with
    | c :: cs => if c.toNat = 0xFEFF then cs else c :: cs
    | [] => []
  match (readLines (cs.length + 1) ⟨.emptyTable, []⟩ cs).bind (·.value.unmarked?) with
  | some (.table entries) => some entries
  | _ => none

end RuleOutline.Toml
