import RuleOutline.Datum

/-! JSON, laid out with one item or field on a line and two blanks for each level. -/
namespace RuleOutline.Json

/-- The digit of base sixteen for a number below sixteen. -/
def hexDigit (n : Nat) : Char :=
  Nat.digitChar n

/-- A character as it stands between quotes. Only quotes, backslashes and controls change. -/
def escapeChar (c : Char) : List Char :=
  match c with
  | '"' => ['\\', '"']
  | '\\' => ['\\', '\\']
  | '\x08' => ['\\', 'b']
  | '\x0c' => ['\\', 'f']
  | '\n' => ['\\', 'n']
  | '\r' => ['\\', 'r']
  | '\t' => ['\\', 't']
  | c =>
    if c.toNat < 0x20 then ['\\', 'u', '0', '0', hexDigit (c.toNat / 16), hexDigit (c.toNat % 16)]
    else [c]

/-- A text between quotes. -/
def quoted (s : String) : String :=
  .ofList ('"' :: (s.toList.flatMap escapeChar ++ ['"']))

/-- The blanks in front of a line at a level. -/
def margin (level : Nat) : String :=
  .ofList (List.replicate (2 * level) ' ')

/-- Lines between brackets that stand at a level. Without lines the brackets stand together. -/
def bracketed (opening closing : String) (level : Nat) (lines : List String) : String :=
  if lines.isEmpty then opening ++ closing
  else
    let lines := lines.map (margin (level + 1) ++ ·)
    opening ++ "\n" ++ ",\n".intercalate lines ++ "\n" ++ margin level ++ closing

mutual

/-- A datum whose last line stands at a level. -/
def render (level : Nat) : Datum → String
  | .null => "null"
  | .flag value => toString value
  | .count value => toString value
  | .text value => quoted value
  | .list items => bracketed "[" "]" level (renderItems (level + 1) items)
  | .record fields => bracketed "\x7b" "\x7d" level (renderFields (level + 1) fields)

/-- The items of a list. -/
def renderItems (level : Nat) : List Datum → List String
  | [] => []
  | item :: items => render level item :: renderItems level items

/-- The fields of a record, each after its name. -/
def renderFields (level : Nat) : List (String × Datum) → List String
  | [] => []
  | (name, value) :: fields =>
    (quoted name ++ ": " ++ render level value) :: renderFields level fields

end

end RuleOutline.Json
