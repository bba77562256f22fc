import RuleOutline.Datum
import RuleOutline.Datum.YamlScalar

/-! YAML in block layout: a field or an item on a line of its own, two blanks for each record
around it, and lists no further in than the field that holds them. -/
namespace RuleOutline.Yaml

/-- The blanks in front of a line. -/
def margin (indent : Nat) : String :=
  .ofList (List.replicate indent ' ')

/-- Lines of which all but the first have blanks in front. -/
def hanging (indent : Nat) : List String → String
  | [] => ""
  | line :: lines => line ++ String.join (lines.map (margin indent ++ ·))

/-- Lines that all have blanks in front. -/
def indented (indent : Nat) (lines : List String) : String :=
  String.join (lines.map (margin indent ++ ·))

mutual

/-- What stands after the dash of an item, in a list with the given indentation. -/
def item (indent : Nat) : Datum → String
  | .null => "null\n"
  | .flag value => toString value ++ "\n"
  | .count value => toString value ++ "\n"
  | .text value => scalarText (indent + 2) value
  | .list items =>
    if items.isEmpty then "[]\n" else hanging (indent + 2) (itemLines (indent + 2) items)
  | .record fields => hanging (indent + 2) (fieldLines (indent + 2) fields)

/-- What stands after the colon of a field, in a record with the given indentation. -/
def fieldValue (indent : Nat) : Datum → String
  | .null => " null\n"
  | .flag value => " " ++ toString value ++ "\n"
  | .count value => " " ++ toString value ++ "\n"
  | .text value => " " ++ scalarText (indent + 2) value
  | .list items =>
    if items.isEmpty then " []\n" else "\n" ++ indented indent (itemLines indent items)
  | .record fields => "\n" ++ indented (indent + 2) (fieldLines (indent + 2) fields)

/-- The items of a list, each after its dash. -/
def itemLines (indent : Nat) : List Datum → List String
  | [] => []
  | value :: items => ("- " ++ item indent value) :: itemLines indent items

/-- The fields of a record, each after its name. -/
def fieldLines (indent : Nat) : List (String × Datum) → List String
  | [] => []
  | (name, value) :: fields => (name ++ ":" ++ fieldValue indent value) :: fieldLines indent fields

end

/-- A record as a whole text. -/
def render : Datum → String
  | .record fields => indented 0 (fieldLines 0 fields)
  | value => item 0 value

end RuleOutline.Yaml
