/-! Values of the configuration language TOML. -/
namespace RuleOutline.Toml

/-- A value as it stands in a file. The names in a table are all different. -/
inductive Value where
  | text (value : String)
  /-- A date or a time, in its agreed form. -/
  | moment (value : String)
  | int (value : Int)
  | float (value : Float)
  | flag (value : Bool)
  | list (items : List Value)
  | table (entries : List (String × Value))

/-- A reader takes something off the front of a text and says what is left. -/
abbrev Reader (α : Type) := List Char → Option (α × List Char)

/-- How deep values may stand in each other, and how many names may follow each other in a
key. -/
def nestingLimit : Nat := 79

end RuleOutline.Toml
