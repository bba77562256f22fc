import RuleOutline.Toml.Document
import RuleOutline.Unicode.Case

/-! Values of settings. Each knows the file it comes from, so that a remark about it can name
the file. -/
namespace RuleOutline.Settings

/-- A value without parts. -/
inductive Scalar where
  | null
  | flag (value : Bool)
  | int (value : Int)
  | float (value : Float)
  | text (value : String)

/-- A value with the file it comes from. The names in a table are all different. -/
inductive Value where
  | scalar (content : Scalar) (origin : Option String)
  | list (items : List Value) (origin : Option String)
  | table (entries : List (String × Value)) (origin : Option String)

namespace Value

/-- The value that stands where none was set. -/
def null : Value :=
  .scalar .null none

/-- The table without entries. -/
def emptyTable : Value :=
  .table [] none

mutual

/-- A value that was read from a file. -/
def ofToml (origin : String) : Toml.Value → Value
  | .text value | .moment value => .scalar (.text value) origin
  | .int value => .scalar (.int value) origin
  | .float value => .scalar (.float value) origin
  | .flag value => .scalar (.flag value) origin
  | .list items => .list (ofTomlItems origin items) origin
  | .table entries => .table (ofTomlEntries origin entries) origin

/-- Several values that were read from a file. -/
def ofTomlItems (origin : String) : List Toml.Value → List Value
  | [] => []
  | item :: items => ofToml origin item :: ofTomlItems origin items

/-- Named values that were read from a file. -/
def ofTomlEntries (origin : String) : List (String × Toml.Value) → List (String × Value)
  | [] => []
  | (name, value) :: entries => (name, ofToml origin value) :: ofTomlEntries origin entries

end

/-- The entries and the origin of a table. What is no table counts as one without entries. -/
def asTable : Value → List (String × Value) × Option String
  | .table entries origin => (entries, origin)
  | _ => ([], none)

/-- The items and the origin of a list. What is no list counts as one without items. -/
def asList : Value → List Value × Option String
  | .list items origin => (items, origin)
  | _ => ([], none)

/-- Puts an entry in place of the one with the same name, or at the end. -/
def put (name : String) (value : Value) : List (String × Value) → List (String × Value)
  | [] => [(name, value)]
  | entry :: entries =>
    if entry.1 = name then (name, value) :: entries else entry :: put name value entries

/-- Changes the entry of a table under a name, which counts as null if it is missing. Capitals
in names do not matter. -/
def changeEntry (name : String) (f : Option Value → Value) (target : Value) : Value :=
  let (entries, origin) := target.asTable
  let name := Unicode.lowerCase name
  .table (put name (f (entries.lookup name)) entries) origin

mutual

/-- Sets an entry of a table. A table is merged into what is there, entry by entry; any other
value takes its place. -/
def merge (target : Value) (name : String) (value : Value) : Value :=
  match value with
  | .table entries _ =>
    target.changeEntry name fun old => mergeAll (old.getD emptyTable) entries
  | .scalar content origin => target.changeEntry name fun _ => .scalar content origin
  | .list items origin => target.changeEntry name fun _ => .list items origin

/-- Sets several entries of a table, one after the other. -/
def mergeAll (target : Value) (entries : List (String × Value)) : Value :=
  match entries with
  | [] => target
  | (name, value) :: entries => mergeAll (merge target name value) entries

end

end Value

end RuleOutline.Settings
