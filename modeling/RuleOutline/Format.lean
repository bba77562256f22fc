import RuleOutline.Tree
import RuleOutline.Datum.Json
import RuleOutline.Datum.Yaml

/-! Formats that a snapshot can be written in, and the collection they are looked up in. -/
namespace RuleOutline

/-- Why a snapshot was not written. -/
inductive FormatError where
  | notFound (name : String)
  | failed (reason : String)
  deriving DecidableEq

/-- The error in words. -/
def FormatError.message : FormatError → String
  | .notFound name => s!"Format '{name}' not found"
  | .failed reason => s!"Serialization error: {reason}"

/-- A way to write snapshots, with the name it is chosen by. -/
structure Format where
  name : String
  description : String
  write : Snapshot → Except FormatError String

namespace Format

/-- The tree view. -/
def tree (lineNumbers : Bool) : Format :=
  ⟨"treeviz", "Visual tree of rules, alternatives and groups",
    fun snapshot => .ok (snapshot.tree lineNumbers)⟩

/-- The snapshot as data in JSON. -/
def json : Format :=
  ⟨"json", "Outline snapshot as pretty-printed JSON",
    fun snapshot => .ok (Json.render 0 snapshot.datum)⟩

/-- The snapshot as data in YAML. -/
def yaml : Format :=
  ⟨"yaml", "Outline snapshot as YAML", fun snapshot => .ok (Yaml.render snapshot.datum)⟩

end Format

/-- Formats by name. They are kept in the order of their names, and no two have the same. -/
structure Registry where
  formats : List Format

namespace Registry

/-- No formats. -/
def empty : Registry :=
  ⟨[]⟩

/-- Puts a format where its name belongs, in place of one with the same name. -/
def insertFormat (format : Format) : List Format → List Format
  | [] => [format]
  | first :: others =>
    match compare format.name first.name with
    | .lt => format :: first :: others
    | .eq => format :: others
    | .gt => first :: insertFormat format others

/-- Adds a format. It takes the place of one with the same name. -/
def insert (registry : Registry) (format : Format) : Registry :=
  ⟨insertFormat format registry.formats⟩

/-- The formats that are always there. -/
def standard : Registry :=
  ((empty.insert (.tree false)).insert .json).insert .yaml

/-- The format with the name. -/
def get? (registry : Registry) (name : String) : Option Format :=
  registry.formats.find? (·.name == name)

/-- The names of the formats, in order. -/
def names (registry : Registry) : List String :=
  registry.formats.map (·.name)

/-- The names of the formats with what they say of themselves, in order. -/
def descriptions (registry : Registry) : List (String × String) :=
  registry.formats.map fun format => (format.name, format.description)

/-- Writes a snapshot in the format with the name. -/
def write (registry : Registry) (snapshot : Snapshot) (name : String) :
    Except FormatError String :=
  match registry.get? name with
  | some format => format.write snapshot
  | none => .error (.notFound name)

/-- The standard formats, with line numbers in the tree view if wanted. -/
def withLineNumbers (lineNumbers : Bool) : Registry :=
  if lineNumbers then standard.insert (.tree true) else standard

end Registry

end RuleOutline
