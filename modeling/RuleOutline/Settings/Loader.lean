import RuleOutline.Settings.Error
import RuleOutline.Files
import RuleOutline.Group

/-! The settings of the program, put together from layers: what is built in, then files in the
order they are named, then single values. What comes later wins, key by key. -/
namespace RuleOutline

/-- Which comments are markers, and how an outline is shown. -/
structure Settings where
  markers : Markers
  format : String
  lineNumbers : Bool
  deriving DecidableEq

namespace Settings

/-- What stands in a place, as far as a remark about it goes. -/
def Scalar.found : Scalar → Found
  | .null => .null
  | .flag value => .flag value
  | .int value => .int value
  | .float value => .float value
  | .text value => .text value

/-- A value that is wanted as a text. Truth values and numbers are taken as they are written. -/
def readTextAt (key : String) : Value → Except Error String
  | .scalar (.text value) _ => .ok value
  | .scalar (.flag value) _ => .ok (toString value)
  | .scalar (.int value) _ => .ok (toString value)
  | .scalar (.float value) _ => .ok (Number.floatText value)
  | .scalar .null origin => .error (.wrongType .null "a string" key origin)
  | .list _ origin => .error (.wrongType .list "a string" key origin)
  | .table _ origin => .error (.wrongType .table "a string" key origin)

/-- A value that is wanted as a truth value. Numbers are true unless they are zero, and a few
words are understood in small letters and capitals. -/
def readFlagAt (key : String) : Value → Except Error Bool
  | .scalar (.flag value) _ => .ok value
  | .scalar (.int value) _ => .ok (value != 0)
  | .scalar (.float value) _ => .ok (value != 0.0)
  | .scalar (.text value) origin =>
    let word := Unicode.lowerCase value
    if ["1", "true", "on", "yes"].contains word then .ok true
    else if ["0", "false", "off", "no"].contains word then .ok false
    else .error (.wrongType (.text word) "a boolean" key origin)
  | .scalar .null origin => .error (.wrongType .null "a boolean" key origin)
  | .list _ origin => .error (.wrongType .list "a boolean" key origin)
  | .table _ origin => .error (.wrongType .table "a boolean" key origin)

/-- A section of two fields. A table has them under their names, a list in their order. -/
def readSection {α β : Type} (name expected first second : String)
    (readFirst : String → Value → Except Error α) (readSecond : String → Value → Except Error β)
    (whole : Value) : Except Error (α × β) :=
  match whole with
  | .scalar content _ => .error (.wrongSection content.found expected)
  | .list [] _ => .error (.tooShort 0 expected 2)
  | .list [value] _ => do
    let _ ← readFirst (name ++ "[0]") value
    .error (.tooShort 1 expected 2)
  | .list (value :: other :: _) _ => do
    let value ← readFirst (name ++ "[0]") value
    let other ← readSecond (name ++ "[1]") other
    .ok (value, other)
  | .table entries _ => do
    let value ← (entries.lookup first).mapM (readFirst (name ++ "." ++ first))
    let other ← (entries.lookup second).mapM (readSecond (name ++ "." ++ second))
    match value, other with
    | some value, some other => .ok (value, other)
    | none, _ => .error (.missingField first)
    | _, none => .error (.missingField second)

/-- The settings in a table of all values. -/
def ofValue (root : Value) : Except Error Settings := do
  let (entries, _) := root.asTable
  let markers ← (entries.lookup "markers").mapM
    (readSection "markers" "MarkersConfig" "begin" "end" readTextAt readTextAt)
  let output ← (entries.lookup "output").mapM
    (readSection "output" "OutputConfig" "format" "show_line_numbers" readTextAt readFlagAt)
  match markers, output with
  | some (opening, closing), some (format, lineNumbers) =>
    .ok ⟨⟨opening, closing⟩, format, lineNumbers⟩
  | none, _ => .error (.missingField "markers")
  | _, none => .error (.missingField "output")

/-- The values that are built in. -/
def standardValue : Value :=
  let text (s : String) : Value := .scalar (.text s) none
  .table [
    ("markers", .table [
      ("begin", text Markers.standard.opening), ("end", text Markers.standard.closing)] none),
    ("output", .table [
      ("format", text "treeviz"), ("show_line_numbers", .scalar (.flag false) none)] none)] none

/-- The path with the ending of the language. -/
def settingsPath (path : String) : String :=
  plainPath path ++ ".toml"

/-- Where a file of settings is looked for: under its path, and then under the path with the
ending of the language. -/
def locate? (files : Files) (path : String) : Option (ByteArray × String) :=
  match files path with
  | .ok (.file content) => some (content, plainPath path)
  | _ =>
    if (pathNames path).getLast?.all (· == "..") then none
    else match files (settingsPath path) with
      | .ok (.file content) => some (content, settingsPath path)
      | _ => none

/-- A file of settings. One that may be missing may also hold no text. -/
structure Layer where
  path : String
  required : Bool

/-- The values in a file, over which those of later layers are put. -/
def Layer.read (files : Files) (layer : Layer) : Except Error (List (String × Value)) :=
  match locate? files layer.path with
  | none => if layer.required then .error (.missingFile layer.path) else .ok []
  | some (content, origin) =>
    match String.fromUTF8? content with
    | none => if layer.required then .error .notText else .ok []
    | some text =>
      match Toml.read? text with
      | some entries => .ok (Value.ofTomlEntries origin entries)
      | none => .error (.badFile origin)

/-- Puts a value over the values before. A name that is not written as a path counts as a single
step. -/
def lay (root : Value) (entry : String × Value) : Value :=
  let path := match readPath entry.1 with
    | .ok path => path
    | .error _ => [.name entry.1]
  root.assign entry.2 path

/-- Layers of settings: files in their order, and single values that come after all files. -/
structure Loader where
  layers : List Layer
  overrides : List (List PathStep × Scalar)

namespace Loader

/-- What is built in, and no more. -/
def standard : Loader :=
  ⟨[], []⟩

/-- Adds a file over the files before. -/
def addFile (loader : Loader) (path : String) (required : Bool) : Loader :=
  { loader with layers := loader.layers ++ [⟨path, required⟩] }

/-- Adds a single value over everything before. -/
def addOverride (loader : Loader) (key : String) (value : Scalar) : Except Error Loader :=
  match readPath key with
  | .ok path => .ok { loader with overrides := loader.overrides ++ [(path, value)] }
  | .error error => .error (.badPath error)

/-- Puts a single value over the values before. -/
def overlay (root : Value) (entry : List PathStep × Scalar) : Value :=
  root.assign (.scalar entry.2 none) entry.1

/-- All values, after the files have been read. The first file that cannot be read decides. -/
def values (loader : Loader) (files : Files) : Except Error Value := do
  let read ← loader.layers.mapM (Layer.read files)
  let laid := read.foldl (fun root entries => entries.foldl lay root) standardValue
  .ok (loader.overrides.foldl overlay laid)

/-- The settings that the layers come to. -/
def build (loader : Loader) (files : Files) : Except Error Settings := do
  ofValue (← loader.values files)

end Loader

end Settings

end RuleOutline
