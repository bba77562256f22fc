import RuleOutline.Command.Request
import RuleOutline.Failure

/-! The program as a function from a command line and files to what is printed. -/
namespace RuleOutline

/-- What a run leaves behind: the code it ends with, and what it printed. -/
structure Outcome where
  code : Nat
  output : String
  errors : String
  deriving DecidableEq

/-- How the program is called, for those who ask. -/
def usage : String :=
  "Usage: grammar-outline outline <path> [--format <format>] [--config <file>]" ++
  " [--line-numbers]\n" ++
  "       grammar-outline tokens <path>\n" ++
  "       grammar-outline left-recursion <path>\n" ++
  "       grammar-outline list-formats\n"

/-- The document in a file, read by the given markers. -/
def readDocument (files : Files) (markers : Markers) (path : String) :
    Except Failure Document :=
  match files.readText path with
  | .ok source => .ok (.read markers source)
  | .error error => .error (.unreadable path error.message)

/-- The settings for an outline: those of a file over what is built in, and over these what the
command line asks for. -/
def outlineSettings (files : Files) (path format : Option String) (lineNumbers : Bool) :
    Except Settings.Error Settings := do
  let loader := match path with
    | some path => Settings.Loader.standard.addFile path true
    | none => .standard
  let loader ← match format with
    | some format => loader.addOverride "output.format" (.text format)
    | none => .ok loader
  let loader ←
    if lineNumbers then loader.addOverride "output.show_line_numbers" (.flag true)
    else .ok loader
  loader.build files

/-- The outline of a grammar. The settings are read before the grammar, and the format is looked
up after it. -/
def showOutline (files : Files) (path : String) (format settings : Option String)
    (lineNumbers : Bool) : Except Failure String :=
  match outlineSettings files settings format lineNumbers with
  | .error error => .error (.settings error)
  | .ok settings => do
    let document ← readDocument files settings.markers path
    let registry := Registry.withLineNumbers settings.lineNumbers
    match registry.write document.snapshot settings.format with
    | .ok text => .ok text
    | .error error => .error (.format error)

/-- The tokens, one on a line. -/
def tokenListing (tokens : List Token) : String :=
  String.join (tokens.map fun token => token.display ++ "\n")

/-- The left recursive rules of an outline as rules without left recursion, one on a line. -/
def leftRecursionListing (outline : Outline) : String :=
  String.join (outline.leftRecursiveRules.map fun rule => s!"{rule.name} : {rule.unrolled} ;\n")

/-- The formats with what they say of themselves. -/
def formatListing (registry : Registry) : String :=
  "Available output formats:\n\n" ++
    String.join (registry.descriptions.map fun (name, text) => s!"  {name}\n    {text}\n")

/-- What a request comes to. -/
def Request.answer (files : Files) : Request → Except Failure String
  | .outline path format settings lineNumbers =>
    showOutline files path format settings lineNumbers
  | .tokens path => do
    let document ← readDocument files .standard path
    .ok (tokenListing document.tokens)
  | .leftRecursion path => do
    let document ← readDocument files .standard path
    .ok (leftRecursionListing document.outline)
  | .listFormats => .ok (formatListing .standard)
  | .version => .ok "grammar-outline 0.1.0\n"
  | .help => .ok usage

/-- Runs the program. -/
def run (files : Files) (line : List String) : Outcome :=
  match Request.read line with
  | .error .misuse => ⟨2, "", usage⟩
  | .error .help => ⟨0, usage, ""⟩
  | .ok request =>
    match request.answer files with
    | .ok output => ⟨0, output, ""⟩
    | .error failure => ⟨1, "", s!"Error: {failure.message}\n"⟩

/-- The paths that a command line can make the program look at. -/
def pathsOf (line : List String) : List String :=
  match Request.read line with
  | .ok (.outline path _ settings _) =>
    path :: settings.toList.flatMap fun file => [file, Settings.settingsPath file]
  | .ok (.tokens path) => [path]
  | .ok (.leftRecursion path) => [path]
  | _ => []

end RuleOutline
