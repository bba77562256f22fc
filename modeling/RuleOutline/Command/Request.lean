/-! Command lines: what the program is asked to do. -/
namespace RuleOutline

/-- What the program is asked to do. -/
inductive Request where
  /-- Show the outline of a grammar, in the format given or in that of the settings. -/
  | outline (path : String) (format settings : Option String) (lineNumbers : Bool)
  /-- List the tokens of a grammar. -/
  | tokens (path : String)
  /-- List the left recursive rules of a grammar as they are without left recursion. -/
  | leftRecursion (path : String)
  | listFormats
  | version
  | help
  deriving DecidableEq

/-- Why a command line is not acted on as it stands. -/
inductive Refusal where
  /-- It is not a command line of this program. -/
  | misuse
  /-- It asks for help before anything else is wrong with it. -/
  | help
  deriving DecidableEq

/-- The arguments of a command, so far as they have been read. -/
structure Arguments where
  path : Option String := none
  format : Option String := none
  settings : Option String := none
  lineNumbers : Bool := false

/-- What a command takes besides the wish for help. -/
structure Parameters where
  /-- It takes a path. -/
  path : Bool
  /-- It takes options. -/
  options : Bool

/-- The commands. -/
def commandNames : List String :=
  ["outline", "tokens", "left-recursion", "list-formats", "help"]

namespace Arguments

/-- Takes an argument that is no option, if the command has a path. There is at most one, and it
is not empty. -/
def takePath (parameters : Parameters) (arguments : Arguments) (path : String) :
    Except Refusal Arguments :=
  if !parameters.path || arguments.path.isSome || path.isEmpty then .error .misuse
  else .ok { arguments with path }

/-- Takes the name of a format, once. -/
def takeFormat (arguments : Arguments) (format : String) : Except Refusal Arguments :=
  if arguments.format.isSome then .error .misuse else .ok { arguments with format }

/-- Takes the path of a file of settings, once. It is not empty. -/
def takeSettings (arguments : Arguments) (settings : String) : Except Refusal Arguments :=
  if arguments.settings.isSome || settings.isEmpty then .error .misuse
  else .ok { arguments with settings }

/-- Takes the wish for line numbers, once. -/
def takeLineNumbers (arguments : Arguments) : Except Refusal Arguments :=
  if arguments.lineNumbers then .error .misuse else .ok { arguments with lineNumbers := true }

end Arguments

/-- What an argument is by its first characters. -/
inductive Argument where
  | plain (text : String)
  /-- All arguments after this one are plain. -/
  | ending
  /-- An option with the value that is attached to it, if any. -/
  | option (name : String) (value : Option String)

/-- Sorts an argument. A hyphen alone is plain. After one hyphen a letter stands for an option
with all that follows as its value, perhaps behind an equals sign. -/
def Argument.of (text : String) : Argument :=
  match text.toList with
  | ['-', '-'] => .ending
  | '-' :: '-' :: cs =>
    let name := cs.takeWhile (· != '=')
    let value := match cs.dropWhile (· != '=') with
      | [] => none
      | _ :: value => some (String.ofList value)
    .option ("--" ++ .ofList name) value
  | '-' :: c :: cs =>
    let value := match cs with
      | [] => none
      | '=' :: value => some (String.ofList value)
      | value => some (String.ofList value)
    .option (.ofList ['-', c]) value
  | _ => .plain text

/-- Takes an option that has a value, which is attached to it or is the next argument. -/
def takeValue (take : Arguments → String → Except Refusal Arguments)
    (read : Arguments → List String → Except Refusal Arguments)
    (arguments : Arguments) (value : Option String) (rest : List String) :
    Except Refusal Arguments :=
  match value, rest with
  | some value, rest => do read (← take arguments value) rest
  | none, next :: rest =>
    match Argument.of next with
    | .plain value => do read (← take arguments value) rest
    | _ => .error .misuse
  | none, [] => .error .misuse

/-- Reads the arguments of a command, which are no more than `fuel`. The first one that is wrong or
asks for help decides. -/
def readArguments (parameters : Parameters) :
    Nat → Arguments → List String → Except Refusal Arguments
  | _, arguments, [] => .ok arguments
  | 0, _, _ => .error .misuse
  | fuel + 1, arguments, text :: rest =>
    match Argument.of text with
    | .plain path => do
      readArguments parameters fuel (← arguments.takePath parameters path) rest
    | .ending => rest.foldlM (Arguments.takePath parameters) arguments
    | .option name value =>
      if name == "-h" || (name == "--help" && value.isNone) then .error .help
      else if !parameters.options then .error .misuse
      else if name == "--format" || name == "-f" then
        takeValue Arguments.takeFormat (readArguments parameters fuel) arguments value rest
      else if name == "--config" || name == "-c" then
        takeValue Arguments.takeSettings (readArguments parameters fuel) arguments value rest
      else if name == "--line-numbers" && value.isNone then do
        readArguments parameters fuel (← arguments.takeLineNumbers) rest
      else .error .misuse

/-- The path that a command cannot do without. -/
def Arguments.requirePath (arguments : Arguments) : Except Refusal String :=
  match arguments.path with
  | some path => .ok path
  | none => .error .misuse

/-- Reads a command line: a command and its arguments, or a question about the program. Help can be
asked for on the program or on one command. -/
def Request.read (line : List String) : Except Refusal Request :=
  match line with
  | [] => .error .misuse
  | first :: rest =>
    let arguments (parameters : Parameters) := readArguments parameters rest.length {} rest
    match first with
    | "outline" => do
      let arguments ← arguments ⟨true, true⟩
      .ok (.outline (← arguments.requirePath) arguments.format arguments.settings
        arguments.lineNumbers)
    | "tokens" => do .ok (.tokens (← (← arguments ⟨true, false⟩).requirePath))
    | "left-recursion" => do .ok (.leftRecursion (← (← arguments ⟨true, false⟩).requirePath))
    | "list-formats" => do
      let _ ← arguments ⟨false, false⟩
      .ok .listFormats
    | "help" =>
      match rest with
      | [] => .ok .help
      | [name] => if commandNames.contains name then .ok .help else .error .misuse
      | _ => .error .misuse
    | _ =>
      match Argument.of first with
      | .option name value =>
        if name == "-V" || (name == "--version" && value.isNone) then .ok .version
        else if name == "-h" || (name == "--help" && value.isNone) then .ok .help
        else .error .misuse
      | _ => .error .misuse

end RuleOutline
