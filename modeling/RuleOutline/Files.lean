/-! Files as a program sees them: what a path leads to, if anything. -/
namespace RuleOutline

/-- What stands under a path. -/
inductive FileEntry where
  | directory
  | file (content : ByteArray)

/-- Why a path leads nowhere. -/
inductive PathError where
  | missing
  /-- It leads through a file as if it were a directory. -/
  | blocked
  /-- The path, or a name in it, is longer than any can be. -/
  | tooLong
  deriving DecidableEq

/-- Where all paths lead. -/
abbrev Files := String → Except PathError FileEntry

/-- Why the text of a file cannot be read. -/
inductive ReadError where
  | unreachable (error : PathError)
  | directory
  | notText
  deriving DecidableEq

/-- The reason in words. -/
def PathError.message : PathError → String
  | .missing => "No such file or directory (os error 2)"
  | .blocked => "Not a directory (os error 20)"
  | .tooLong => "File name too long (os error 36)"

/-- The reason in words. -/
def ReadError.message : ReadError → String
  | .unreachable error => error.message
  | .directory => "Is a directory (os error 21)"
  | .notText => "stream did not contain valid UTF-8"

/-- The text of the file that a path leads to. -/
def Files.readText (files : Files) (path : String) : Except ReadError String :=
  match files path with
  | .error error => .error (.unreachable error)
  | .ok .directory => .error .directory
  | .ok (.file content) =>
    match String.fromUTF8? content with
    | some text => .ok text
    | none => .error .notText

/-- The names that a path is made of. Names that stay where they are do not count. -/
def pathNames (path : String) : List String :=
  (path.splitOn "/").filter fun name => name != "" && name != "."

/-- The path without the parts that stay where they are. -/
def plainPath (path : String) : String :=
  let names := "/".intercalate (pathNames path)
  if path.startsWith "/" then "/" ++ names else names

/-- The most bytes that a name can have. -/
def nameLimit : Nat := 255

/-- The most bytes that a path can have. -/
def pathLimit : Nat := 4095

/-- Where a walk along a path has come to. -/
inductive Place where
  /-- A directory above the working directory. Nothing is known of what else it holds. -/
  | above
  /-- Under some names, the first of them in the working directory. -/
  | under (names : List String)

namespace Place

/-- The directory that holds the place. The uppermost directory counts as held by itself. -/
def parent : Place → Place
  | .above | .under [] => .above
  | .under names => .under names.dropLast

/-- What stands in the place when the working directory holds the given files. -/
def entry? (files : List (List String × ByteArray)) : Place → Option FileEntry
  | .above | .under [] => some .directory
  | .under names =>
    match files.lookup names with
    | some content => some (.file content)
    | none =>
      if files.any fun file => names.isPrefixOf file.1 then some .directory else none

/-- The place under a name in a directory, if anything is known to stand there. -/
def child? (files : List (List String × ByteArray)) (place : Place) (name : String) :
    Option Place :=
  match place with
  | .above => none
  | .under names =>
    let place := Place.under (names ++ [name])
    (place.entry? files).map fun _ => place

/-- One step of a walk. Each starts from a directory, also one that stays where it is. -/
def step (files : List (List String × ByteArray)) (place : Place) (name : String) :
    Except PathError Place :=
  match place.entry? files with
  | some .directory =>
    if name = "" || name = "." then .ok place
    else if name = ".." then .ok place.parent
    else if nameLimit < name.utf8ByteSize then .error .tooLong
    else match place.child? files name with
      | some place => .ok place
      | none => .error .missing
  | some (.file _) => .error .blocked
  | none => .error .missing

end Place

/-- The files of a working directory, by their paths in it. -/
def Files.ofList (entries : List (String × ByteArray)) : Files := fun path => do
  if path.isEmpty then throw .missing
  if pathLimit < path.utf8ByteSize then throw .tooLong
  let files := entries.map fun (path, content) => (pathNames path, content)
  let start := if path.startsWith "/" then Place.above else .under []
  let place ← (path.splitOn "/").foldlM (Place.step files) start
  match place.entry? files with
  | some entry => .ok entry
  | none => .error .missing

end RuleOutline
