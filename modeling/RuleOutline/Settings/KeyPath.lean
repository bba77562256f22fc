import RuleOutline.Settings.Value

/-! Paths to values: names with points between them, and numbers of items in brackets. -/
namespace RuleOutline.Settings

/-- One step of a path. Numbers below zero count from the end of a list. -/
inductive PathStep where
  | name (name : String)
  | item (index : Int)
  deriving DecidableEq

/-- What is wrong with the writing of a path. -/
inductive PathError where
  /-- It does not begin with a name. -/
  | noName
  /-- A character stands where none of its kind can. -/
  | unexpected
  /-- A bracket has no number in it. -/
  | noDigits
  /-- The number in a bracket takes more than 64 bits. -/
  | tooLarge
  deriving DecidableEq

/-- The fault in one or three words. -/
def PathError.message : PathError → String
  | .noName => "IsA"
  | .unexpected => "Char"
  | .noDigits => "Digit"
  | .tooLarge => "Map on Result"

/-- A character that names in paths are made of. -/
def isNameChar (c : Char) : Bool :=
  c.isAlphanum || c == ' ' || c == '_' || c == '-'

/-- A blank between a bracket and its number. -/
def isPadding (c : Char) : Bool :=
  c == ' ' || c == '\t'

/-- The number in a bracket and what follows the bracket. -/
def readIndex (cs : List Char) : Except PathError (Int × List Char) :=
  let (negative, cs) := match cs.dropWhile isPadding with
    | '-' :: cs => (true, cs)
    | cs => (false, cs)
  let ds := cs.takeWhile Char.isDigit
  if ds.isEmpty then .error .noDigits
  else
    let n : Int := Number.digitsValue 0 ds
    let n := if negative then -n else n
    if n < -0x8000000000000000 || 0x8000000000000000 ≤ n then .error .tooLarge
    else match (cs.dropWhile Char.isDigit).dropWhile isPadding with
      | ']' :: cs => .ok (n, cs)
      | _ => .error .unexpected

/-- The steps after the first name, of which there are no more than `fuel`. -/
def readSteps : Nat → List Char → Except PathError (List PathStep)
  | 0, _ => .ok []
  | fuel + 1, cs =>
    match cs with
    | [] => .ok []
    | '.' :: cs =>
      let name := cs.takeWhile isNameChar
      if name.isEmpty then .error .unexpected
      else do
        let steps ← readSteps fuel (cs.dropWhile isNameChar)
        .ok (.name (.ofList name) :: steps)
    | '[' :: cs => do
      let (index, cs) ← readIndex cs
      let steps ← readSteps fuel cs
      .ok (.item index :: steps)
    | _ => .error .unexpected

/-- Reads a path, which begins with a name. -/
def readPath (s : String) : Except PathError (List PathStep) :=
  let cs := s.toList
  let name := cs.takeWhile isNameChar
  if name.isEmpty then .error .noName
  else do
    let steps ← readSteps cs.length (cs.dropWhile isNameChar)
    .ok (.name (.ofList name) :: steps)

namespace Value

/-- The number of an item counted from the front. -/
def itemNumber (length : Nat) (index : Int) : Nat :=
  if 0 ≤ index then index.toNat else length - index.natAbs

/-- Changes an item of a list, which becomes long enough to have it. -/
def changeItem (index : Int) (f : Value → Value) (target : Value) : Value :=
  let (items, origin) := target.asList
  let number := itemNumber items.length index
  let items := items ++ List.replicate (number + 1 - items.length) null
  .list (items.modify number f) origin

/-- Sets the value that a path leads to. Whatever is in the way becomes a table or a list. -/
def assign (target value : Value) : List PathStep → Value
  | [] => value
  | [.name name] => target.merge name value
  | .name name :: steps =>
    target.changeEntry name fun old => assign (old.getD null) value steps
  | .item index :: steps => target.changeItem index fun old => assign old value steps

end Value

end RuleOutline.Settings
