import RuleOutline.Settings.KeyPath
import RuleOutline.Number.Shortest
import RuleOutline.Text.Quoted

/-! What can be wrong with settings. -/
namespace RuleOutline.Settings

open Text

/-- What was found in the place of something else. -/
inductive Found where
  | null
  | flag (value : Bool)
  | int (value : Int)
  | float (value : Float)
  | text (value : String)
  | list
  | table

/-- A number of double precision that shows its point. -/
def pointedText (x : Float) : String :=
  let text := Number.floatText x
  if x.isFinite && !text.toList.contains '.' then text ++ ".0" else text

/-- What was found, in words. -/
def Found.message : Found → String
  | .null => "unit value"
  | .flag value => s!"boolean \x60{value}\x60"
  | .int value => s!"integer \x60{value}\x60"
  | .float value => "floating point \x60" ++ pointedText value ++ "\x60"
  | .text value => s!"string {quoted value}"
  | .list => "sequence"
  | .table => "map"

/-- The reasons for which settings are refused. -/
inductive Error where
  /-- A value of another type stands at a key. -/
  | wrongType (found : Found) (expected key : String) (origin : Option String)
  /-- A section is neither a table nor a list. -/
  | wrongSection (found : Found) (expected : String)
  /-- A list has fewer items than its section has fields. -/
  | tooShort (length : Nat) (expected : String) (fields : Nat)
  /-- A section lacks a field. -/
  | missingField (name : String)
  /-- A file that must be there is not. -/
  | missingFile (path : String)
  /-- A file holds bytes that are no text. -/
  | notText
  /-- A file does not follow the rules of its language. -/
  | badFile (file : String)
  /-- A path is not written as one. -/
  | badPath (error : PathError)
  /-- Another reason, in words. -/
  | other (reason : String)

/-- The reason in words. -/
def Error.message : Error → String
  | .wrongType found expected key origin =>
    let place := match origin with
      | some file => s!" in {file}"
      | none => ""
    s!"invalid type: {found.message}, expected {expected} for key \x60{key}\x60{place}"
  | .wrongSection found expected => s!"invalid type: {found.message}, expected struct {expected}"
  | .tooShort length expected fields =>
    s!"invalid length {length}, expected struct {expected} with {fields} elements"
  | .missingField name => s!"missing field \x60{name}\x60"
  | .missingFile path => s!"configuration file \"{path}\" not found"
  | .notText => "stream did not contain valid UTF-8"
  | .badFile file => s!"syntax error in {file}"
  | .badPath error => error.message
  | .other reason => reason

end RuleOutline.Settings
