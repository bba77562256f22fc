import RuleOutline.Token
import RuleOutline.Unicode.Blank

/-! Groups. Rules are folded together by pairs of comments that begin with an agreed text. -/
namespace RuleOutline

/-- What the comments begin with that open and close a group. -/
structure Markers where
  opening : String
  closing : String
  deriving DecidableEq

/-- The markers used where no others are set. -/
def Markers.standard : Markers :=
  ⟨"// $<", "// $>"⟩

/-- What a comment does to the groups. Only an opening one has a name. -/
inductive Marker where
  | opening (name : String)
  | closing
  deriving DecidableEq

/-- Reads a comment. A text that begins in both ways opens a group. -/
def Markers.read (markers : Markers) (comment : String) : Option Marker :=
  if markers.opening.toList.isPrefixOf comment.toList then
    let rest := comment.toList.drop markers.opening.toList.length
    some (.opening (Unicode.trimEnd (.ofList rest)))
  else if markers.closing.toList.isPrefixOf comment.toList then some .closing
  else none

/-- A marker found in a text. Its anchor is the number of the last rule that ends before it, and
`index` the index of its token. -/
structure Group where
  marker : Marker
  anchor : Option Nat
  index : Nat
  comment : Token
  deriving DecidableEq

namespace Group

/-- The group begins here. -/
def isOpen (group : Group) : Bool :=
  match group.marker with
  | .opening _ => true
  | .closing => false

/-- The name of a group that begins. -/
def name? (group : Group) : Option String :=
  match group.marker with
  | .opening name => some name
  | .closing => none

/-- The group on one line. -/
def display (group : Group) : String :=
  let name := group.name?.getD "-"
  let anchor := match group.anchor with
    | some anchor => toString anchor
    | none => "none"
  s!"Group {name}, open = {group.isOpen}, rule = {anchor}"

end Group

end RuleOutline
