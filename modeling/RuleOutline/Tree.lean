import RuleOutline.Snapshot

/-! The tree view of an outline: a header, then one line for each rule, group and part of a rule,
with lines drawn between them. Groups stand between the rules that they are anchored to. -/
namespace RuleOutline

/-- A line of the tree: an icon and a text, and the line of the source that it is about. -/
structure Leaf where
  icon : String
  label : String
  line : Nat

/-- A rule with its parts, or a group, which has none. -/
structure Branch where
  leaf : Leaf
  parts : List Leaf

/-- The parts of a rule: its alternatives, what it would be without left recursion, and its
errors. An alternative without tokens is shown as the letter for the empty word. -/
def RuleView.parts (rule : RuleView) : List Leaf :=
  let line := rule.first.line
  (rule.alternatives.map fun text => ⟨"•", if text.isEmpty then "ε" else text, line⟩) ++
    (rule.unrolled.toList.map fun text => ⟨"↻", text, line⟩) ++
    (rule.errors.map fun text => ⟨"⚠", text, line⟩)

/-- A rule in the tree. -/
def RuleView.branch (rule : RuleView) : Branch :=
  ⟨⟨if rule.isLexerRule then "ℒ" else "≔", rule.name, rule.first.line⟩, rule.parts⟩

/-- A group in the tree. -/
def GroupView.branch (group : GroupView) : Branch :=
  if group.isOpen then ⟨⟨"▼", group.name.getD "", group.line⟩, []⟩
  else ⟨⟨"▲", "end", group.line⟩, []⟩

/-- A rule or a group. -/
inductive Entry where
  | rule (view : RuleView)
  | group (view : GroupView)

/-- The entry in the tree. -/
def Entry.branch : Entry → Branch
  | .rule view => view.branch
  | .group view => view.branch

/-- Rules, the first of which has the given number, each followed by those groups that are next
in line and anchored to it. Groups that are left over come last. -/
def interleave (number : Nat) : List RuleView → List GroupView → List Entry
  | [], groups => groups.map .group
  | rule :: rules, groups =>
    .rule rule :: ((groups.takeWhile (·.anchor == some number)).map .group ++
      interleave (number + 1) rules (groups.dropWhile (·.anchor == some number)))

/-- The rules and groups of a snapshot as they follow each other. Groups without an anchor come
first if they are first in line. -/
def Snapshot.entries (snapshot : Snapshot) : List Entry :=
  (snapshot.groups.takeWhile (·.anchor.isNone)).map .group ++
    interleave 0 snapshot.rules (snapshot.groups.dropWhile (·.anchor.isNone))

/-- The longest label that is shown in full, in characters. -/
def labelLimit : Nat := 40

/-- A label that is cut off if it is too long. -/
def shortLabel (label : String) : String :=
  if label.length ≤ labelLimit then label
  else .ofList (label.toList.take labelLimit) ++ "..."

/-- A number with two digits or more. -/
def twoDigits (n : Nat) : String :=
  if n < 10 then "0" ++ toString n else toString n

/-- A leaf on its line. The stroke of the last of several turns off. -/
def Leaf.render (lineNumbers : Bool) (margin : String) (last : Bool) (leaf : Leaf) : String :=
  let number := if lineNumbers then twoDigits leaf.line ++ " " else ""
  let stroke := if last then "└─" else "├─"
  number ++ margin ++ stroke ++ " " ++ leaf.icon ++ " " ++ shortLabel leaf.label ++ "\n"

/-- The parts of a branch. -/
def renderParts (lineNumbers : Bool) (margin : String) : List Leaf → String
  | [] => ""
  | leaf :: leaves =>
    leaf.render lineNumbers margin leaves.isEmpty ++ renderParts lineNumbers margin leaves

/-- Branches below the header. A stroke runs past the parts of all but the last of them. -/
def renderBranches (lineNumbers : Bool) : List Branch → String
  | [] => ""
  | branch :: branches =>
    let margin := if branches.isEmpty then "  " else "│ "
    branch.leaf.render lineNumbers "" branches.isEmpty ++
      renderParts lineNumbers margin branch.parts ++ renderBranches lineNumbers branches

/-- The tree view, with the line numbers of the source in front if wanted. -/
def Snapshot.tree (lineNumbers : Bool) (snapshot : Snapshot) : String :=
  s!"⧉ {snapshot.rules.length} rules, {snapshot.groups.length} groups\n" ++
    renderBranches lineNumbers (snapshot.entries.map Entry.branch)

end RuleOutline
