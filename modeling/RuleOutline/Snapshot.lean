import RuleOutline.Document
import RuleOutline.Datum

/-! Snapshots: an outline as plain data, with all places and texts worked out, for the formats to
write. A snapshot can also be put together by hand, and then nothing ties its groups to its
rules. -/
namespace RuleOutline

/-- A rule as plain data. Its alternatives are texts, and `unrolled` is what it would be without
left recursion, if it has any. -/
structure RuleView where
  name : String
  isLexerRule : Bool
  start : Nat
  stop : Nat
  first : Position
  last : Position
  alternatives : List String
  blocks : Nat
  isLeftRecursive : Bool
  unrolled : Option String
  errors : List String

/-- A group as plain data. -/
structure GroupView where
  isOpen : Bool
  name : Option String
  line : Nat
  anchor : Option Nat
  anchorRule : Option String

/-- An outline as plain data. -/
structure Snapshot where
  lineCount : Nat
  rules : List RuleView
  groups : List GroupView

/-- A rule with its places in the lines of the text. -/
def RuleView.of (lines : List Line) (rule : Rule) : RuleView where
  name := rule.name
  isLexerRule := rule.isLexerRule
  start := rule.start
  stop := rule.stop
  first := positionOf lines rule.start
  last := positionOf lines rule.stop
  alternatives := rule.alternativeTexts.map Alternative.text
  blocks := rule.blocks.length
  isLeftRecursive := rule.isLeftRecursive
  unrolled := if rule.isLeftRecursive then some rule.unrolled else none
  errors := rule.messages

/-- A group with the name of its anchor. -/
def GroupView.of (outline : Outline) (group : Group) : GroupView where
  isOpen := group.isOpen
  name := group.name?
  line := group.comment.line
  anchor := group.anchor
  anchorRule := (outline.anchorRule? group).map (·.name)

/-- The snapshot of an outline over the lines of its text. -/
def Snapshot.of (lines : List Line) (outline : Outline) : Snapshot where
  lineCount := lines.length
  rules := outline.rules.map (RuleView.of lines)
  groups := outline.groups.map (GroupView.of outline)

/-- The snapshot of a document. -/
def Document.snapshot (document : Document) : Snapshot :=
  .of document.lines document.outline

/-- A place as a record. -/
def Position.datum (position : Position) : Datum :=
  .record [("line", .count position.line), ("column", .count position.column)]

/-- A rule as a record. -/
def RuleView.datum (rule : RuleView) : Datum :=
  .record [
    ("name", .text rule.name),
    ("lexer_rule", .flag rule.isLexerRule),
    ("span", .record [("start", .count rule.start), ("end", .count rule.stop)]),
    ("start", rule.first.datum),
    ("end", rule.last.datum),
    ("alternatives", .list (rule.alternatives.map .text)),
    ("blocks", .count rule.blocks),
    ("left_recursive", .flag rule.isLeftRecursive),
    ("rewrite", .orNull .text rule.unrolled),
    ("errors", .list (rule.errors.map .text))]

/-- A group as a record. -/
def GroupView.datum (group : GroupView) : Datum :=
  .record [
    ("kind", .text (if group.isOpen then "open" else "close")),
    ("name", .orNull .text group.name),
    ("line", .count group.line),
    ("anchor", .orNull .count group.anchor),
    ("anchor_rule", .orNull .text group.anchorRule)]

/-- A snapshot as a record. -/
def Snapshot.datum (snapshot : Snapshot) : Datum :=
  .record [
    ("line_count", .count snapshot.lineCount),
    ("rules", .list (snapshot.rules.map RuleView.datum)),
    ("groups", .list (snapshot.groups.map GroupView.datum))]

end RuleOutline
