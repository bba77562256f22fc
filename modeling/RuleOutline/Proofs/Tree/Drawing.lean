import RuleOutline.Proofs.Lines
import RuleOutline.Proofs.Tree.Order

/-! The tree view as a drawing. It has a line for each node, with strokes that tell how deep the
node stands and whether it is the last of its siblings, whatever characters the labels have. -/
namespace RuleOutline

open Text

section MarkLast

variable {α : Type}

/-- The members of a list, each with whether it is the last one. -/
def markLast (xs : List α) : List (Bool × α) :=
  xs.mapIdx fun i x => (i + 1 == xs.length, x)

@[simp] theorem markLast_nil : markLast ([] : List α) = [] := rfl

@[simp] theorem markLast_cons (x : α) (xs : List α) :
    markLast (x :: xs) = (xs.isEmpty, x) :: markLast xs := by
  have hFirst : (0 + 1 == (x :: xs).length) = xs.isEmpty := by cases xs <;> simp
  rw [markLast, List.mapIdx_cons, hFirst, markLast]
  simp

theorem mem_of_mem_markLast {xs : List α} {last : Bool} {x : α} (h : (last, x) ∈ markLast xs) :
    x ∈ xs := by
  obtain ⟨i, hLength, hPair⟩ := List.mem_mapIdx.mp h
  simp_all [← (Prod.mk.inj hPair).2]

end MarkLast

/-- A node of the tree. An entry stands `under` nothing; a part of a rule stands under the rule, and
it is said there whether the rule is the last entry. `last` says whether the node itself is the last
of its siblings. -/
structure Node where
  under : Option Bool
  last : Bool
  icon : Char
  label : String
  line : Nat

/-- The parts of a rule with their icons: its alternatives, what it would be without left recursion,
and its errors. -/
def RuleView.labels (rule : RuleView) : List (Char × String) :=
  (rule.alternatives.map fun text => ('•', if text = "" then "ε" else text)) ++
    (rule.unrolled.toList.map fun text => ('↻', text)) ++
    (rule.errors.map fun text => ('⚠', text))

namespace Entry

def line : Entry → Nat
  | .rule view => view.first.line
  | .group view => view.line

/-- The icon and the label of the entry itself. -/
def head : Entry → Char × String
  | .rule view => (if view.isLexerRule then 'ℒ' else '≔', view.name)
  | .group view => if view.isOpen then ('▼', view.name.getD "") else ('▲', "end")

def labels : Entry → List (Char × String)
  | .rule view => view.labels
  | .group _ => []

/-- An entry and its parts, in this order. -/
def nodes (last : Bool) (entry : Entry) : List Node :=
  ⟨none, last, entry.head.1, entry.head.2, entry.line⟩ ::
    (markLast entry.labels).map fun (ends, icon, label) =>
      ⟨some last, ends, icon, label, entry.line⟩

end Entry

/-- All nodes, each entry before its parts. -/
def Snapshot.nodes (snapshot : Snapshot) : List Node :=
  (markLast snapshot.entries).flatMap fun (last, entry) => entry.nodes last

namespace Node

/-- What stands before the stroke of a node: a stroke runs past the parts of an entry if another
entry comes after it. -/
def margin (node : Node) : String :=
  match node.under with
  | none => ""
  | some last => if last then "  " else "│ "

def stroke (node : Node) : String :=
  if node.last then "└─" else "├─"

def number (lineNumbers : Bool) (node : Node) : String :=
  if lineNumbers then twoDigits node.line ++ " " else ""

/-- The line on which a node is drawn. -/
def drawn (lineNumbers : Bool) (node : Node) : List Char :=
  (node.number lineNumbers ++ node.margin ++ node.stroke).toList ++
    ' ' :: node.icon :: ' ' :: (shortLabel node.label).toList

end Node

/-- The line above all nodes. -/
def Snapshot.header (snapshot : Snapshot) : List Char :=
  s!"⧉ {snapshot.rules.length} rules, {snapshot.groups.length} groups".toList

section Render

variable (lineNumbers : Bool)

theorem toList_render (node : Node) :
    (Leaf.render lineNumbers node.margin node.last
      ⟨String.singleton node.icon, node.label, node.line⟩).toList =
      node.drawn lineNumbers ++ ['\n'] := by
  simp [Leaf.render, Node.drawn, Node.number, Node.stroke]

theorem toList_renderParts (last : Bool) (line : Nat) (labels : List (Char × String)) :
    (renderParts lineNumbers (if last then "  " else "│ ")
      (labels.map fun (icon, label) => ⟨String.singleton icon, label, line⟩)).toList =
    ((markLast labels).map fun (ends, icon, label) =>
      Node.drawn lineNumbers ⟨some last, ends, icon, label, line⟩).flatMap (· ++ ['\n']) := by
  induction labels with
  | nil => rfl
  | cons label labels ih =>
      have hLine := toList_render lineNumbers ⟨some last, labels.isEmpty, label.1, label.2, line⟩
      dsimp only [Node.margin] at hLine
      rw [List.map_cons, renderParts, String.toList_append, List.isEmpty_map, hLine, ih,
        markLast_cons, List.map_cons, List.flatMap_cons]

theorem RuleView.parts_eq (rule : RuleView) :
    rule.parts = rule.labels.map fun (icon, label) =>
      ⟨String.singleton icon, label, rule.first.line⟩ := by
  simp [RuleView.parts, RuleView.labels, Function.comp_def]

theorem Entry.leaf_eq (entry : Entry) :
    entry.branch.leaf = ⟨String.singleton entry.head.1, entry.head.2, entry.line⟩ := by
  cases entry with
  | rule view => cases h : view.isLexerRule <;> simp [Entry.branch, RuleView.branch, head, line, h]
  | group view => cases h : view.isOpen <;> simp [Entry.branch, GroupView.branch, head, line, h]

theorem Entry.parts_eq (entry : Entry) :
    entry.branch.parts = entry.labels.map fun (icon, label) =>
      ⟨String.singleton icon, label, entry.line⟩ := by
  cases entry with
  | rule view => exact view.parts_eq
  | group view => cases h : view.isOpen <;> simp [Entry.branch, GroupView.branch, labels, h]

theorem toList_renderBranches (entries : List Entry) :
    (renderBranches lineNumbers (entries.map Entry.branch)).toList =
      (((markLast entries).flatMap fun (last, entry) => entry.nodes last).map
        (Node.drawn lineNumbers)).flatMap (· ++ ['\n']) := by
  induction entries with
  | nil => rfl
  | cons entry entries ih =>
      have hLine := toList_render lineNumbers
        ⟨none, entries.isEmpty, entry.head.1, entry.head.2, entry.line⟩
      dsimp only [Node.margin] at hLine
      have hParts := toList_renderParts lineNumbers entries.isEmpty entry.line entry.labels
      rw [← entry.parts_eq] at hParts
      rw [← entry.leaf_eq] at hLine
      rw [List.map_cons, renderBranches, String.toList_append, String.toList_append,
        List.isEmpty_map, hLine, hParts, ih]
      simp [Entry.nodes, Function.comp_def]

/-- The tree is its header and the lines of its nodes, with a line feed behind each. -/
theorem toList_tree (snapshot : Snapshot) :
    (snapshot.tree lineNumbers).toList =
      (snapshot.header :: snapshot.nodes.map (Node.drawn lineNumbers)).flatMap (· ++ ['\n']) := by
  rw [Snapshot.tree, String.toList_append, toList_renderBranches, List.flatMap_cons]
  simp [Snapshot.header, Snapshot.nodes, ToString.toString]

end Render

/-- The text consists of these lines, each of which ends with its only line feed. -/
def InLines (lines : List (List Char)) (text : String) : Prop :=
  (∀ line ∈ lines, '\n' ∉ line) ∧ text.toList = lines.flatMap (· ++ ['\n'])

/-- No label of the tree has a line feed in it. -/
structure Snapshot.OnOneLine (snapshot : Snapshot) : Prop where
  names : ∀ rule ∈ snapshot.rules, '\n' ∉ rule.name.toList
  alternatives : ∀ rule ∈ snapshot.rules, ∀ text ∈ rule.alternatives, '\n' ∉ text.toList
  unrolled : ∀ rule ∈ snapshot.rules, ∀ text ∈ rule.unrolled, '\n' ∉ text.toList
  errors : ∀ rule ∈ snapshot.rules, ∀ text ∈ rule.errors, '\n' ∉ text.toList
  groups : ∀ group ∈ snapshot.groups, ∀ name ∈ group.name, '\n' ∉ name.toList

/-- The number of a line is digits that tell it, one zero before them or none. -/
theorem digits_twoDigits (n : Nat) :
    (∀ c ∈ (twoDigits n).toList, c.isDigit = true) ∧
      Nat.ofDigitChars 10 (twoDigits n).toList 0 = n := by
  have hDigits : ∀ c ∈ Nat.toDigits 10 n, c.isDigit = true := fun c hc =>
    Nat.isDigit_of_mem_toDigits (by decide) (by decide) hc
  unfold twoDigits
  split <;>
    simpa [Nat.toString_eq_repr, Nat.toList_repr, Nat.ofDigitChars_cons,
      Nat.ofDigitChars_ten_toDigits] using hDigits

section OnOneLine

variable {snapshot : Snapshot} {lineNumbers : Bool}

theorem Snapshot.OnOneLine.head (h : snapshot.OnOneLine) {entry : Entry}
    (hEntry : entry ∈ snapshot.entries) : '\n' ∉ entry.head.2.toList := by
  rcases snapshot.interleaved_entries.exists_of_mem hEntry with
    ⟨rule, hRule, rfl⟩ | ⟨group, hGroup, rfl⟩
  · exact h.names rule hRule
  · cases hOpen : group.isOpen with
    | false => simp [Entry.head, hOpen]
    | true =>
        have hName := h.groups group hGroup
        cases hNone : group.name <;> simp_all [Entry.head]

theorem Snapshot.OnOneLine.label (h : snapshot.OnOneLine) {entry : Entry}
    (hEntry : entry ∈ snapshot.entries) {part : Char × String} (hPart : part ∈ entry.labels) :
    '\n' ∉ part.2.toList := by
  rcases snapshot.interleaved_entries.exists_of_mem hEntry with
    ⟨rule, hRule, rfl⟩ | ⟨group, -, rfl⟩
  · simp only [Entry.labels, RuleView.labels, List.mem_append, List.mem_map] at hPart
    rcases hPart with (⟨text, hText, rfl⟩ | ⟨text, hText, rfl⟩) | ⟨text, hText, rfl⟩
    · have hAlternative := h.alternatives rule hRule text hText
      by_cases hEmpty : text = "" <;> simp [hEmpty, hAlternative]
    · exact h.unrolled rule hRule text (Option.mem_toList.mp hText)
    · exact h.errors rule hRule text hText
  · cases hPart

theorem Snapshot.OnOneLine.node (h : snapshot.OnOneLine) {node : Node}
    (hNode : node ∈ snapshot.nodes) : '\n' ∉ node.label.toList := by
  obtain ⟨⟨last, entry⟩, hMarked, hHere⟩ := List.mem_flatMap.mp hNode
  have hEntry := mem_of_mem_markLast hMarked
  rcases List.mem_cons.mp hHere with rfl | hPart
  · exact h.head hEntry
  · obtain ⟨⟨ends, part⟩, hMarkedPart, rfl⟩ := List.mem_map.mp hPart
    exact h.label hEntry (mem_of_mem_markLast hMarkedPart)

theorem Snapshot.icon_ne_feed {node : Node} (hNode : node ∈ snapshot.nodes) :
    node.icon ≠ '\n' := by
  obtain ⟨⟨last, entry⟩, -, hHere⟩ := List.mem_flatMap.mp hNode
  rcases List.mem_cons.mp hHere with rfl | hPart
  · cases entry with
    | rule view => cases hCase : view.isLexerRule <;> simp [Entry.head, hCase]
    | group view => cases hOpen : view.isOpen <;> simp [Entry.head, hOpen]
  · obtain ⟨⟨ends, part⟩, hMarkedPart, rfl⟩ := List.mem_map.mp hPart
    have hLabel := mem_of_mem_markLast hMarkedPart
    cases entry with
    | rule view =>
        simp only [Entry.labels, RuleView.labels, List.mem_append, List.mem_map] at hLabel
        rcases hLabel with (⟨text, -, rfl⟩ | ⟨text, -, rfl⟩) | ⟨text, -, rfl⟩ <;> simp
    | group view => cases hLabel

theorem feed_not_mem_shortLabel {label : String} (h : '\n' ∉ label.toList) :
    '\n' ∉ (shortLabel label).toList := by
  unfold shortLabel
  split
  · exact h
  · have hTake : '\n' ∉ label.toList.take labelLimit := fun hMem => h (List.mem_of_mem_take hMem)
    simp [hTake]

/-- The line of a node has just the line feeds that its label is shown with. -/
theorem Node.lineFeeds_drawn {node : Node} (hIcon : node.icon ≠ '\n') :
    lineFeeds (node.drawn lineNumbers) = lineFeeds (shortLabel node.label).toList := by
  have hNumber : lineFeeds (node.number lineNumbers).toList = 0 := by
    have hDigits : '\n' ∉ (twoDigits node.line).toList := fun hMem =>
      absurd ((digits_twoDigits node.line).1 '\n' hMem) (by decide)
    cases lineNumbers <;> simp [lineFeeds_eq_zero_iff, number, hDigits]
  have hMargin : lineFeeds node.margin.toList = 0 := by
    unfold margin
    rcases node.under with _ | _ | _ <;> rfl
  have hStroke : lineFeeds node.stroke.toList = 0 := by
    cases hLast : node.last <;> simp [stroke, hLast]
  simp [drawn, hNumber, hMargin, hStroke, hIcon]

theorem Snapshot.feed_not_mem_header (snapshot : Snapshot) : '\n' ∉ snapshot.header := by
  have hDigits : ∀ n : Nat, '\n' ∉ Nat.toDigits 10 n := fun n hMem =>
    absurd (Nat.isDigit_of_mem_toDigits (by decide) (by decide) hMem) (by decide)
  simp [header, ToString.toString, Nat.toList_repr, hDigits]

/-- Where no label has a line feed in it, the header and the nodes are the lines of the tree. -/
theorem Snapshot.OnOneLine.inLines (h : snapshot.OnOneLine) :
    InLines (snapshot.header :: snapshot.nodes.map (Node.drawn lineNumbers))
      (snapshot.tree lineNumbers) := by
  refine ⟨?_, toList_tree lineNumbers snapshot⟩
  rw [List.forall_mem_cons, List.forall_mem_map]
  refine ⟨snapshot.feed_not_mem_header, ?_⟩
  intro node hNode
  rw [← lineFeeds_eq_zero_iff, Node.lineFeeds_drawn (Snapshot.icon_ne_feed hNode),
    lineFeeds_eq_zero_iff]
  exact feed_not_mem_shortLabel (h.node hNode)

end OnOneLine

section Read

variable (lineNumbers : Bool)

/-- What is seen of a node in the tree: its line if numbers are shown, and its label after it has
been cut off. -/
structure Shown where
  number : Option Nat
  under : Option Bool
  last : Bool
  icon : Char
  label : List Char

def Node.shown (lineNumbers : Bool) (node : Node) : Shown where
  number := if lineNumbers then some node.line else none
  under := node.under
  last := node.last
  icon := node.icon
  label := (shortLabel node.label).toList

/-- Reads the number of a line and the space behind it. -/
def readNumber (lineNumbers : Bool) (cs : List Char) : Option Nat × List Char :=
  if lineNumbers then
    (some (Nat.ofDigitChars 10 (cs.takeWhile Char.isDigit) 0), (cs.dropWhile Char.isDigit).drop 1)
  else (none, cs)

/-- Reads what stands before the stroke of a node. -/
def readMargin : List Char → Option Bool × List Char
  | ' ' :: ' ' :: cs => (some true, cs)
  | '│' :: ' ' :: cs => (some false, cs)
  | cs => (none, cs)

/-- Reads a stroke, which tells whether the node is the last of its siblings. -/
def readStroke? : List Char → Option (Bool × List Char)
  | '└' :: '─' :: cs => some (true, cs)
  | '├' :: '─' :: cs => some (false, cs)
  | _ => none

/-- Reads the line of a node. -/
def readNode? (lineNumbers : Bool) (line : List Char) : Option Shown :=
  let (number, cs) := readNumber lineNumbers line
  let (under, cs) := readMargin cs
  match readStroke? cs with
  | some (last, ' ' :: icon :: ' ' :: label) => some ⟨number, under, last, icon, label⟩
  | _ => none

/-- Reads the lines of a tree below its header. -/
def readTree? (lineNumbers : Bool) (text : String) : Option (List Shown) :=
  ((splitLines text.toList).dropLast.tail.map List.dropLast).mapM (readNode? lineNumbers)

theorem readNode?_drawn (node : Node) :
    readNode? lineNumbers (node.drawn lineNumbers) = some (node.shown lineNumbers) := by
  obtain ⟨hDigits, hNumber⟩ := digits_twoDigits node.line
  have hTake : ∀ cs, ((twoDigits node.line).toList ++ ' ' :: cs).takeWhile Char.isDigit =
      (twoDigits node.line).toList := by
    intro cs
    simp [List.takeWhile_append_of_pos hDigits]
  have hDrop : ∀ cs, ((twoDigits node.line).toList ++ ' ' :: cs).dropWhile Char.isDigit =
      ' ' :: cs := by
    intro cs
    simp [List.dropWhile_append_of_pos hDigits]
  cases lineNumbers <;> rcases hUnder : node.under with _ | _ | _ <;> cases hLast : node.last <;>
    simp [readNode?, readNumber, readMargin, readStroke?, Node.drawn, Node.number, Node.margin,
      Node.stroke, Node.shown, hUnder, hLast, hTake, hDrop, hNumber]

/-- The lines are found again in the text that consists of them. -/
theorem InLines.lines_eq {lines : List (List Char)} {text : String} (h : InLines lines text) :
    (splitLines text.toList).dropLast.map List.dropLast = lines := by
  rw [h.2, splitLines_flatMap h.1, List.dropLast_concat, List.map_map]
  simp [Function.comp_def]

theorem Snapshot.OnOneLine.readTree? {snapshot : Snapshot} (h : snapshot.OnOneLine) :
    readTree? lineNumbers (snapshot.tree lineNumbers) =
      some (snapshot.nodes.map (Node.shown lineNumbers)) := by
  have hNode : readNode? lineNumbers ∘ Node.drawn lineNumbers =
      fun node => pure (node.shown lineNumbers) :=
    funext (readNode?_drawn lineNumbers)
  rw [RuleOutline.readTree?, List.map_tail, h.inLines.lines_eq, List.tail_cons, List.mapM_map, hNode,
    List.mapM_pure]
  rfl

end Read

/-- The tree has a line for each node, in order, and it can be read back: what is shown of the nodes
is a function of the text, and so the same in every snapshot with this text. -/
structure Snapshot.Readable (snapshot : Snapshot) (lineNumbers : Bool) : Prop where
  inLines : InLines (snapshot.header :: snapshot.nodes.map (Node.drawn lineNumbers))
    (snapshot.tree lineNumbers)
  read : readTree? lineNumbers (snapshot.tree lineNumbers) =
    some (snapshot.nodes.map (Node.shown lineNumbers))
  alike : ∀ other : Snapshot, other.OnOneLine →
    other.tree lineNumbers = snapshot.tree lineNumbers →
      other.nodes.map (Node.shown lineNumbers) = snapshot.nodes.map (Node.shown lineNumbers)

theorem tree_readable {snapshot : Snapshot} (h : snapshot.OnOneLine) (lineNumbers : Bool) :
    snapshot.Readable lineNumbers where
  inLines := h.inLines
  read := h.readTree? lineNumbers
  alike other hOther hTree := by
    have hRead := hOther.readTree? lineNumbers
    rw [hTree, h.readTree?] at hRead
    exact (Option.some.inj hRead).symm

/-- Labels that look like strokes and numbers, in a rule with a group behind it. -/
def Snapshot.lookalike : Snapshot where
  lineCount := 100
  rules := [{
    name := "└─ ≔ a", isLexerRule := false, start := 9, stop := 30, first := ⟨7, 1⟩,
    last := ⟨99, 2⟩, alternatives := ["07   └─ • b", ""], blocks := 0, isLeftRecursive := true,
    unrolled := some "│ ", errors := ["⚠ 8"] }]
  groups := [⟨true, some "│ ├─ • c", 100, some 0, none⟩]

theorem tree_readable_lookalike :
    Snapshot.lookalike.OnOneLine ∧ Snapshot.lookalike.Readable true := by
  have hLabels : Snapshot.lookalike.OnOneLine := by
    constructor <;> simp [Snapshot.lookalike]
  exact ⟨hLabels, tree_readable hLabels true⟩

end RuleOutline
