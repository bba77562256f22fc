import RuleOutline.Proofs.Tree.Drawing
import RuleOutline.Proofs.Outline.Reread
import RuleOutline.Proofs.Token.Returns

/-! The number of lines of the tree view. It has a line for each node, unless a label has line feeds
in it. In the tree of a source only literals can bring one into a label, by a line that ends in a
backslash. -/
namespace RuleOutline

open Text

section Lines

theorem lineFeeds_flatMap (pieces : List (List Char)) :
    lineFeeds (pieces.flatMap (· ++ ['\n'])) = pieces.length + lineFeeds pieces.flatten := by
  induction pieces with
  | nil => rfl
  | cons piece pieces ih =>
      simp [ih]
      omega

theorem InLines.length_eq {lines : List (List Char)} {text : String} (h : InLines lines text) :
    lines.length = lineFeeds text.toList := by
  have hNone : lineFeeds lines.flatten = 0 := by
    rw [lineFeeds_eq_zero_iff, List.mem_flatten]
    rintro ⟨line, hLine, hFeed⟩
    exact h.1 line hLine hFeed
  rw [h.2, lineFeeds_flatMap, hNone, Nat.add_zero]

/-- A text that ends with a line feed consists of lines. -/
theorem exists_lines (pieces : List (List Char)) : ∃ lines : List (List Char),
    (∀ line ∈ lines, '\n' ∉ line) ∧
      pieces.flatMap (· ++ ['\n']) = lines.flatMap (· ++ ['\n']) := by
  induction pieces with
  | nil => exact ⟨[], by simp, rfl⟩
  | cons piece pieces ih =>
      obtain ⟨lines, hLines, hText⟩ := ih
      obtain ⟨bodies, rest, hSplit, hBodies, hRest⟩ := exists_bodies piece
      have hPiece := flatten_splitLines piece
      rw [hSplit] at hPiece
      refine ⟨bodies ++ rest :: lines, ?_, ?_⟩
      · exact List.forall_mem_append.mpr ⟨hBodies, List.forall_mem_cons.mpr ⟨hRest, hLines⟩⟩
      · rw [List.flatMap_cons, hText, ← hPiece]
        simp [List.flatMap_def]

end Lines

section Labels

theorem map_snd_markLast {α : Type} (xs : List α) : (markLast xs).map Prod.snd = xs := by
  induction xs with
  | nil => rfl
  | cons x xs ih => simp [ih]

/-- The labels of an entry and its parts. -/
def Entry.texts (entry : Entry) : List String :=
  entry.head.2 :: entry.labels.map Prod.snd

theorem Entry.map_label_nodes (entry : Entry) (last : Bool) :
    (entry.nodes last).map Node.label = entry.texts := by
  have hLabels := congrArg (List.map Prod.snd) (map_snd_markLast entry.labels)
  simpa [nodes, texts, Function.comp_def] using hLabels

theorem Snapshot.map_label_nodes (snapshot : Snapshot) :
    snapshot.nodes.map Node.label = snapshot.entries.flatMap Entry.texts := by
  rw [nodes, List.map_flatMap]
  simp only [Entry.map_label_nodes]
  rw [← List.flatMap_map Prod.snd, map_snd_markLast]

/-- The line feeds that are shown of some labels. -/
def shownFeeds (labels : List String) : Nat :=
  lineFeeds (labels.flatMap fun label => (shortLabel label).toList)

theorem lineFeeds_drawn (lineNumbers : Bool) {nodes : List Node}
    (hIcon : ∀ node ∈ nodes, node.icon ≠ '\n') :
    lineFeeds (nodes.map (Node.drawn lineNumbers)).flatten = shownFeeds (nodes.map Node.label) := by
  induction nodes with
  | nil => rfl
  | cons node nodes ih =>
      obtain ⟨hNode, hNodes⟩ := List.forall_mem_cons.mp hIcon
      rw [List.map_cons, List.flatten_cons, lineFeeds_append, ih hNodes, Node.lineFeeds_drawn hNode]
      simp [shownFeeds]

/-- The tree has a line feed for each line that it would have, and those of its labels. -/
theorem lineFeeds_tree (lineNumbers : Bool) (snapshot : Snapshot) :
    lineFeeds (snapshot.tree lineNumbers).toList =
      1 + (snapshot.entries.flatMap Entry.texts).length +
        shownFeeds (snapshot.entries.flatMap Entry.texts) := by
  have hHeader : lineFeeds snapshot.header = 0 :=
    lineFeeds_eq_zero_iff.mpr snapshot.feed_not_mem_header
  rw [toList_tree, lineFeeds_flatMap, List.flatten_cons, lineFeeds_append, hHeader,
    lineFeeds_drawn lineNumbers fun node => Snapshot.icon_ne_feed, ← snapshot.map_label_nodes]
  simp
  omega

end Labels

/-- What is shown below the name of a rule that nothing has been found about. -/
def Rule.partTexts (rule : Rule) : List String :=
  (rule.alternativeTexts.map fun texts => if texts.text = "" then "ε" else texts.text) ++
    if rule.isLeftRecursive then [rule.unrolled] else []

namespace Outline

/-- What is shown below the names of all rules. -/
def partTexts (outline : Outline) : List String :=
  outline.rules.flatMap Rule.partTexts

/-- The number of nodes of the tree, and one more for its header. -/
def treeSize (outline : Outline) : Nat :=
  1 + outline.rules.length + (outline.rules.flatMap Rule.alternatives).length +
    outline.leftRecursiveRules.length + outline.groups.length

theorem length_partTexts (outline : Outline) :
    outline.partTexts.length =
      (outline.rules.flatMap Rule.alternatives).length + outline.leftRecursiveRules.length := by
  unfold partTexts leftRecursiveRules
  induction outline.rules with
  | nil => rfl
  | cons rule rules ih =>
      cases hCase : rule.isLeftRecursive <;>
        simp [ih, hCase, Rule.partTexts, Rule.alternativeTexts] <;> omega

end Outline

section Feeds

variable {rule : Rule} {alternatives : List Alternative}

theorem feed_not_mem_intercalate {bar : String} {texts : List String} (hBar : '\n' ∉ bar.toList)
    (h : ∀ text ∈ texts, '\n' ∉ text.toList) : '\n' ∉ (bar.intercalate texts).toList := by
  rw [String.toList_intercalate]
  have hAll : ∀ c ∈ bar.toList.intercalate (texts.map String.toList), c ≠ '\n' :=
    forall_mem_intercalate (List.forall_mem_ne'.mpr hBar)
      (List.forall_mem_map.mpr fun text hText => List.forall_mem_ne'.mpr (h text hText))
  exact List.forall_mem_ne'.mp hAll

theorem feed_not_mem_alternativesText
    (h : ∀ texts ∈ alternatives, ∀ text ∈ texts, '\n' ∉ text.toList) :
    '\n' ∉ (alternativesText alternatives).toList := by
  apply feed_not_mem_intercalate (by decide)
  rw [List.forall_mem_map]
  exact fun texts hTexts => feed_not_mem_intercalate (by decide) (h texts hTexts)

theorem feed_not_mem_unrolled (name : String)
    (h : ∀ texts ∈ alternatives, ∀ text ∈ texts, '\n' ∉ text.toList) :
    '\n' ∉ (Unrolled.of name alternatives).text.toList := by
  have hBases : '\n' ∉ (alternativesText (Unrolled.of name alternatives).bases).toList :=
    feed_not_mem_alternativesText fun texts hTexts => h texts (List.mem_of_mem_filter hTexts)
  have hTails : '\n' ∉ (alternativesText (Unrolled.of name alternatives).tails).toList := by
    apply feed_not_mem_alternativesText
    simp only [Unrolled.of, List.forall_mem_map]
    exact fun texts hTexts text hText =>
      h texts (List.mem_of_mem_filter hTexts) text (List.mem_of_mem_tail hText)
  simp [Unrolled.text, ToString.toString, hBases, hTails]

/-- Line feeds below the name of a rule come from the tokens of its alternatives. -/
theorem Rule.feed_not_mem_partTexts
    (h : ∀ alternative ∈ rule.alternatives, ∀ token ∈ alternative, '\n' ∉ token.text.toList) :
    ∀ text ∈ rule.partTexts, '\n' ∉ text.toList := by
  have hTexts : ∀ texts ∈ rule.alternativeTexts, ∀ text ∈ texts, '\n' ∉ text.toList := by
    simpa only [alternativeTexts, List.forall_mem_map] using h
  rw [partTexts, List.forall_mem_append, List.forall_mem_map]
  constructor
  · intro texts hMem
    split
    · decide
    · exact feed_not_mem_intercalate (by decide) (hTexts texts hMem)
  · split
    · exact List.forall_mem_singleton.mpr (feed_not_mem_unrolled rule.name hTexts)
    · exact List.forall_mem_nil _

theorem shownFeeds_perm {first second : List String} (h : first.Perm second) :
    shownFeeds first = shownFeeds second := by
  simp only [shownFeeds, lineFeeds_eq_count]
  exact (h.flatMap_right _).count_eq '\n'

@[simp] theorem shownFeeds_append (first second : List String) :
    shownFeeds (first ++ second) = shownFeeds first + shownFeeds second := by
  simp [shownFeeds]

theorem shownFeeds_eq_zero {labels : List String} (h : ∀ label ∈ labels, '\n' ∉ label.toList) :
    shownFeeds labels = 0 := by
  rw [shownFeeds, lineFeeds_eq_zero_iff, List.mem_flatMap]
  rintro ⟨label, hLabel, hFeed⟩
  exact feed_not_mem_shortLabel (h label hLabel) hFeed

end Feeds

section Source

variable {markers : Markers} {source : String} {rule : Rule} {group : Group}

theorem feed_not_mem_name (hRule : rule ∈ (outlineOf markers (tokenize source)).rules) :
    '\n' ∉ rule.name.toList := by
  obtain ⟨token, hToken, hKind, hText⟩ := exists_name_token hRule
  rw [← hText]
  exact feed_not_mem_of_mem_tokenize hToken (by simp [hKind])

theorem feed_not_mem_name? (hGroup : group ∈ (outlineOf markers (tokenize source)).groups) :
    ∀ name ∈ group.name?, '\n' ∉ name.toList := by
  obtain ⟨-, token, hToken, hHere⟩ := mem_groups_outlineOf_iff.mp hGroup
  obtain ⟨hKind, hMarker, -, -, -⟩ := groupAt?_eq_some_iff.mp hHere
  have hComment : '\n' ∉ token.text.toList :=
    feed_not_mem_of_mem_tokenize (List.mem_of_getElem? hToken) (by simp [hKind])
  have hReads := reads_of_read hMarker
  unfold Group.name?
  generalize group.marker = marker at hReads
  cases hReads with
  | closing => simp
  | @opening rest hText =>
      obtain ⟨blanks, hTrimmed, -, -⟩ := trims_trimEnd rest
      simp only [Option.mem_some_iff, forall_eq']
      intro hFeed
      apply hComment
      rw [← hText, hTrimmed]
      simp [hFeed]

/-- A token of an alternative with a line feed in it is a literal with a line that ends in a
backslash. -/
theorem endsInEscape_of_mem_alternative
    (hRule : rule ∈ (outlineOf markers (tokenize source)).rules) {alternative : List Token}
    (hAlternative : alternative ∈ rule.alternatives) {token : Token} (hToken : token ∈ alternative)
    (hFeed : '\n' ∈ token.text.toList) :
    token.kind = .literal ∧ EndsInEscape token.text.toList := by
  have hVisible := (Rule.mem_body_of_mem_alternative hAlternative hToken).2
  have hMem : token ∈ tokenize source := alternative_subset hRule hAlternative hToken
  have hKind : token.kind = .literal := by
    by_contra hOther
    have hBlock : token.kind ≠ .block := by
      intro hKind
      simp [hKind, Kind.isOpaque] at hVisible
    have hComment : token.kind ≠ .blockComment := by
      intro hKind
      simp [hKind, Kind.isOpaque, Kind.isComment] at hVisible
    exact feed_not_mem_of_mem_tokenize hMem ⟨hOther, hBlock, hComment⟩ hFeed
  obtain ⟨-, after, -, -, -, -, hLexeme⟩ := exists_split_of_mem_tokenize hMem
  rw [hKind] at hLexeme
  exact ⟨hKind, hLexeme.isLiteral.endsInEscape hFeed⟩

theorem texts_rule (lines : List Line) (hNone : rule.findings = []) :
    (Entry.rule (RuleView.of lines rule)).texts = rule.name :: rule.partTexts := by
  cases hCase : rule.isLeftRecursive <;>
    simp [Entry.texts, Entry.head, Entry.labels, RuleView.labels, RuleView.of, Rule.partTexts,
      Rule.messages, Function.comp_def, hNone, hCase]

/-- The label of a group. -/
def groupLabel (outline : Outline) (group : Group) : String :=
  (Entry.group (.of outline group)).head.2

theorem feed_not_mem_groupLabel (outline : Outline)
    (hGroup : group ∈ (outlineOf markers (tokenize source)).groups) :
    '\n' ∉ (groupLabel outline group).toList := by
  have hName := feed_not_mem_name? hGroup
  unfold groupLabel Entry.head GroupView.of
  cases hOpen : group.isOpen with
  | false => simp
  | true => cases hNone : group.name? <;> simp_all

/-- The labels of a document are its names and what stands below the names of its rules. -/
theorem perm_texts_entries (markers : Markers) (source : String) :
    ((Document.read markers source).snapshot.entries.flatMap Entry.texts).Perm
      ((outlineOf markers (tokenize source)).rules.map (·.name) ++
        (outlineOf markers (tokenize source)).partTexts ++
        (outlineOf markers (tokenize source)).groups.map
          (groupLabel (outlineOf markers (tokenize source)))) := by
  have hNone := (walk_outlineOf markers (tokenize source)).findings_eq_nil
  have hPerm := ((Document.read markers source).snapshot.interleaved_entries.perm).flatMap_right
    Entry.texts
  have hRules : ((Document.read markers source).snapshot.rules.map Entry.rule).flatMap Entry.texts =
      (outlineOf markers (tokenize source)).rules.flatMap fun rule =>
        rule.name :: rule.partTexts := by
    rw [Document.snapshot, Snapshot.of, List.map_map, List.flatMap_map]
    exact List.flatMap_congr fun rule hRule => texts_rule _ (hNone rule hRule)
  have hGroups : ((Document.read markers source).snapshot.groups.map Entry.group).flatMap
        Entry.texts =
      (outlineOf markers (tokenize source)).groups.map
        (groupLabel (outlineOf markers (tokenize source))) := by
    rw [Document.snapshot, Snapshot.of, List.map_map, List.flatMap_map, List.map_eq_flatMap]
    rfl
  rw [List.flatMap_append, hRules, hGroups] at hPerm
  exact hPerm.trans ((List.map_append_flatMap_perm _ _ _).symm.append_right _)

end Source

/-- The tree has a line for each node and no other ones. -/
def Document.LineByNode (document : Document) (lineNumbers : Bool) : Prop :=
  ∃ lines, InLines lines (document.snapshot.tree lineNumbers) ∧
    lines.length = document.outline.treeSize

/-- How many lines the tree of a document has: one for each node, and one more for each line feed
that is shown of a label. There is none if no literal of an alternative has a line that ends in a
backslash. -/
structure Document.DrawnInLines (document : Document) (lineNumbers : Bool) : Prop where
  counted : ∃ lines, InLines lines (document.snapshot.tree lineNumbers) ∧
    lines.length = document.outline.treeSize + shownFeeds document.outline.partTexts
  plain : (∀ rule ∈ document.outline.rules, ∀ alternative ∈ rule.alternatives,
    ∀ token ∈ alternative, token.kind = .literal → ¬EndsInEscape token.text.toList) →
      document.LineByNode lineNumbers

section Document

variable {markers : Markers} {source : String}

theorem exists_inLines (markers : Markers) (source : String) (lineNumbers : Bool) : ∃ lines,
    InLines lines ((Document.read markers source).snapshot.tree lineNumbers) ∧
      lines.length = (outlineOf markers (tokenize source)).treeSize +
        shownFeeds (outlineOf markers (tokenize source)).partTexts := by
  have hText := toList_tree lineNumbers (Document.read markers source).snapshot
  obtain ⟨lines, hLines, hSame⟩ := exists_lines
    ((Document.read markers source).snapshot.header ::
      (Document.read markers source).snapshot.nodes.map (Node.drawn lineNumbers))
  have hInLines : InLines lines ((Document.read markers source).snapshot.tree lineNumbers) :=
    ⟨hLines, hText.trans hSame⟩
  have hNames : shownFeeds ((outlineOf markers (tokenize source)).rules.map (·.name)) = 0 :=
    shownFeeds_eq_zero (List.forall_mem_map.mpr fun _ => feed_not_mem_name)
  have hGroups : shownFeeds ((outlineOf markers (tokenize source)).groups.map
      (groupLabel (outlineOf markers (tokenize source)))) = 0 :=
    shownFeeds_eq_zero (List.forall_mem_map.mpr fun _ => feed_not_mem_groupLabel _)
  have hPerm := perm_texts_entries markers source
  refine ⟨lines, hInLines, ?_⟩
  rw [hInLines.length_eq, lineFeeds_tree, hPerm.length_eq, shownFeeds_perm hPerm]
  simp [hNames, hGroups, Outline.length_partTexts, Outline.treeSize]
  omega

theorem shownFeeds_partTexts
    (h : ∀ rule ∈ (outlineOf markers (tokenize source)).rules, ∀ alternative ∈ rule.alternatives,
      ∀ token ∈ alternative, token.kind = .literal → ¬EndsInEscape token.text.toList) :
    shownFeeds (outlineOf markers (tokenize source)).partTexts = 0 := by
  apply shownFeeds_eq_zero
  intro text hText
  obtain ⟨rule, hRule, hPart⟩ := List.mem_flatMap.mp hText
  apply rule.feed_not_mem_partTexts _ text hPart
  intro alternative hAlternative token hToken hFeed
  obtain ⟨hKind, hEscape⟩ := endsInEscape_of_mem_alternative hRule hAlternative hToken hFeed
  exact h rule hRule alternative hAlternative token hToken hKind hEscape

theorem document_drawnInLines (markers : Markers) (source : String) (lineNumbers : Bool) :
    (Document.read markers source).DrawnInLines lineNumbers where
  counted := exists_inLines markers source lineNumbers
  plain hPlain := by
    obtain ⟨lines, hLines, hLength⟩ := exists_inLines markers source lineNumbers
    rw [shownFeeds_partTexts hPlain] at hLength
    exact ⟨lines, hLines, hLength⟩

/-- A literal can go on behind a backslash at the end of its line, and then so does its label. -/
theorem not_lineByNode_escape :
    ¬(Document.read .standard "a : '\\\n' ;").LineByNode false := by
  rintro ⟨lines, hLines, hLength⟩
  rw [hLines.length_eq] at hLength
  revert hLength
  decide +kernel

end Document

end RuleOutline
