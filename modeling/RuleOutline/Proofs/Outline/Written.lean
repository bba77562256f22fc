import RuleOutline.Proofs.Token.Spaced
import RuleOutline.Proofs.Outline.Alternatives
import RuleOutline.Proofs.Outline.Walk

/-! Grammars to be written down: rules and markers, each on a line of its own. A rule is its words
with spaces between them, and a marker is a comment. What is written can be told from the outline
of the text again. -/
namespace RuleOutline

open Text

section Item

def Word.fragment : Word :=
  ⟨.identifier, "fragment", ⟨.identifier, "fragment", 0, 8, 1⟩, by decide +kernel, rfl, rfl⟩

def Word.colon : Word :=
  ⟨.colon, ":", ⟨.colon, ":", 0, 1, 1⟩, by decide +kernel, rfl, rfl⟩

def Word.bar : Word :=
  ⟨.pipe, "|", ⟨.pipe, "|", 0, 1, 1⟩, by decide +kernel, rfl, rfl⟩

def Word.semicolon : Word :=
  ⟨.semicolon, ";", ⟨.semicolon, ";", 0, 1, 1⟩, by decide +kernel, rfl, rfl⟩

def Word.closing : Word :=
  ⟨.lineComment, "// $>", ⟨.lineComment, "// $>", 0, 5, 1⟩, by decide +kernel, rfl, rfl⟩

/-- An alternative to be written. It closes the parentheses that it opens, and its bars stand
between them. -/
structure Choice where
  words : List Word
  isClosed : ∀ word ∈ words, word.IsClosed
  noSemicolon : ∀ word ∈ words, word.kind ≠ .semicolon
  balanced : depthOf (words.map (·.kind)) = 0
  noBar : ∀ i < words.length, (words.map (·.kind))[i]? = some .pipe →
    depthOf ((words.map (·.kind)).take i) ≠ 0

/-- A rule to be written. Its alternatives may be empty, but for the last. -/
structure Draft where
  isFragment : Bool
  name : Word
  choices : List Choice
  isName : name.kind = .identifier
  notKeyword : name.text ≠ "fragment"
  lastSome : ∀ choice ∈ choices.getLast?, choice.words ≠ []

/-- The name of a group to be opened. -/
structure Label where
  text : String
  oneLine : ∀ c ∈ text.toList, isBreak c = false
  trimmed : ∀ c ∈ text.toList.getLast?, Unicode.isBlank c = false

/-- What is written on a line. -/
inductive Item where
  | rule (draft : Draft)
  | opening (label : Label)
  | closing

/-- The marker that the item is, if it is no rule. -/
def Item.marker? : Item → Option Marker
  | .rule _ => none
  | .opening label => some (.opening label.text)
  | .closing => some .closing

theorem Label.lexeme (label : Label) {after : List Char}
    (hAfter : ∀ c ∈ after.head?, isBreak c = true) :
    Lexeme .lineComment ("// $<" ++ label.text).toList after := by
  have hBody : ∀ c ∈ ' ' :: '$' :: '<' :: label.text.toList, isBreak c = false := by
    simpa [isBreak] using label.oneLine
  rw [String.toList_append]
  exact .lineComment (.intro hBody hAfter)

def Label.word (label : Label) : Word :=
  .ofLexeme (label.lexeme (by simp))

/-- Alternatives with bars between them. -/
def bodyOf (choices : List Choice) : List Word :=
  [Word.bar].intercalate (choices.map (·.words))

/-- The words of the item but the last. -/
def Item.front : Item → List Word
  | .rule draft =>
    (if draft.isFragment then [.fragment] else []) ++ draft.name :: .colon :: bodyOf draft.choices
  | _ => []

/-- The last word of the item. -/
def Item.last : Item → Word
  | .rule _ => .semicolon
  | .opening label => label.word
  | .closing => .closing

def Item.words (item : Item) : List Word :=
  item.front ++ [item.last]

/-- The item as it is written. -/
def Item.line (item : Item) : String :=
  spaced item.words

/-- The items as they are written, each on a line of its own. -/
def written (items : List Item) : String :=
  String.join (items.map fun item => item.line ++ "\n")

end Item

section Recovered

/-- The number of words that are written. -/
def wordsIn (items : List Item) : Nat :=
  (items.flatMap (·.words)).length

/-- The number of rules that are written. -/
def rulesIn (items : List Item) : Nat :=
  items.countP (·.marker?.isNone)

/-- The rule is the one that was to be written. -/
structure Draft.Describes (draft : Draft) (rule : Rule) : Prop where
  name : rule.name = draft.name.text
  keyword : rule.first.isWord "fragment" = draft.isFragment
  alternatives : rule.alternativeTexts =
    draft.choices.map fun choice => choice.words.map (·.text)
  blocks : rule.blocks = []

/-- An item takes up its line, after others. -/
structure Item.Stands (before : List Item) (item : Item) (index start stop line : Nat) : Prop where
  index_eq : index = wordsIn before
  start_eq : start = byteLength (written before).toList
  stop_eq : stop = start + byteLength item.line.toList
  line_eq : line = 1 + lineFeeds (written before).toList

/-- The rules and groups are the items after others, in the order of these. -/
inductive Recovered : List Item → List Item → List Rule → List Group → Prop where
  | nil (before : List Item) : Recovered before [] [] []
  | rule {before items : List Item} {draft : Draft} {rule : Rule} {rules : List Rule}
      {groups : List Group} (hRead : draft.Describes rule)
      (hStands : Item.Stands before (.rule draft) rule.index rule.start rule.stop rule.first.line)
      (tail : Recovered (before ++ [.rule draft]) items rules groups) :
      Recovered before (.rule draft :: items) (rule :: rules) groups
  | group {before items : List Item} {item : Item} {group : Group} {rules : List Rule}
      {groups : List Group} (hMarker : item.marker? = some group.marker)
      (hAnchor : group.anchor = lastOf (rulesIn before))
      (hComment : group.comment.kind = .lineComment ∧ group.comment.text = item.line)
      (hStands : item.Stands before group.index group.comment.start group.comment.stop
        group.comment.line)
      (tail : Recovered (before ++ [item]) items rules groups) :
      Recovered before (item :: items) rules (group :: groups)

/-- The source is the items: in its tokens, and in its rules and groups. -/
structure Recovers (items : List Item) (source : String) : Prop where
  tokens : Spells (tokenize source) (items.flatMap (·.words))
  outline : Recovered [] items (outlineOf .standard (tokenize source)).rules
    (outlineOf .standard (tokenize source)).groups

end Recovered

end RuleOutline
