import RuleOutline.Rule
import RuleOutline.Group

/-! The outline of a text: its rules and its groups, in order. The tokens are walked through
once. A name opens a candidate, which runs up to the next semicolon and is a rule if it has a
colon; comments outside candidates may be markers. Candidates that do not become rules are
passed over in silence, since text that is being typed is full of them. -/
namespace RuleOutline

/-- The rules and groups of a text. -/
structure Outline where
  rules : List Rule
  groups : List Group

/-- Cuts a list at the first member with a property, into what comes before it, the member and
what comes after it. -/
def cutAt? {α : Type} (p : α → Bool) : List α → Option (List α × α × List α)
  | [] => none
  | x :: xs =>
    if p x then some ([], x, xs)
    else (cutAt? p xs).map fun (before, found, after) => (x :: before, found, after)

/-- A cut loses nothing and is made at the first member with the property. -/
theorem cutAt?_eq_some {α : Type} {p : α → Bool} {xs before after : List α} {found : α}
    (h : cutAt? p xs = some (before, found, after)) :
    xs = before ++ found :: after ∧ p found = true ∧ ∀ x ∈ before, p x = false := by
  induction xs generalizing before with
  | nil => simp [cutAt?] at h
  | cons x xs ih =>
    unfold cutAt? at h
    split at h
    next hx =>
      simp only [Option.some.injEq, Prod.mk.injEq] at h
      obtain ⟨rfl, rfl, rfl⟩ := h
      simp [hx]
    next hx =>
      obtain ⟨⟨b, f, a⟩, hcut, hparts⟩ := Option.map_eq_some_iff.1 h
      simp only [Prod.mk.injEq] at hparts
      obtain ⟨rfl, rfl, rfl⟩ := hparts
      obtain ⟨rfl, hf, hb⟩ := ih hcut
      refine ⟨rfl, hf, ?_⟩
      intro y hy
      rcases List.mem_cons.1 hy with rfl | hy
      · simpa using hx
      · exact hb y hy

/-- The name of the candidate that begins at a token. Words that head a section with a block of
its own begin none, and `fragment` needs a name after it. -/
def candidateName? (token : Token) (rest : List Token) : Option String :=
  if token.kind == .identifier then
    match rest with
    | [] => if token.text == "fragment" then none else some token.text
    | next :: _ =>
      if (token.text == "options" || token.text == "tokens") && next.kind == .block then none
      else if token.text == "fragment" then
        if next.kind == .identifier then some next.text else none
      else some token.text
  else none

/-- The group that a token outside candidates marks after the given number of rules. -/
def groupAt? (markers : Markers) (index rules : Nat) (token : Token) : Option Group :=
  if token.kind == .lineComment then
    (markers.read token.text).map fun marker =>
      ⟨marker, if rules = 0 then none else some (rules - 1), index, token⟩
  else none

/-- The outline of tokens, the first of which has the given index and stands after the given
number of rules. -/
def outlineFrom (markers : Markers) (index rules : Nat) (tokens : List Token) : Outline :=
  match tokens with
  | [] => ⟨[], []⟩
  | token :: rest =>
    match candidateName? token rest with
    | none =>
      let later := outlineFrom markers (index + 1) rules rest
      match groupAt? markers index rules token with
      | none => later
      | some group => { later with groups := group :: later.groups }
    | some name =>
      match h : cutAt? (·.kind == .semicolon) rest with
      | none => ⟨[], []⟩
      | some (inner, semicolon, after) =>
        have : after.length < rest.length := by
          rw [(cutAt?_eq_some h).1]
          simp only [List.length_append, List.length_cons]
          omega
        match cutAt? (·.kind == .colon) inner with
        | none => outlineFrom markers (index + inner.length + 2) rules after
        | some (heading, colon, body) =>
          let later := outlineFrom markers (index + inner.length + 2) (rules + 1) after
          let rule : Rule := ⟨name, index, token, heading, colon, body, semicolon, []⟩
          { later with rules := rule :: later.rules }
termination_by tokens.length

/-- The outline of the tokens of a text. -/
def outlineOf (markers : Markers) (tokens : List Token) : Outline :=
  outlineFrom markers 0 0 tokens

namespace Outline

/-- There is neither a rule nor a group. -/
def isEmpty (outline : Outline) : Bool :=
  outline.rules.isEmpty && outline.groups.isEmpty

/-- The number of the first rule with the name. -/
def ruleNamed? (outline : Outline) (name : String) : Option Nat :=
  outline.rules.findIdx? (·.name == name)

/-- The number of the first rule whose text covers the offset. -/
def ruleAtOffset? (outline : Outline) (offset : Nat) : Option Nat :=
  outline.rules.findIdx? (·.covers offset)

/-- The rules that are directly left recursive. -/
def leftRecursiveRules (outline : Outline) : List Rule :=
  outline.rules.filter (·.isLeftRecursive)

/-- The rules by name, those of one name in the order of the text. -/
def sortedRules (outline : Outline) : List Rule :=
  outline.rules.mergeSort fun a b => a.order b != .gt

/-- The rule that a group is anchored to. -/
def anchorRule? (outline : Outline) (group : Group) : Option Rule :=
  group.anchor.bind fun anchor => outline.rules[anchor]?

/-- Gives a rule its findings, in place of those it had. -/
def setFindings (outline : Outline) (rule : Nat) (findings : List Finding) : Outline :=
  { outline with rules := outline.rules.modify rule fun rule => { rule with findings } }

end Outline

end RuleOutline
