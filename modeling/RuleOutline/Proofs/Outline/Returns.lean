import Mathlib.Data.List.Forall2
import RuleOutline.Proofs.Token.Returns
import RuleOutline.Proofs.Outline.Semicolon

/-! Outlines do not depend on the line ends. Where no literal has an escaped line feed in it, a
source with carriage returns before its line feeds has the same rules and the same groups. -/
namespace RuleOutline

section Outline

variable {markers : Markers} {source : String}

theorem outlineOf_withReturns (h : LiteralsOnOneLine source) :
    outlineOf markers (tokenize (withReturns source)) =
      (outlineOf markers (tokenize source)).move Token.returned 0 0 := by
  have hText : ∀ token ∈ tokenize source, token.kind = .identifier ∨ token.kind = .lineComment →
      token.returned.text = token.text := by
    intro token hToken hKind
    have hFeed := feed_not_mem_of_mem_tokenize hToken
      (by rcases hKind with hKind | hKind <;> simp [hKind])
    rw [Token.returned, withReturns, addReturns_eq_self hFeed, String.ofList_toList]
  have hKind : ∀ token : Token, token.returned.kind = token.kind := fun _ => rfl
  have hWalk := (walk_outlineOf markers (tokenize source)).move hKind hText 0 0
  rw [tokenize_withReturns h]
  exact hWalk.eq_outlineFrom.symm

/-- Two sources that the tokenizer and the analyzer tell apart by carriage returns only. -/
structure SameButReturns (markers : Markers) (first second : String) : Prop where
  tokens : List.Forall₂
    (fun a b : Token => a.kind = b.kind ∧ a.line = b.line ∧
      a.text.toList.filter (· ≠ '\r') = b.text.toList.filter (· ≠ '\r'))
    (tokenize first) (tokenize second)
  rules : List.Forall₂
    (fun a b : Rule => a.name = b.name ∧ a.index = b.index ∧ a.stopIndex = b.stopIndex)
    (outlineOf markers (tokenize first)).rules (outlineOf markers (tokenize second)).rules
  groups : List.Forall₂
    (fun a b : Group => a.marker = b.marker ∧ a.anchor = b.anchor ∧ a.index = b.index)
    (outlineOf markers (tokenize first)).groups (outlineOf markers (tokenize second)).groups

/-- Where every literal is on one line, carriage returns before the line feeds make no
difference. -/
theorem sameButReturns (markers : Markers) (h : LiteralsOnOneLine source) :
    SameButReturns markers source (withReturns source) where
  tokens := by
    rw [tokenize_withReturns h, List.forall₂_map_right_iff, List.forall₂_same]
    intro token _
    refine ⟨rfl, rfl, ?_⟩
    rw [Token.returned, withReturns, String.toList_ofList, filter_addReturns]
  rules := by
    rw [outlineOf_withReturns h, Outline.move, List.forall₂_map_right_iff, List.forall₂_same]
    intro rule _
    refine ⟨rfl, rfl, ?_⟩
    simp [Rule.stopIndex, Rule.tokens, Rule.move]
  groups := by
    rw [outlineOf_withReturns h, Outline.move, List.forall₂_map_right_iff, List.forall₂_same]
    intro group _
    refine ⟨rfl, ?_, rfl⟩
    cases hAnchor : group.anchor <;> simp [Group.move, hAnchor, lastOf]

theorem sameButReturns_marker :
    LiteralsOnOneLine "// $<g\nr : '\\n' \x7b '\x7d' // \x7d\n\x7d\n | /*\n*/ r ;\n// $>\n" ∧
      SameButReturns .standard
        "// $<g\nr : '\\n' \x7b '\x7d' // \x7d\n\x7d\n | /*\n*/ r ;\n// $>\n"
        (withReturns "// $<g\nr : '\\n' \x7b '\x7d' // \x7d\n\x7d\n | /*\n*/ r ;\n// $>\n") := by
  have hLiterals : LiteralsOnOneLine
      "// $<g\nr : '\\n' \x7b '\x7d' // \x7d\n\x7d\n | /*\n*/ r ;\n// $>\n" :=
    literalsOnOneLine_of_not_endsInEscape (by unfold EndsInEscape; decide +kernel)
  exact ⟨hLiterals, sameButReturns .standard hLiterals⟩

/-- An escaped line feed is not one any more behind a carriage return: the backslash escapes the
carriage return, and the line feed ends the literal, in action code as elsewhere. -/
theorem escaped_returns :
    ('\r' ∉ "'\\\n'".toList ∧ ¬SameButReturns .standard "'\\\n'" (withReturns "'\\\n'")) ∧
      '\r' ∉ "\x7b'\\\n\x7d'\x7d".toList ∧
        ¬SameButReturns .standard "\x7b'\\\n\x7d'\x7d" (withReturns "\x7b'\\\n\x7d'\x7d") := by
  refine ⟨⟨by decide, fun h => ?_⟩, by decide, fun h => ?_⟩
  · have hLength := h.tokens.length_eq
    revert hLength
    decide +kernel
  · have hLength := h.tokens.length_eq
    revert hLength
    decide +kernel

end Outline

end RuleOutline
