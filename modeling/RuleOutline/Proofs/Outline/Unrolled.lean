import RuleOutline.Proofs.LeftRecursion
import RuleOutline.Proofs.Outline.Pieces
import RuleOutline.Proofs.Outline.Span

/-! Left recursion in the rules of a source. The pieces of a body are what its rule generates by,
except that nothing at all between the last bar and the semicolon is not a piece to choose. -/
namespace RuleOutline

section Written

variable {markers : Markers} {source : String} {rule : Rule}

/-- The tokens that the shape of a rule consists of, by their places in the source. -/
def shapeTokens (source : String) (rule : Rule) : List Token :=
  (bodyTokens source rule).filter (!·.kind.isOpaque)

/-- The texts of the tokens of several pieces. -/
def textsOf (pieces : List (List Token)) : List Alternative :=
  pieces.map fun piece => piece.map (·.text)

/-- The bases and tails that the rule is written down with. -/
def Rule.groups (rule : Rule) : Unrolled :=
  .of rule.name rule.alternativeTexts

/-- The rule without its left recursion means what its body says. The body has one division into
pieces, and these are the alternatives as they are written, but for a last piece that is empty. -/
structure MeansAsWritten (source : String) (rule : Rule) (pieces : List (List Token)) : Prop where
  division : ∀ other, Pieces (shapeTokens source rule) 0 other ↔ other = pieces
  text : rule.unrolled = rule.groups.text
  whole : pieces.getLast? ≠ some [] →
    generated rule.name rule.groups.bodies = generated rule.name (choicesOf (textsOf pieces))
  front : pieces.getLast? = some [] →
    generated rule.name rule.groups.bodies =
      generated rule.name (choicesOf (textsOf pieces.dropLast))

theorem bodyTokens_eq (hRule : rule ∈ (outlineOf markers (tokenize source)).rules) :
    bodyTokens source rule = rule.body := by
  have hWalk := walk_outlineOf markers (tokenize source)
  obtain ⟨before, after, hTokens, hIndex, -⟩ := hWalk.exists_split rule hRule
  have hStands : rule.Stands source before after := ⟨hTokens, hIndex.trans (Nat.zero_add _)⟩
  exact hStands.bodyTokens_eq (hWalk.body_eq rule hRule)

/-- Every rule of every source means the same without its left recursion. -/
theorem rule_meansAsWritten (hRule : rule ∈ (outlineOf markers (tokenize source)).rules) :
    ∃ pieces, MeansAsWritten source rule pieces := by
  have hShape : shapeTokens source rule = rule.shape := by
    rw [shapeTokens, bodyTokens_eq hRule, Rule.shape]
  have hPieces := pieces_splitPipes rule.shape
  have hSame := generated_unrolled rule.name rule.alternativeTexts
  refine ⟨Rule.splitPipes 0 rule.shape, ?_, rfl, ?_, ?_⟩
  · intro other
    rw [hShape]
    constructor
    · exact fun hOther => hOther.eq hPieces
    · rintro rfl
      exact hPieces
  · intro hLast
    rw [Rule.groups, hSame, Rule.alternativeTexts, Rule.alternatives,
      Rule.dropEmptyLast_eq_self hLast, textsOf]
  · intro hLast
    rw [Rule.groups, hSame, Rule.alternativeTexts, Rule.alternatives, Rule.dropEmptyLast, hLast,
      textsOf]

theorem rule_meansAsWritten_between_bars :
    ∃ rule ∈ (outlineOf .standard (tokenize "a : a x | /* | */ | (b | a) \x7b\x7d ;")).rules,
      rule.name = "a" ∧
        ∃ pieces, MeansAsWritten "a : a x | /* | */ | (b | a) \x7b\x7d ;" rule pieces := by
  have hNames : (outlineOf .standard
      (tokenize "a : a x | /* | */ | (b | a) \x7b\x7d ;")).rules.map (·.name) = ["a"] := by
    decide +kernel
  obtain ⟨rule, rest, hRules, hName, -⟩ := List.map_eq_cons_iff.mp hNames
  have hRule : rule ∈ (outlineOf .standard
      (tokenize "a : a x | /* | */ | (b | a) \x7b\x7d ;")).rules := by
    rw [hRules]
    exact List.mem_cons_self ..
  exact ⟨rule, hRule, hName, rule_meansAsWritten hRule⟩

/-- A form that generates no words holds the name alone. -/
theorem Generates.eq_name_of_nil {name : String} {bodies : Language String} {form : Alternative}
    {words : List String} (h : Generates name bodies form words) (hNone : words = []) :
    ∀ text ∈ form, text = name := by
  induction h with
  | done => simp
  | terminal hText tail ih => cases hNone
  | expand hBody here tail ihHere ihTail =>
      exact List.forall_mem_cons.mpr ⟨rfl, ihTail (List.append_eq_nil_iff.mp hNone).2⟩

/-- A bar right before the semicolon makes a difference to what the body says, but not to the
rule without its left recursion. -/
theorem last_bar_lost :
    ∃ rule ∈ (outlineOf .standard (tokenize "a : a x | b | ;")).rules,
      rule.isLeftRecursive = true ∧ ∃ pieces, Pieces (shapeTokens "a : a x | b | ;" rule) 0 pieces ∧
        (∃ alternative ∈ textsOf pieces, alternative.head? ≠ some rule.name) ∧
        generated rule.name rule.groups.bodies ≠
          generated rule.name (choicesOf (textsOf pieces)) := by
  have hFacts : (outlineOf .standard (tokenize "a : a x | b | ;")).rules.map
      (fun rule => (rule.name, rule.isLeftRecursive, textsOf (Rule.splitPipes 0 rule.shape),
        rule.groups.bases)) = [("a", true, [["a", "x"], ["b"], []], [["b"]])] := by
    decide +kernel
  obtain ⟨rule, rest, hRules, hRule, -⟩ := List.map_eq_cons_iff.mp hFacts
  simp only [Prod.mk.injEq] at hRule
  obtain ⟨hName, hRecursive, hTexts, hBases⟩ := hRule
  have hMem : rule ∈ (outlineOf .standard (tokenize "a : a x | b | ;")).rules := by
    rw [hRules]
    exact List.mem_cons_self ..
  have hShape : shapeTokens "a : a x | b | ;" rule = rule.shape := by
    rw [shapeTokens, bodyTokens_eq hMem, Rule.shape]
  refine ⟨rule, hMem, hRecursive, Rule.splitPipes 0 rule.shape, ?_, ?_, ?_⟩
  · rw [hShape]
    exact pieces_splitPipes rule.shape
  · exact ⟨[], by simp [hTexts], by simp⟩
  · -- The last piece generates the empty string, which the bases cannot.
    intro hSame
    have hEmpty : [] ∈
        generated rule.name (choicesOf (textsOf (Rule.splitPipes 0 rule.shape))) := by
      rw [hTexts]
      exact mem_generated_iff.mpr ⟨[], by simp [mem_choicesOf], .done⟩
    rw [← hSame, mem_generated_iff] at hEmpty
    obtain ⟨body, hBody, hWords⟩ := hEmpty
    obtain ⟨base, hBase, star, -, rfl⟩ := Language.mem_mul.mp hBody
    rw [hBases, mem_choicesOf, List.mem_singleton] at hBase
    subst hBase
    have hText := hWords.eq_name_of_nil rfl "b" (by simp)
    rw [hName] at hText
    exact absurd hText (by decide)

end Written

end RuleOutline
