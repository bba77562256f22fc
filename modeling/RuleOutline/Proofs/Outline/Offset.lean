import RuleOutline.Document
import RuleOutline.Proofs.Outline.Rules
import RuleOutline.Proofs.Token.Layout

/-! Rules under an offset. Rules lie apart in a source because their tokens do, so the first rule
that is found under an offset is the only one there. The tokens that start on a rule are those
between its two ends. -/
namespace RuleOutline

/-- The offset lies on the rule: not before its first byte, and before the end of its semicolon. -/
def Rule.LiesUnder (rule : Rule) (offset : Nat) : Prop :=
  rule.start ≤ offset ∧ offset < rule.stop

section Ends

variable {markers : Markers} {tokens : List Token} {source : String} {rule : Rule}

/-- The first and the last token of a rule are at its two indices. -/
theorem getElem?_ends (hRule : rule ∈ (outlineOf markers tokens).rules) :
    tokens[rule.index]? = some rule.first ∧ tokens[rule.stopIndex]? = some rule.semicolon := by
  obtain ⟨before, after, hTokens, hIndex, -⟩ :=
    (walk_outlineOf markers tokens).exists_split rule hRule
  rw [Nat.zero_add] at hIndex
  constructor
  · rw [hTokens, hIndex]
    simp [Rule.tokens]
  · rw [hTokens, Rule.stopIndex, hIndex, getElem?_append_add]
    simp

/-- The spans of the rules are in order and lie apart. -/
theorem pairwise_stop_le_start (markers : Markers) (source : String) :
    (outlineOf markers (tokenize source)).rules.Pairwise fun a b => a.stop ≤ b.start := by
  apply (walk_outlineOf markers (tokenize source)).pairwise.imp_of_mem
  intro first second hFirst hSecond hIndex
  exact stop_le_start_of_index_lt hIndex (getElem?_ends hFirst).2 (getElem?_ends hSecond).1

/-- A token starts on a rule just if it is one of those from its first token to its semicolon. -/
theorem liesUnder_start_iff (hRule : rule ∈ (outlineOf markers (tokenize source)).rules)
    {i : Nat} {token : Token} (hToken : (tokenize source)[i]? = some token) :
    rule.LiesUnder token.start ↔ rule.index ≤ i ∧ i ≤ rule.stopIndex := by
  have ⟨hFirst, hLast⟩ := getElem?_ends hRule
  have hProper := (place_of_mem_tokenize (List.mem_of_getElem? hToken)).1
  have hEnd : rule.semicolon.start < rule.stop :=
    (place_of_mem_tokenize (List.mem_of_getElem? hLast)).1
  constructor
  · intro hUnder
    constructor
    · apply Nat.le_of_not_lt
      intro hBefore
      have hStop : token.stop ≤ rule.start := stop_le_start_of_index_lt hBefore hToken hFirst
      exact absurd hUnder.1 (by omega)
    · apply Nat.le_of_not_lt
      intro hBehind
      have hStart : rule.stop ≤ token.start := stop_le_start_of_index_lt hBehind hLast hToken
      exact absurd hUnder.2 (by omega)
  · intro hIndex
    constructor
    · rcases Nat.eq_or_lt_of_le hIndex.1 with hSame | hLater
      · rw [← hSame, hFirst, Option.some.injEq] at hToken
        rw [← hToken]
        exact Nat.le_refl _
      · exact Nat.le_of_lt (start_lt_of_index_lt hLater hFirst hToken)
    · rcases Nat.eq_or_lt_of_le hIndex.2 with hSame | hEarlier
      · rw [hSame, hLast, Option.some.injEq] at hToken
        rwa [← hToken]
      · exact Nat.lt_trans (start_lt_of_index_lt hEarlier hToken hLast) hEnd

end Ends

section Lookup

variable {rules : List Rule} {i j offset : Nat} {first second : Rule}

theorem covers_iff : first.covers offset = true ↔ first.LiesUnder offset := by
  simp [Rule.covers, Rule.LiesUnder]

/-- Where the spans lie apart, no offset lies on two rules. -/
theorem eq_of_liesUnder (hApart : rules.Pairwise fun a b => a.stop ≤ b.start)
    (hFirst : rules[i]? = some first) (hSecond : rules[j]? = some second)
    (hUnder : first.LiesUnder offset) (hAlso : second.LiesUnder offset) : i = j := by
  obtain ⟨hi, rfl⟩ := List.getElem?_eq_some_iff.mp hFirst
  obtain ⟨hj, rfl⟩ := List.getElem?_eq_some_iff.mp hSecond
  have hPairs := List.pairwise_iff_getElem.mp hApart
  have hEnd := hUnder.2
  have hStart := hAlso.1
  rcases Nat.lt_trichotomy i j with hLess | hSame | hGreater
  · have hOrder := hPairs i j hi hj hLess
    omega
  · exact hSame
  · have hOrder := hPairs j i hj hi hGreater
    have hOther := hUnder.1
    have hLast := hAlso.2
    omega

theorem exists_of_findIdx?_covers (hFound : rules.findIdx? (·.covers offset) = some i) :
    ∃ rule, rules[i]? = some rule ∧ rule.LiesUnder offset := by
  obtain ⟨hIndex, hCovers, -⟩ := List.findIdx?_eq_some_iff_getElem.mp hFound
  exact ⟨rules[i], List.getElem?_eq_getElem hIndex, covers_iff.mp hCovers⟩

/-- So the first rule that is found under an offset is the one that is there. -/
theorem findIdx?_covers_iff (hApart : rules.Pairwise fun a b => a.stop ≤ b.start) :
    rules.findIdx? (·.covers offset) = some i ↔
      ∃ rule, rules[i]? = some rule ∧ rule.LiesUnder offset := by
  constructor
  · exact exists_of_findIdx?_covers
  · rintro ⟨rule, hRule, hUnder⟩
    cases hFound : rules.findIdx? (·.covers offset) with
    | none =>
        have hNone := List.findIdx?_eq_none_iff.mp hFound rule (List.mem_of_getElem? hRule)
        simp [covers_iff.mpr hUnder] at hNone
    | some j =>
        obtain ⟨other, hOther, hAlso⟩ := exists_of_findIdx?_covers hFound
        rw [eq_of_liesUnder hApart hOther hRule hAlso hUnder]

theorem findIdx?_covers_eq_none_iff :
    rules.findIdx? (·.covers offset) = none ↔ ∀ rule ∈ rules, ¬rule.LiesUnder offset := by
  rw [List.findIdx?_eq_none_iff]
  simp only [← covers_iff, Bool.not_eq_true]

end Lookup

/-- The rules of a document by offsets: no offset lies on two of them, a search for an offset comes
to the rule that it lies on, if there is one, and a rule has the tokens that start on it. -/
structure Document.RulesApart (document : Document) : Prop where
  once : ∀ (offset i j : Nat) (first second : Rule), document.outline.rules[i]? = some first →
    document.outline.rules[j]? = some second →
      first.LiesUnder offset → second.LiesUnder offset → i = j
  found : ∀ offset i, document.outline.ruleAtOffset? offset = some i ↔
    ∃ rule, document.outline.rules[i]? = some rule ∧ rule.LiesUnder offset
  absent : ∀ offset, document.outline.ruleAtOffset? offset = none ↔
    ∀ rule ∈ document.outline.rules, ¬rule.LiesUnder offset
  tokens : ∀ rule ∈ document.outline.rules, ∀ i token, document.tokens[i]? = some token →
    (rule.LiesUnder token.start ↔ rule.index ≤ i ∧ i ≤ rule.stopIndex)

/-- The rules of every document lie apart, up to and with their semicolons. -/
theorem document_rulesApart (markers : Markers) (source : String) :
    (Document.read markers source).RulesApart where
  once _ _ _ _ _ := eq_of_liesUnder (pairwise_stop_le_start markers source)
  found _ _ := findIdx?_covers_iff (pairwise_stop_le_start markers source)
  absent _ := findIdx?_covers_eq_none_iff
  tokens _ hRule _ _ hToken := liesUnder_start_iff hRule hToken

/-- The end of a semicolon lies on the next rule, if that begins there, and on no other. -/
example : ((Document.read .standard "a : ;b : ;").outline.ruleAtOffset? 4,
    (Document.read .standard "a : ;b : ;").outline.ruleAtOffset? 5,
    (Document.read .standard "a : ;b : ;").outline.ruleAtOffset? 10) = (some 0, some 1, none) := by
  decide +kernel

end RuleOutline
