import RuleOutline.LeftRecursion
import RuleOutline.Proofs.Outline.Written

/-! Texts that are read as words. How a text is read depends on nothing before it and on the next
character behind it, so texts can be put one after the other. -/
namespace RuleOutline

open Text

/-- In front of that rest, and wherever it stands, the text is read as the words. -/
def Lays (words : List Word) (text after : List Char) : Prop :=
  ∀ offset line later,
    Tokenized (offset + byteLength text) (line + lineFeeds text) after later →
      ∃ tokens, Spells tokens words ∧ Tokenized offset line (text ++ after) (tokens ++ later)

variable {words first second : List Word} {text more after : List Char} {word : Word} {c : Char}

theorem lays_nil (after : List Char) : Lays [] [] after :=
  fun _ _ _ hAfter => ⟨[], rfl, hAfter⟩

theorem Lays.append (hFirst : Lays first text (more ++ after)) (hSecond : Lays second more after) :
    Lays (first ++ second) (text ++ more) after := by
  intro offset line later hAfter
  rw [byteLength_append, lineFeeds_append, ← Nat.add_assoc, ← Nat.add_assoc] at hAfter
  obtain ⟨tokens, hSpells, hTokens⟩ := hSecond _ _ _ hAfter
  obtain ⟨earlier, hEarlier, hAll⟩ := hFirst _ _ _ hTokens
  refine ⟨earlier ++ tokens, hEarlier.append hSpells, ?_⟩
  rwa [List.append_assoc, List.append_assoc]

/-- White space is read as no words. -/
theorem lays_skip (hSkip : isSkipped c = true) (after : List Char) : Lays [] [c] after :=
  fun _ _ _ hAfter => ⟨[], rfl, .skip hSkip hAfter⟩

theorem lays_word (h : Lexeme word.kind word.text.toList after) :
    Lays [word] word.text.toList after := by
  intro offset line later hAfter
  refine ⟨[⟨word.kind, word.text, offset, offset + byteLength word.text.toList, line⟩], rfl, ?_⟩
  have hTokens := Tokenized.token h hAfter
  rwa [String.ofList_toList] at hTokens

/-- A mark is read as itself, whatever follows it. -/
theorem lays_mark (hText : word.text.toList = [c]) (hMark : (c, word.kind) ∈ marks)
    (after : List Char) : Lays [word] [c] after := by
  rw [← hText]
  apply lays_word
  rw [hText]
  exact .mark after hMark

theorem lays_spaced (hWords : ∀ word ∈ words, word.IsClosed)
    (hAfter : ∀ c ∈ after.head?, endsWords c = true) :
    Lays words (spaced words).toList after := by
  induction words with
  | nil => exact lays_nil after
  | cons word words ih =>
      obtain ⟨hWord, hWords⟩ := List.forall_mem_cons.mp hWords
      by_cases hNil : words = []
      · subst hNil
        exact lays_word (hWord.lexeme hAfter)
      · have hHere : Lexeme word.kind word.text.toList (' ' :: ((spaced words).toList ++ after)) :=
          hWord.lexeme (by simp [endsWords, isSkipped])
        rw [toList_spaced_cons word hNil]
        exact (lays_word hHere).append ((lays_skip rfl _).append (ih hWords))

theorem alternativesText_singleton (alternative : Alternative) :
    alternativesText [alternative] = alternative.text := by
  simp [alternativesText]

theorem alternativesText_cons (alternative : Alternative) {alternatives : List Alternative}
    (h : alternatives ≠ []) :
    alternativesText (alternative :: alternatives) =
      alternative.text ++ " | " ++ alternativesText alternatives := by
  rw [alternativesText, List.map_cons, String.intercalate_cons_of_ne_nil (by simpa using h)]
  rfl

/-- Alternatives are read as their words, with bars between them. -/
theorem lays_alternativesText {parts : List (List Word)}
    (hParts : ∀ part ∈ parts, ∀ word ∈ part, word.IsClosed)
    (hAfter : ∀ c ∈ after.head?, endsWords c = true) :
    Lays ([Word.bar].intercalate parts)
      (alternativesText (parts.map fun part => part.map (·.text))).toList after := by
  induction parts with
  | nil => exact lays_nil after
  | cons part parts ih =>
      obtain ⟨hPart, hParts⟩ := List.forall_mem_cons.mp hParts
      by_cases hNil : parts = []
      · subst hNil
        rw [List.map_singleton, alternativesText_singleton, List.intercalate_singleton]
        exact lays_spaced hPart hAfter
      · have hBar : ∀ rest, Lays [.bar] [' ', '|', ' '] rest := fun rest =>
          (lays_skip rfl _).append ((lays_mark rfl (by decide) _).append (lays_skip rfl rest))
        rw [List.intercalate_cons_of_ne_nil hNil, List.map_cons,
          alternativesText_cons _ (by simpa using hNil), String.toList_append, String.toList_append]
        exact ((lays_spaced hPart (by simp; decide)).append (hBar _)).append (ih hParts)

theorem spells_tokenize {source : String} (h : Lays words source.toList []) :
    Spells (tokenize source) words := by
  obtain ⟨tokens, hSpells, hTokens⟩ := h 0 1 [] (.nil _ _)
  rw [List.append_nil, List.append_nil] at hTokens
  rwa [tokenize, ← hTokens.eq_tokensFrom]

end RuleOutline
