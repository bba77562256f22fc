import RuleOutline.Proofs.Token.Joined
import RuleOutline.Proofs.Outline.Parentheses
import RuleOutline.Proofs.Outline.Printed

/-! Rules without left recursion to be written down: a name, and alternatives in two pairs of
parentheses. Read again, each of them is a rule with one alternative. -/
namespace RuleOutline

def Word.openParen : Word :=
  ⟨.openParen, "(", ⟨.openParen, "(", 0, 1, 1⟩, by decide +kernel, rfl, rfl⟩

def Word.closeParen : Word :=
  ⟨.closeParen, ")", ⟨.closeParen, ")", 0, 1, 1⟩, by decide +kernel, rfl, rfl⟩

def Word.star : Word :=
  ⟨.operator, "*", ⟨.operator, "*", 0, 1, 1⟩, by decide +kernel, rfl, rfl⟩

/-- Words of one text are of one kind. -/
theorem Word.kind_eq {word other : Word} (h : word.text = other.text) : word.kind = other.kind := by
  obtain ⟨token, hTokens, hKind, -⟩ := word.alone
  obtain ⟨same, hSame, hOther, -⟩ := other.alone
  rw [h, hSame] at hTokens
  obtain rfl := List.singleton_inj.mp hTokens
  rw [← hKind, hOther]

/-- An alternative that may stand between parentheses with others. -/
structure Phrase where
  words : List Word
  isClosed : ∀ word ∈ words, word.IsClosed
  noSemicolon : ∀ word ∈ words, word.kind ≠ .semicolon
  nested : Nested 0 (words.map (·.kind))

def Phrase.texts (phrase : Phrase) : Alternative :=
  phrase.words.map (·.text)

/-- Phrases with bars between them. -/
def barred (phrases : List Phrase) : List Word :=
  [Word.bar].intercalate (phrases.map (·.words))

/-- Phrases with bars between them, in parentheses. -/
def enclosed (phrases : List Phrase) : List Word :=
  .openParen :: (barred phrases ++ [.closeParen])

section Phrases

variable {phrases : List Phrase} {p : Word → Prop}

theorem barred_cons (phrase : Phrase) (h : phrases ≠ []) :
    barred (phrase :: phrases) = phrase.words ++ .bar :: barred phrases := by
  rw [barred, List.map_cons, List.intercalate_cons_of_ne_nil (by simpa using h),
    List.append_assoc]
  rfl

theorem forall_mem_enclosed (hOpen : p .openParen) (hBar : p .bar) (hClose : p .closeParen)
    (h : ∀ phrase ∈ phrases, ∀ word ∈ phrase.words, p word) :
    ∀ word ∈ enclosed phrases, p word := by
  have hInside : ∀ word ∈ barred phrases, p word :=
    forall_mem_intercalate (List.forall_mem_singleton.mpr hBar) (List.forall_mem_map.mpr h)
  intro word hWord
  rcases List.mem_cons.mp hWord with rfl | hWord
  · exact hOpen
  · rcases List.mem_append.mp hWord with hWord | hWord
    · exact hInside word hWord
    · rwa [List.mem_singleton.mp hWord]

/-- Bars do not matter to parentheses that match. -/
theorem nested_barred (phrases : List Phrase) : Nested 0 ((barred phrases).map (·.kind)) := by
  induction phrases with
  | nil => exact nested_nil.mpr rfl
  | cons phrase phrases ih =>
      by_cases hNil : phrases = []
      · subst hNil
        simpa [barred] using phrase.nested
      · rw [barred_cons phrase hNil, List.map_append, List.map_cons]
        have hBar : Nested 0 (Word.bar.kind :: (barred phrases).map (·.kind)) :=
          nested_cons.mpr ⟨Int.le_refl 0, ih⟩
        exact phrase.nested.append hBar

theorem kinds_enclosed (phrases : List Phrase) :
    (enclosed phrases).map (·.kind) =
      .openParen :: ((barred phrases).map (·.kind) ++ [.closeParen]) := by
  simp [enclosed, Word.openParen, Word.closeParen]

theorem depthOf_enclosed (phrases : List Phrase) :
    depthOf ((enclosed phrases).map (·.kind)) = 0 := by
  have hInside : depthOf ((barred phrases).map (·.kind)) = 0 := by
    simpa using (nested_barred phrases).1
  rw [kinds_enclosed, depthOf_cons, depthOf_append, hInside]
  rfl

/-- The bars between the phrases are in the parentheses around them. -/
theorem sheltered_enclosed (phrases : List Phrase) {rest : List Kind} (h : Sheltered 0 rest) :
    Sheltered 0 ((enclosed phrases).map (·.kind) ++ rest) := by
  have hClose : Sheltered 1 (.closeParen :: rest) := sheltered_cons.mpr ⟨nofun, h⟩
  have hInside := (nested_barred phrases).sheltered Int.one_pos hClose
  rw [kinds_enclosed, List.cons_append, List.append_assoc]
  exact sheltered_cons.mpr ⟨nofun, hInside⟩

theorem texts_barred (phrases : List Phrase) :
    (barred phrases).map (·.text) = ["|"].intercalate (phrases.map (·.texts)) := by
  induction phrases with
  | nil => rfl
  | cons phrase phrases ih =>
      by_cases hNil : phrases = []
      · subst hNil
        simp [barred, Phrase.texts]
      · rw [barred_cons phrase hNil, List.map_cons,
          List.intercalate_cons_of_ne_nil (by simpa using hNil), List.map_append, List.map_cons, ih,
          List.append_assoc]
        rfl

end Phrases

/-- What the rule is to be without its left recursion. -/
structure Rewrite where
  name : Word
  bases : List Phrase
  tails : List Phrase
  isName : name.kind = .identifier
  notKeyword : name.text ≠ "fragment"

namespace Rewrite

variable (rewrite : Rewrite)

/-- The words of its only alternative. -/
def words : List Word :=
  enclosed rewrite.bases ++ (enclosed rewrite.tails ++ [.star])

theorem forall_mem_words {p : Word → Prop} (hOpen : p .openParen) (hBar : p .bar)
    (hClose : p .closeParen) (hStar : p .star)
    (h : ∀ phrase : Phrase, ∀ word ∈ phrase.words, p word) : ∀ word ∈ rewrite.words, p word := by
  have hEnclosed : ∀ phrases, ∀ word ∈ enclosed phrases, p word := fun phrases =>
    forall_mem_enclosed hOpen hBar hClose fun phrase _ => h phrase
  apply List.forall_mem_append.mpr ⟨hEnclosed rewrite.bases, ?_⟩
  exact List.forall_mem_append.mpr ⟨hEnclosed rewrite.tails, List.forall_mem_singleton.mpr hStar⟩

theorem sheltered_words : Sheltered 0 (rewrite.words.map (·.kind)) := by
  have hStar : Sheltered 0 [Word.star.kind] := sheltered_cons.mpr ⟨nofun, sheltered_nil _⟩
  rw [words, List.map_append, List.map_append]
  exact sheltered_enclosed _ (sheltered_enclosed _ hStar)

theorem depthOf_words : depthOf (rewrite.words.map (·.kind)) = 0 := by
  rw [words, List.map_append, List.map_append, depthOf_append, depthOf_append, depthOf_enclosed,
    depthOf_enclosed]
  rfl

def choice : Choice where
  words := rewrite.words
  isClosed := rewrite.forall_mem_words (Word.isClosed_of_kind rfl (by decide))
    (Word.isClosed_of_kind rfl (by decide)) (Word.isClosed_of_kind rfl (by decide))
    (Word.isClosed_of_kind rfl (by decide)) Phrase.isClosed
  noSemicolon := rewrite.forall_mem_words (by decide) (by decide) (by decide) (by decide)
    Phrase.noSemicolon
  balanced := rewrite.depthOf_words
  noBar _ _ hBar := rewrite.sheltered_words.getElem? hBar

def draft : Draft where
  isFragment := false
  name := rewrite.name
  choices := [rewrite.choice]
  isName := rewrite.isName
  notKeyword := rewrite.notKeyword
  lastSome := by simp [choice, words, enclosed]

def unrolled : Unrolled where
  bases := rewrite.bases.map (·.texts)
  tails := rewrite.tails.map (·.texts)

/-- The rule as it is written. -/
def line : String :=
  s!"{rewrite.name.text} : {rewrite.unrolled.text} ;"

/-- The texts of its only alternative. -/
theorem texts_words :
    rewrite.words.map (·.text) =
      "(" :: (["|"].intercalate rewrite.unrolled.bases ++ ")" ::
        "(" :: (["|"].intercalate rewrite.unrolled.tails ++ [")", "*"])) := by
  simp [words, enclosed, texts_barred, unrolled, Word.openParen, Word.closeParen, Word.star]

theorem item_words :
    (Item.rule rewrite.draft).words =
      rewrite.name :: .colon :: (rewrite.words ++ [.semicolon]) := by
  simp [Item.words, Item.front, Item.last, draft, bodyOf, choice]

theorem lays_name (rest : List Char) :
    Lays [rewrite.name] rewrite.name.text.toList (' ' :: rest) := by
  have hClosed : rewrite.name.IsClosed := by
    apply Word.isClosed_of_kind <;> rw [rewrite.isName] <;> decide
  exact lays_word (hClosed.lexeme (by simp [endsWords, isSkipped]))

theorem lays_barred (phrases : List Phrase) (rest : List Char) :
    Lays (barred phrases) (alternativesText (phrases.map (·.texts))).toList (')' :: rest) := by
  have hTexts : phrases.map (·.texts) =
      (phrases.map (·.words)).map fun part => part.map (·.text) := by
    rw [List.map_map]
    rfl
  have hClosed : ∀ part ∈ phrases.map (·.words), ∀ word ∈ part, word.IsClosed :=
    List.forall_mem_map.mpr fun phrase _ => phrase.isClosed
  rw [hTexts]
  exact lays_alternativesText hClosed (by simp [endsWords])

/-- Written down, the rule is read as its words, whatever follows it. -/
theorem lays_line (after : List Char) :
    Lays (Item.rule rewrite.draft).words rewrite.line.toList after := by
  have hHead : ∀ rest, Lays [.colon, .openParen] [' ', ':', ' ', '('] rest := fun rest =>
    (lays_skip rfl _).append ((lays_mark rfl (by decide) _).append
      ((lays_skip rfl _).append (lays_mark rfl (by decide) rest)))
  have hBetween : ∀ rest, Lays [.closeParen, .openParen] [')', ' ', '('] rest := fun rest =>
    (lays_mark rfl (by decide) _).append
      ((lays_skip rfl _).append (lays_mark rfl (by decide) rest))
  -- The star would be part of a longer operator only in front of certain characters.
  have hStar : ∀ rest, Lays [.star] ['*'] (' ' :: rest) := fun rest =>
    lays_word (.operator (by decide) (by simp [operatorPairs]) nofun)
  have hEnd : Lays [.closeParen, .star, .semicolon] [')', '*', ' ', ';'] after :=
    (lays_mark rfl (by decide) _).append ((hStar _).append
      ((lays_skip rfl _).append (lays_mark rfl (by decide) after)))
  have hWords : (Item.rule rewrite.draft).words =
      [rewrite.name] ++ ([.colon, .openParen] ++ (barred rewrite.bases ++
        ([.closeParen, .openParen] ++ (barred rewrite.tails ++
          [.closeParen, .star, .semicolon])))) := by
    simp [item_words, words, enclosed]
  have hText : rewrite.line.toList =
      rewrite.name.text.toList ++ ([' ', ':', ' ', '('] ++
        ((alternativesText rewrite.unrolled.bases).toList ++ ([')', ' ', '('] ++
          ((alternativesText rewrite.unrolled.tails).toList ++ [')', '*', ' ', ';'])))) := by
    simp [line, Unrolled.text, toString]
  rw [hWords, hText]
  exact (rewrite.lays_name _).append ((hHead _).append ((lays_barred _ _).append
    ((hBetween _).append ((lays_barred _ _).append hEnd))))

end Rewrite

end RuleOutline
