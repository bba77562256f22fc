import Mathlib.Computability.ContextFreeGrammar
import RuleOutline.LeftRecursion

/-! What a rule generates, with its left recursion and without it. Any text but the name of the
rule stands for itself. The name stands for all that the rule generates, wherever it occurs, so a
base and a tail may hold it as well. -/
namespace RuleOutline

open scoped Computability

section Generates

/-- The form becomes the words when every name in it is replaced by a body, and so on in the
bodies. Each use of `expand` is a node of the derivation tree. -/
inductive Generates (name : String) (bodies : Language String) :
    Alternative → List String → Prop where
  | done : Generates name bodies [] []
  | terminal {text : String} {form : Alternative} {words : List String} (hText : text ≠ name)
      (tail : Generates name bodies form words) :
      Generates name bodies (text :: form) (text :: words)
  | expand {body form : Alternative} {first second : List String} (hBody : body ∈ bodies)
      (here : Generates name bodies body first) (tail : Generates name bodies form second) :
      Generates name bodies (name :: form) (first ++ second)

/-- The strings that the name generates if it may be replaced by any of the bodies. -/
def generated (name : String) (bodies : Language String) : Language String :=
  fun words => Generates name bodies [name] words

/-- The alternatives as the bodies that a rule may choose from. -/
def choicesOf (alternatives : List Alternative) : Language String :=
  fun alternative => alternative ∈ alternatives

/-- What the groups `(bases) (tails)*` choose from: one base and any number of tails after it. -/
def Unrolled.bodies (unrolled : Unrolled) : Language String :=
  choicesOf unrolled.bases * (choicesOf unrolled.tails)∗

variable {name : String} {bodies : Language String} {alternatives : List Alternative}
  {form body alternative : Alternative} {words : List String}

theorem mem_choicesOf : alternative ∈ choicesOf alternatives ↔ alternative ∈ alternatives :=
  Iff.rfl

theorem choicesOf_nil : choicesOf [] = 0 := by
  ext alternative
  simp [mem_choicesOf, Language.notMem_zero]

theorem Generates.append {first second : Alternative} {firstWords secondWords : List String}
    (hFirst : Generates name bodies first firstWords)
    (hSecond : Generates name bodies second secondWords) :
    Generates name bodies (first ++ second) (firstWords ++ secondWords) := by
  induction hFirst with
  | done => exact hSecond
  | terminal hText tail ih => exact .terminal hText ih
  | expand hBody here tail ihHere ihTail =>
      rw [List.append_assoc]
      exact .expand hBody here ihTail

/-- What a form generates can be cut where the form is cut. -/
theorem Generates.of_append {first second : Alternative}
    (h : Generates name bodies (first ++ second) words) :
    ∃ firstWords secondWords, words = firstWords ++ secondWords ∧
      Generates name bodies first firstWords ∧ Generates name bodies second secondWords := by
  induction first generalizing words with
  | nil => exact ⟨[], words, rfl, .done, h⟩
  | cons text first ih =>
      cases h with
      | terminal hText tail =>
          obtain ⟨firstWords, secondWords, rfl, hFirst, hSecond⟩ := ih tail
          exact ⟨text :: firstWords, secondWords, rfl, .terminal hText hFirst, hSecond⟩
      | expand hBody here tail =>
          obtain ⟨firstWords, secondWords, rfl, hFirst, hSecond⟩ := ih tail
          exact ⟨_, secondWords, (List.append_assoc ..).symm, .expand hBody here hFirst, hSecond⟩

theorem mem_generated_iff :
    words ∈ generated name bodies ↔ ∃ body ∈ bodies, Generates name bodies body words := by
  constructor
  · intro h
    cases h with
    | terminal hText => exact absurd rfl hText
    | expand hBody here tail =>
        cases tail with
        | done => exact ⟨_, hBody, by rwa [List.append_nil]⟩
  · rintro ⟨body, hBody, hWords⟩
    have hName := Generates.expand hBody hWords .done
    rwa [List.append_nil] at hName

/-- A name without bodies generates nothing. -/
theorem generated_zero (name : String) : generated name 0 = 0 := by
  ext words
  rw [mem_generated_iff]
  simp [Language.notMem_zero]

end Generates

section Grammar

/-- The name is the only nonterminal. -/
def symbolOf (name text : String) : Symbol String Unit :=
  if text = name then .nonterminal () else .terminal text

/-- The rule with its alternatives as a grammar of one nonterminal. -/
abbrev grammarOf (name : String) (alternatives : List Alternative) : ContextFreeGrammar String where
  NT := Unit
  initial := ()
  rules := (alternatives.map fun alternative => ⟨(), alternative.map (symbolOf name)⟩).toFinset

variable {name : String} {alternatives : List Alternative} {form body : Alternative}
  {words : List String}

theorem symbolOf_name (name : String) : symbolOf name name = .nonterminal () :=
  if_pos rfl

theorem symbolOf_of_ne {text : String} (h : text ≠ name) : symbolOf name text = .terminal text :=
  if_neg h

theorem produces_iff {u v : List (Symbol String Unit)} :
    (grammarOf name alternatives).Produces u v ↔
      ∃ body ∈ alternatives, ∃ before after, u = before ++ [.nonterminal ()] ++ after ∧
        v = before ++ body.map (symbolOf name) ++ after := by
  constructor
  · rintro ⟨rule, hRule, hRewrites⟩
    obtain ⟨body, hBody, rfl⟩ := List.mem_map.mp (List.mem_toFinset.mp hRule)
    exact ⟨body, hBody, ContextFreeRule.rewrites_iff.mp hRewrites⟩
  · rintro ⟨body, hBody, hSplit⟩
    exact ⟨_, List.mem_toFinset.mpr (List.mem_map_of_mem hBody),
      ContextFreeRule.rewrites_iff.mpr hSplit⟩

theorem Generates.derives (h : Generates name (choicesOf alternatives) form words) :
    (grammarOf name alternatives).Derives (form.map (symbolOf name)) (words.map .terminal) := by
  induction h with
  | done => exact .refl _
  | @terminal text form words hText tail ih =>
      rw [List.map_cons, symbolOf_of_ne hText]
      exact ih.append_left [.terminal text]
  | @expand body form first second hBody here tail ihHere ihTail =>
      have hStep : (grammarOf name alternatives).Produces ((name :: form).map (symbolOf name))
          (body.map (symbolOf name) ++ form.map (symbolOf name)) := by
        rw [List.map_cons, symbolOf_name]
        exact produces_iff.mpr ⟨body, hBody, [], form.map (symbolOf name), rfl, rfl⟩
      rw [List.map_append]
      exact (hStep.trans_derives (ihHere.append_right _)).trans (ihTail.append_left _)

/-- Words without the name are generated as they stand. -/
theorem generates_terminals (h : form.map (symbolOf name) = words.map .terminal) :
    Generates name (choicesOf alternatives) form words := by
  induction form generalizing words with
  | nil =>
      obtain rfl := List.map_eq_nil_iff.mp h.symm
      exact .done
  | cons text form ih =>
      obtain ⟨word, words, rfl, hWord, hWords⟩ := List.map_eq_cons_iff.mp h.symm
      by_cases hText : text = name
      · rw [hText, symbolOf_name] at hWord
        cases hWord
      · rw [symbolOf_of_ne hText] at hWord
        cases hWord
        exact .terminal hText (ih hWords.symm)

/-- One step of a derivation replaces a name somewhere within the form. -/
theorem exists_form_of_produces {v : List (Symbol String Unit)}
    (h : (grammarOf name alternatives).Produces (form.map (symbolOf name)) v) :
    ∃ body ∈ alternatives, ∃ before after, form = before ++ name :: after ∧
      v = (before ++ (body ++ after)).map (symbolOf name) := by
  obtain ⟨body, hBody, _, _, hForm, rfl⟩ := produces_iff.mp h
  rw [List.append_assoc] at hForm
  obtain ⟨before, rest, rfl, rfl, hRest⟩ := List.map_eq_append_iff.mp hForm
  obtain ⟨text, after, rfl, hText, rfl⟩ := List.map_eq_cons_iff.mp hRest
  refine ⟨body, hBody, before, after, ?_, by simp⟩
  by_cases hName : text = name
  · rw [hName]
  · rw [symbolOf_of_ne hName] at hText
    cases hText

theorem Generates.of_derives {u : List (Symbol String Unit)}
    (h : (grammarOf name alternatives).Derives u (words.map .terminal))
    (hForm : u = form.map (symbolOf name)) :
    Generates name (choicesOf alternatives) form words := by
  induction h using Relation.ReflTransGen.head_induction_on generalizing form with
  | refl => exact generates_terminals hForm.symm
  | head hStep _ ih =>
      rw [hForm] at hStep
      obtain ⟨body, hBody, before, after, rfl, hNext⟩ := exists_form_of_produces hStep
      obtain ⟨firstWords, _, rfl, hFirst, hRest⟩ := (ih hNext).of_append
      obtain ⟨bodyWords, afterWords, rfl, hWords, hAfter⟩ := hRest.of_append
      exact hFirst.append (.expand hBody hWords hAfter)

/-- What a rule generates is the language of its grammar. -/
theorem generated_choicesOf (name : String) (alternatives : List Alternative) :
    generated name (choicesOf alternatives) = (grammarOf name alternatives).language := by
  ext words
  have hName : [Symbol.nonterminal ()] = [name].map (symbolOf name) := by
    rw [List.map_singleton, symbolOf_name]
  rw [ContextFreeGrammar.mem_language_iff]
  constructor
  · intro h
    have hDerives := Generates.derives h
    rwa [← hName] at hDerives
  · intro h
    exact Generates.of_derives h hName

end Grammar

section Unroll

variable {name : String} {alternatives : List Alternative} {alternative tail : Alternative}

theorem startsWith_eq :
    alternative.startsWith name = decide (alternative.head? = some name) :=
  beq_eq_decide ..

theorem startsWith_iff :
    alternative.startsWith name = true ↔ ∃ tail, alternative = name :: tail := by
  rw [Alternative.startsWith, beq_iff_eq, List.head?_eq_some_iff]

theorem mem_bases_iff :
    alternative ∈ (Unrolled.of name alternatives).bases ↔
      alternative ∈ alternatives ∧ alternative.startsWith name = false := by
  simp [Unrolled.of]

theorem mem_tails_iff :
    tail ∈ (Unrolled.of name alternatives).tails ↔ name :: tail ∈ alternatives := by
  simp only [Unrolled.of, List.mem_map, List.mem_filter, startsWith_iff]
  constructor
  · rintro ⟨_, ⟨hMem, rest, rfl⟩, rfl⟩
    exact hMem
  · intro hMem
    exact ⟨name :: tail, ⟨hMem, tail, rfl⟩, rfl⟩

variable (name) in
/-- An alternative is a base, or it is the name with a tail behind it. -/
theorem mem_alternatives_iff :
    alternative ∈ alternatives ↔
      alternative ∈ (Unrolled.of name alternatives).bases ∨
        ∃ tail ∈ (Unrolled.of name alternatives).tails, alternative = name :: tail := by
  rw [mem_bases_iff]
  constructor
  · intro hMem
    cases hStart : alternative.startsWith name with
    | false => exact .inl ⟨hMem, rfl⟩
    | true =>
        obtain ⟨tail, rfl⟩ := startsWith_iff.mp hStart
        exact .inr ⟨tail, mem_tails_iff.mpr hMem, rfl⟩
  · rintro (⟨hMem, -⟩ | ⟨tail, hTail, rfl⟩)
    · exact hMem
    · exact mem_tails_iff.mp hTail

variable {words : List String} {form : Alternative}

/-- A base with tails behind it is generated by the alternatives: the last tail comes from the
outermost use of the rule, and the base from the innermost. -/
theorem generates_name_of_base {base : Alternative} {tails : List Alternative}
    (hBase : base ∈ (Unrolled.of name alternatives).bases)
    (hTails : ∀ tail ∈ tails, tail ∈ (Unrolled.of name alternatives).tails)
    (h : Generates name (choicesOf alternatives) (base ++ tails.flatten) words) :
    Generates name (choicesOf alternatives) [name] words := by
  induction tails using List.reverseRecOn generalizing words with
  | nil =>
      rw [List.flatten_nil, List.append_nil] at h
      exact mem_generated_iff.mpr ⟨base, (mem_bases_iff.mp hBase).1, h⟩
  | append_singleton tails tail ih =>
      rw [List.flatten_append, List.flatten_singleton, ← List.append_assoc] at h
      obtain ⟨firstWords, secondWords, rfl, hFirst, hSecond⟩ := h.of_append
      have hInner : Generates name (choicesOf alternatives) [name] firstWords :=
        ih (fun other hOther => hTails other (by simp [hOther])) hFirst
      have hMem : name :: tail ∈ alternatives := mem_tails_iff.mp (hTails tail (by simp))
      exact mem_generated_iff.mpr ⟨name :: tail, hMem, hInner.append hSecond⟩

theorem Generates.of_unrolled
    (h : Generates name (Unrolled.of name alternatives).bodies form words) :
    Generates name (choicesOf alternatives) form words := by
  induction h with
  | done => exact .done
  | terminal hText tail ih => exact .terminal hText ih
  | expand hBody here tail ihHere ihTail =>
      obtain ⟨base, hBase, star, hStar, rfl⟩ := Language.mem_mul.mp hBody
      obtain ⟨tails, rfl, hTails⟩ := Language.mem_kstar.mp hStar
      exact (generates_name_of_base hBase hTails ihHere).append ihTail

/-- One more tail goes behind the tails that there are. -/
theorem append_mem_bodies {unrolled : Unrolled} {body : Alternative}
    (hBody : body ∈ unrolled.bodies) (hTail : tail ∈ unrolled.tails) : body ++ tail ∈ unrolled.bodies := by
  obtain ⟨base, hBase, star, hStar, rfl⟩ := Language.mem_mul.mp hBody
  obtain ⟨tails, rfl, hTails⟩ := Language.mem_kstar.mp hStar
  rw [List.append_assoc]
  refine Language.append_mem_mul hBase (Language.mem_kstar.mpr ⟨tails ++ [tail], by simp, ?_⟩)
  intro other hOther
  rcases List.mem_append.mp hOther with hEarlier | hLast
  · exact hTails other hEarlier
  · rw [List.mem_singleton.mp hLast]
    exact hTail

theorem Generates.unrolled (h : Generates name (choicesOf alternatives) form words) :
    Generates name (Unrolled.of name alternatives).bodies form words := by
  induction h with
  | done => exact .done
  | terminal hText tail ih => exact .terminal hText ih
  | expand hBody here tail ihHere ihTail =>
      refine Generates.append (mem_generated_iff.mpr ?_) ihTail
      rcases (mem_alternatives_iff name).mp hBody with hBase | ⟨tail, hTail, rfl⟩
      · exact ⟨_, ⟨_, hBase, [], Language.nil_mem_kstar _, List.append_nil _⟩, ihHere⟩
      · -- The leading name has a body of its own by now, and the tail goes behind that.
        rw [← List.singleton_append] at ihHere
        obtain ⟨firstWords, secondWords, rfl, hFirst, hSecond⟩ := ihHere.of_append
        obtain ⟨body, hInner, hWords⟩ := mem_generated_iff.mp hFirst
        exact ⟨body ++ tail, append_mem_bodies hInner hTail, hWords.append hSecond⟩

/-- Bases and tails generate what the alternatives generate. -/
theorem generated_unrolled (name : String) (alternatives : List Alternative) :
    generated name (Unrolled.of name alternatives).bodies =
      generated name (choicesOf alternatives) := by
  ext words
  exact ⟨Generates.of_unrolled, Generates.unrolled⟩

theorem Unrolled.bodies_eq_zero {unrolled : Unrolled} (h : unrolled.bases = []) :
    unrolled.bodies = 0 := by
  rw [bodies, h, choicesOf_nil, zero_mul]

theorem map_cons_tails (name : String) (alternatives : List Alternative) :
    (Unrolled.of name alternatives).tails.map (name :: ·) =
      alternatives.filter (·.startsWith name) := by
  rw [Unrolled.of, List.map_map]
  apply (List.map_congr_left _).trans (List.map_id _)
  intro alternative hMem
  obtain ⟨tail, rfl⟩ := startsWith_iff.mp (List.mem_filter.mp hMem).2
  rfl

end Unroll

section Unrolls

/-- A rule is taken apart into bases and tails and written down with these. What it generates
stays the same. -/
structure Unrolls (name : String) (alternatives : List Alternative) (unrolled : Unrolled) :
    Prop where
  bases : unrolled.bases = alternatives.filter (·.head? ≠ some name)
  tails : unrolled.tails.map (name :: ·) = alternatives.filter (·.head? = some name)
  text : unrolled.text =
    "(" ++ " | ".intercalate (unrolled.bases.map (" ".intercalate ·)) ++ ") (" ++
      " | ".intercalate (unrolled.tails.map (" ".intercalate ·)) ++ ")*"
  language : generated name unrolled.bodies = (grammarOf name alternatives).language
  nothing : unrolled.bases = [] →
    generated name unrolled.bodies = 0 ∧ (grammarOf name alternatives).language = 0

/-- Every rule can be taken apart, whatever its alternatives are. A rule without bases generates
nothing in either form. -/
theorem unrolls (name : String) (alternatives : List Alternative) :
    Unrolls name alternatives (.of name alternatives) := by
  have hSame : generated name (Unrolled.of name alternatives).bodies =
      (grammarOf name alternatives).language := by
    rw [generated_unrolled, generated_choicesOf]
  refine ⟨?_, ?_, rfl, hSame, ?_⟩
  · exact List.filter_congr fun alternative _ => by simp [startsWith_eq]
  · rw [map_cons_tails]
    exact List.filter_congr fun alternative _ => startsWith_eq
  · intro hBases
    have hNothing : generated name (Unrolled.of name alternatives).bodies = 0 := by
      rw [Unrolled.bodies_eq_zero hBases, generated_zero]
    exact ⟨hNothing, hSame ▸ hNothing⟩

/-- The name may be a tail of its own rule. -/
example :
    (Unrolled.of "e" [["e", "'+'", "e"], ["INT"], ["e", "e"], []]).text =
      "(INT | ) ('+' e | e)*" := by
  decide

end Unrolls

end RuleOutline
