import Mathlib.Data.Set.List
import RuleOutline.Command
import RuleOutline.Proofs.Token.Part
import RuleOutline.Proofs.Outline.Rewrite
import RuleOutline.Proofs.Outline.Unrolled

/-! Rules without left recursion, read again. What is printed for a rule is a rule of the same name
with one alternative, which is not left recursive. -/
namespace RuleOutline

/-- The words between which the bases and tails are written. -/
def Unrolled.words (unrolled : Unrolled) : Alternative :=
  ["("] ++ ["|"].intercalate unrolled.bases ++ [")", "("] ++ ["|"].intercalate unrolled.tails ++
    [")", "*"]

/-- The rule has that name and those bases and tails, and no left recursion. -/
structure IsUnrolled (name : String) (unrolled : Unrolled) (rule : Rule) : Prop where
  name_eq : rule.name = name
  alternatives : rule.alternativeTexts = [unrolled.words]
  notRecursive : rule.isLeftRecursive = false

section Read

variable {index rules : Nat} {tokens : List Token} {rewrites : List Rewrite}

theorem Rewrite.isUnrolled {rewrite : Rewrite} {rule : Rule} (h : rewrite.draft.Describes rule) :
    IsUnrolled rewrite.name.text rewrite.unrolled rule := by
  have hTexts : rule.alternativeTexts = [rewrite.unrolled.words] := by
    rw [h.alternatives, draft, List.map_singleton, choice, rewrite.texts_words]
    simp [Unrolled.words]
  refine ⟨h.name, hTexts, ?_⟩
  have hParen : rewrite.name.text ≠ "(" := by
    intro hText
    have hKind : rewrite.name.kind = Word.openParen.kind := Word.kind_eq hText
    rw [rewrite.isName] at hKind
    cases hKind
  have hName : rule.name = rewrite.name.text := h.name
  rw [Rule.isLeftRecursive, isLeftRecursive, hTexts, hName]
  simpa [Alternative.startsWith, Unrolled.words] using hParen.symm

/-- A walk over the words of several rules finds one after the other. -/
theorem walk_rewrites (markers : Markers)
    (h : Spells tokens (rewrites.flatMap fun rewrite => (Item.rule rewrite.draft).words)) :
    ∃ found, Walk markers index rules tokens ⟨found, []⟩ ∧
      List.Forall₂ (fun rewrite rule => IsUnrolled rewrite.name.text rewrite.unrolled rule)
        rewrites found := by
  induction rewrites generalizing index rules tokens with
  | nil =>
      obtain rfl := h.eq_nil
      exact ⟨[], .done _ _, .nil⟩
  | cons rewrite rewrites ih =>
      rw [List.flatMap_cons] at h
      obtain ⟨here, later, rfl, hHere, hLater⟩ := h.of_append
      obtain ⟨found, hWalk, hFound⟩ := @ih (index + here.length) (rules + 1) later hLater
      obtain ⟨rule, hRule, hRead, -⟩ := hWalk.draft hHere
      exact ⟨rule :: found, hRule, .cons (Rewrite.isUnrolled hRead) hFound⟩

/-- Rules as they are written, each on a line of its own. -/
def linesOfRewrites (rewrites : List Rewrite) : String :=
  String.join (rewrites.map fun rewrite => rewrite.line ++ "\n")

theorem lays_linesOfRewrites (rewrites : List Rewrite) :
    Lays (rewrites.flatMap fun rewrite => (Item.rule rewrite.draft).words)
      (linesOfRewrites rewrites).toList [] := by
  induction rewrites with
  | nil => exact lays_nil []
  | cons rewrite rewrites ih =>
      have hText : (linesOfRewrites (rewrite :: rewrites)).toList =
          rewrite.line.toList ++ (['\n'] ++ (linesOfRewrites rewrites).toList) := by
        simp [linesOfRewrites]
      rw [List.flatMap_cons, hText]
      exact (rewrite.lays_line _).append ((lays_skip rfl _).append ih)

/-- The outline of the lines is these rules and nothing else. -/
theorem outlineOf_linesOfRewrites (markers : Markers) (rewrites : List Rewrite) :
    ∃ found, outlineOf markers (tokenize (linesOfRewrites rewrites)) = ⟨found, []⟩ ∧
      List.Forall₂ (fun rewrite rule => IsUnrolled rewrite.name.text rewrite.unrolled rule)
        rewrites found := by
  obtain ⟨found, hWalk, hFound⟩ := walk_rewrites markers
    (spells_tokenize (lays_linesOfRewrites rewrites))
  exact ⟨found, hWalk.eq_outlineFrom.symm, hFound⟩

theorem Rewrite.outlineOf_line (rewrite : Rewrite) (markers : Markers) :
    ∃ rule, outlineOf markers (tokenize rewrite.line) = ⟨[rule], []⟩ ∧
      IsUnrolled rewrite.name.text rewrite.unrolled rule := by
  have hSpells := spells_tokenize (rewrite.lays_line [])
  have hOne : [rewrite].flatMap (fun rewrite => (Item.rule rewrite.draft).words) =
      (Item.rule rewrite.draft).words := List.flatMap_singleton ..
  rw [← hOne] at hSpells
  obtain ⟨found, hWalk, hFound⟩ := walk_rewrites markers hSpells
  obtain ⟨rule, rest, hRule, hRest, rfl⟩ := List.forall₂_cons_left_iff.mp hFound
  obtain rfl := List.forall₂_nil_left_iff.mp hRest
  exact ⟨rule, hWalk.eq_outlineFrom.symm, hRule⟩

end Read

/-- The text of a literal up to and with the quote that closes it. -/
def IsQuoted (text : String) : Prop :=
  ∃ quote body, QuotedBody quote body ∧ text.toList = quote :: (body ++ [quote])

/-- The body of the rule can be put between parentheses, and its name before a colon: the name is
no keyword, parentheses match, and no literal goes on to the end of its line. -/
structure Rule.IsRegular (rule : Rule) : Prop where
  notKeyword : rule.name ≠ "fragment"
  nested : Nested 0 (rule.body.map (·.kind))
  quoted : ∀ token ∈ rule.body, token.kind = .literal → IsQuoted token.text

section Phrase

variable {source : String} {tokens : List Token} {words : List Word}

/-- A token of a source as a word. -/
def Word.ofToken {token : Token} (h : token ∈ tokenize source) : Word where
  kind := token.kind
  text := token.text
  alone := ⟨_, tokenize_text h, rfl, rfl⟩

theorem exists_spells (h : tokens ⊆ tokenize source) : ∃ words, Spells tokens words := by
  induction tokens with
  | nil => exact ⟨[], rfl⟩
  | cons token tokens ih =>
      obtain ⟨hToken, hTokens⟩ := List.cons_subset.mp h
      obtain ⟨words, hWords⟩ := ih hTokens
      exact ⟨.ofToken hToken :: words, congrArg (_ :: ·) hWords⟩

/-- A token that may stand in an alternative between parentheses. -/
structure Token.IsPlain (token : Token) : Prop where
  visible : token.kind.isOpaque = false
  inside : token.kind ≠ .semicolon
  quoted : token.kind = .literal → IsQuoted token.text

/-- Tokens are a phrase if their parentheses match. -/
theorem exists_phrase (hTokens : tokens ⊆ tokenize source)
    (hPlain : ∀ token ∈ tokens, token.IsPlain) (hNested : Nested 0 (tokens.map (·.kind))) :
    ∃ phrase : Phrase, phrase.texts = tokens.map (·.text) := by
  obtain ⟨words, hWords⟩ := exists_spells hTokens
  have hAsked : ∀ word ∈ words, word.kind.isOpaque = false ∧ word.kind ≠ .semicolon ∧
      (word.kind = .literal → IsQuoted word.text) := by
    apply (hWords.forall_iff (p := fun kind text => kind.isOpaque = false ∧ kind ≠ .semicolon ∧
      (kind = .literal → IsQuoted text))).mp
    intro token hToken
    obtain ⟨hVisible, hInside, hQuoted⟩ := hPlain token hToken
    exact ⟨hVisible, hInside, hQuoted⟩
  have hToken : ∀ word ∈ words, word.IsClosed ∧ word.kind ≠ .semicolon := by
    intro word hWord
    obtain ⟨hVisible, hInside, hQuoted⟩ := hAsked word hWord
    exact ⟨⟨hVisible, hQuoted⟩, hInside⟩
  rw [hWords.kinds] at hNested
  exact ⟨⟨words, fun word hWord => (hToken word hWord).1, fun word hWord => (hToken word hWord).2,
    hNested⟩, hWords.texts.symm⟩

end Phrase

section Rule

variable {markers : Markers} {tokens : List Token} {source : String} {rule : Rule}

theorem Opens.kindAt?_nameIndex {i : Nat} (h : Opens tokens i) :
    kindAt? tokens (nameIndex tokens i) = some .identifier := by
  unfold nameIndex
  split
  next hWord => exact h.fragment hWord
  next => exact h.name

/-- A rule is named by a word. -/
theorem exists_name_token (hRule : rule ∈ (outlineOf markers tokens).rules) :
    ∃ token ∈ tokens, token.kind = .identifier ∧ token.text = rule.name := by
  have hFound : IsRule tokens rule.index rule.stopIndex rule.name :=
    ((outlineOf_rules_found markers tokens).found _ _ _).mp ⟨rule, hRule, rfl, rfl, rfl⟩
  have hKind := hFound.candidate.opens.kindAt?_nameIndex
  obtain ⟨token, hToken, hText⟩ := Option.map_eq_some_iff.mp hFound.name
  rw [kindAt?, hToken, Option.map_some, Option.some.injEq] at hKind
  exact ⟨token, List.mem_of_getElem? hToken, hKind, hText⟩

theorem body_subset (hRule : rule ∈ (outlineOf markers tokens).rules) :
    rule.body ⊆ tokens ∧ ∀ token ∈ rule.body, token.kind ≠ .semicolon := by
  obtain ⟨before, after, hTokens, -, -, hInside⟩ :=
    (walk_outlineOf markers tokens).exists_split rule hRule
  have hBody : rule.body ⊆ rule.tokens := by
    intro token hToken
    simp [Rule.tokens, hToken]
  refine ⟨?_, fun token hToken => hInside token (hBody hToken)⟩
  intro token hToken
  rw [hTokens]
  simp [hBody hToken]

theorem alternative_subset {alternative : List Token}
    (hRule : rule ∈ (outlineOf markers tokens).rules)
    (hAlternative : alternative ∈ rule.alternatives) : alternative ⊆ tokens := by
  intro token hToken
  exact (body_subset hRule).1 (Rule.mem_body_of_mem_alternative hAlternative hToken).1

/-- What is asked of a body holds of each alternative. -/
theorem Rule.IsRegular.alternative (hRegular : rule.IsRegular)
    (hRule : rule ∈ (outlineOf markers (tokenize source)).rules) :
    ∀ alternative ∈ rule.alternatives, alternative ⊆ tokenize source ∧
      (∀ token ∈ alternative, token.IsPlain) ∧ Nested 0 (alternative.map (·.kind)) := by
  intro alternative hAlternative
  have hInside := (body_subset hRule).2
  have hPiece := Rule.dropEmptyLast_subset _ hAlternative
  have hBody : ∀ token ∈ alternative, token ∈ rule.body ∧ token.kind.isOpaque = false :=
    fun _ => Rule.mem_body_of_mem_alternative hAlternative
  refine ⟨alternative_subset hRule hAlternative, ?_, ?_⟩
  · intro token hToken
    obtain ⟨hMem, hVisible⟩ := hBody token hToken
    exact ⟨hVisible, hInside token hMem, hRegular.quoted token hMem⟩
  · obtain ⟨piece, pieces, hSplit, hFirst, hOthers⟩ := hRegular.nested.filter_visible.splitPipes
    rw [Rule.shape, hSplit] at hPiece
    rcases List.mem_cons.mp hPiece with rfl | hOther
    · exact hFirst
    · exact hOthers alternative hOther

theorem Rule.IsRegular.exists_base (hRegular : rule.IsRegular)
    (hRule : rule ∈ (outlineOf markers (tokenize source)).rules) :
    ∀ base ∈ rule.groups.bases, ∃ phrase : Phrase, phrase.texts = base := by
  intro base hBase
  obtain ⟨alternative, hAlternative, rfl⟩ := List.mem_map.mp (List.mem_of_mem_filter hBase)
  obtain ⟨hTokens, hPlain, hNested⟩ := hRegular.alternative hRule alternative hAlternative
  exact exists_phrase hTokens hPlain hNested

theorem Rule.IsRegular.exists_tail (hRegular : rule.IsRegular)
    (hRule : rule ∈ (outlineOf markers (tokenize source)).rules) :
    ∀ tail ∈ rule.groups.tails, ∃ phrase : Phrase, phrase.texts = tail := by
  intro tail hTail
  obtain ⟨texts, hTexts, rfl⟩ := List.mem_map.mp hTail
  obtain ⟨hMem, hStarts⟩ := List.mem_filter.mp hTexts
  obtain ⟨alternative, hAlternative, rfl⟩ := List.mem_map.mp hMem
  obtain ⟨hTokens, hPlain, hNested⟩ := hRegular.alternative hRule alternative hAlternative
  cases alternative with
  | nil => cases hStarts
  | cons first rest =>
      -- The token that is left out is the name again, which opens and closes nothing.
      obtain ⟨name, hName, hKind, hText⟩ := exists_name_token hRule
      obtain ⟨hFirst, hRest⟩ := List.cons_subset.mp hTokens
      have hSame : first.text = name.text := by
        rw [hText]
        simpa [Alternative.startsWith] using hStarts
      have hIdentifier : first.kind = .identifier :=
        ((tokenize_separable source).kind name hName source first hFirst hSame).trans hKind
      rw [List.map_cons, nested_cons, hIdentifier] at hNested
      exact exists_phrase hRest (List.forall_mem_cons.mp hPlain).2 hNested.2

/-- What a rule is without its left recursion can be written down. -/
theorem Rule.IsRegular.exists_rewrite (hRegular : rule.IsRegular)
    (hRule : rule ∈ (outlineOf markers (tokenize source)).rules) :
    ∃ rewrite : Rewrite, rewrite.name.text = rule.name ∧ rewrite.unrolled = rule.groups := by
  obtain ⟨name, hName, hKind, hText⟩ := exists_name_token hRule
  have hBases : rule.groups.bases ∈ Set.range (List.map Phrase.texts) := by
    rw [Set.range_list_map]
    exact hRegular.exists_base hRule
  have hTails : rule.groups.tails ∈ Set.range (List.map Phrase.texts) := by
    rw [Set.range_list_map]
    exact hRegular.exists_tail hRule
  obtain ⟨bases, hBases⟩ := hBases
  obtain ⟨tails, hTails⟩ := hTails
  have hKeyword : name.text ≠ "fragment" := by
    rw [hText]
    exact hRegular.notKeyword
  refine ⟨⟨.ofToken hName, bases, tails, hKind, hKeyword⟩, hText, ?_⟩
  rw [Rewrite.unrolled, hBases, hTails]

end Rule

/-- What the rule is without its left recursion is the one rule of a text of its own, whatever
marks groups there. -/
def Rule.IsReread (markers : Markers) (rule : Rule) : Prop :=
  ∃ reread, outlineOf markers (tokenize s!"{rule.name} : {rule.unrolled} ;") = ⟨[reread], []⟩ ∧
    IsUnrolled rule.name rule.groups reread

/-- The command that prints rules without their left recursion prints nothing about what it has
printed about the source. -/
def IsSettled (source : String) : Prop :=
  ∀ (files : Files) (path : String), files.readText path = .ok source →
    ∃ output, (Request.leftRecursion path).answer files = .ok output ∧
      ∀ (later : Files) (other : String), later.readText other = .ok output →
        (Request.leftRecursion other).answer later = .ok ""

section Command

variable {markers : Markers} {source : String} {rule : Rule}

theorem Rewrite.line_eq {rewrite : Rewrite} (hName : rewrite.name.text = rule.name)
    (hGroups : rewrite.unrolled = rule.groups) :
    rewrite.line = s!"{rule.name} : {rule.unrolled} ;" := by
  rw [line, hName, hGroups]
  rfl

theorem Rule.IsRegular.isReread (hRegular : rule.IsRegular)
    (hRule : rule ∈ (outlineOf markers (tokenize source)).rules) (reader : Markers) :
    rule.IsReread reader := by
  obtain ⟨rewrite, hName, hGroups⟩ := hRegular.exists_rewrite hRule
  obtain ⟨reread, hOutline, hReread⟩ := rewrite.outlineOf_line reader
  rw [Rewrite.line_eq hName hGroups] at hOutline
  rw [hName, hGroups] at hReread
  exact ⟨reread, hOutline, hReread⟩

/-- What is printed about a source are rules that can be written down. -/
theorem exists_rewrites
    (h : ∀ rule ∈ (outlineOf markers (tokenize source)).leftRecursiveRules, rule.IsRegular) :
    ∃ rewrites, leftRecursionListing (outlineOf markers (tokenize source)) =
      linesOfRewrites rewrites := by
  have hLines : (outlineOf markers (tokenize source)).leftRecursiveRules.map
        (fun rule => s!"{rule.name} : {rule.unrolled} ;\n") ∈
      Set.range (List.map fun rewrite : Rewrite => rewrite.line ++ "\n") := by
    rw [Set.range_list_map]
    intro text hText
    obtain ⟨rule, hRule, rfl⟩ := List.mem_map.mp hText
    obtain ⟨rewrite, hName, hGroups⟩ :=
      (h rule hRule).exists_rewrite (List.mem_of_mem_filter hRule)
    have hLine := Rewrite.line_eq hName hGroups
    exact ⟨rewrite, by simp [hLine, toString, String.append_assoc]⟩
  obtain ⟨rewrites, hRewrites⟩ := hLines
  exact ⟨rewrites, congrArg String.join hRewrites.symm⟩

theorem leftRecursiveRules_linesOfRewrites (markers : Markers) (rewrites : List Rewrite) :
    (outlineOf markers (tokenize (linesOfRewrites rewrites))).leftRecursiveRules = [] := by
  obtain ⟨found, hOutline, hFound⟩ := outlineOf_linesOfRewrites markers rewrites
  rw [hOutline]
  apply List.filter_eq_nil_iff.mpr
  intro rule hRule
  obtain ⟨i, hIndex, rfl⟩ := List.getElem_of_mem hRule
  have hRead := hFound.get (hFound.length_eq.symm ▸ hIndex) hIndex
  exact Bool.eq_false_iff.mp hRead.notRecursive

theorem answer_leftRecursion {files : Files} {path : String}
    (h : files.readText path = .ok source) :
    (Request.leftRecursion path).answer files =
      .ok (leftRecursionListing (outlineOf .standard (tokenize source))) := by
  rw [Request.answer, readDocument, h]
  rfl

theorem isSettled
    (h : ∀ rule ∈ (outlineOf .standard (tokenize source)).leftRecursiveRules, rule.IsRegular) :
    IsSettled source := by
  intro files path hRead
  obtain ⟨rewrites, hListing⟩ := exists_rewrites h
  refine ⟨_, answer_leftRecursion hRead, ?_⟩
  intro later other hLater
  rw [answer_leftRecursion hLater, hListing, leftRecursionListing,
    leftRecursiveRules_linesOfRewrites]
  rfl

/-- Every regular rule of every source, without its left recursion, is read again as it was meant,
so that nothing is left to be printed about it. -/
theorem unrolled_reread (markers reader : Markers) (source : String) :
    (∀ rule ∈ (outlineOf markers (tokenize source)).rules, rule.IsRegular →
      rule.IsReread reader) ∧
    ((∀ rule ∈ (outlineOf .standard (tokenize source)).leftRecursiveRules, rule.IsRegular) →
      IsSettled source) :=
  ⟨fun _ hRule hRegular => hRegular.isReread hRule reader, isSettled⟩

theorem unrolled_reread_quoted :
    ∃ rule ∈ (outlineOf .standard (tokenize "e : e '+;' (e | e) | INT ;")).rules,
      rule.IsRegular ∧ rule.IsReread .standard ∧ IsSettled "e : e '+;' (e | e) | INT ;" := by
  have hFacts : (outlineOf .standard (tokenize "e : e '+;' (e | e) | INT ;")).rules.map
      (fun rule => (rule.name, rule.body.map fun token => (token.kind, token.text))) =
        [("e", [(.identifier, "e"), (.literal, "'+;'"), (.openParen, "("), (.identifier, "e"),
          (.pipe, "|"), (.identifier, "e"), (.closeParen, ")"), (.pipe, "|"),
          (.identifier, "INT")])] := by
    decide +kernel
  obtain ⟨rule, rest, hRules, hRule, hRest⟩ := List.map_eq_cons_iff.mp hFacts
  obtain rfl := List.map_eq_nil_iff.mp hRest
  obtain ⟨hName, hBody⟩ := Prod.mk.inj hRule
  have hRegular : rule.IsRegular := by
    refine ⟨by rw [hName]; decide, ?_, ?_⟩
    · have hKinds := congrArg (List.map Prod.fst) hBody
      rw [List.map_map] at hKinds
      rw [show rule.body.map (·.kind) = _ from hKinds]
      simp [nested_cons, nested_nil, depthOf]
    · intro token hToken hLiteral
      have hMem := List.mem_map_of_mem (f := fun token => (token.kind, token.text)) hToken
      rw [hBody, hLiteral] at hMem
      obtain hText : token.text = "'+;'" := by simpa using hMem
      rw [hText]
      exact ⟨'\'', ['+', ';'], .plain (by decide) (by decide) (by decide)
        (.plain (by decide) (by decide) (by decide) .nil), rfl⟩
  have hMem : rule ∈ (outlineOf .standard (tokenize "e : e '+;' (e | e) | INT ;")).rules := by
    rw [hRules]
    exact List.mem_singleton_self rule
  have hAll := unrolled_reread .standard .standard "e : e '+;' (e | e) | INT ;"
  refine ⟨rule, hMem, hRegular, hAll.1 rule hMem hRegular, hAll.2 ?_⟩
  intro other hOther
  have hSame := List.mem_of_mem_filter hOther
  rw [hRules, List.mem_singleton] at hSame
  rwa [hSame]

end Command

end RuleOutline
