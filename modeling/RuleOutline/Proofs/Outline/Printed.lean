import RuleOutline.Proofs.Outline.Written
import RuleOutline.Proofs.Outline.Groups

/-! Written grammars are read again. Each line is tokenized to the words that it was made of, the
walk follows a rule to its semicolon and stops at each marker, and a body is cut where its
alternatives were joined. -/
namespace RuleOutline

open Text

section Choices

theorem bodyOf_cons (choice : Choice) {choices : List Choice} (h : choices ≠ []) :
    bodyOf (choice :: choices) = choice.words ++ .bar :: bodyOf choices := by
  rw [bodyOf, List.map_cons, List.intercalate_cons_of_ne_nil (by simpa using h),
    List.append_assoc]
  rfl

theorem forall_mem_intercalate {α : Type} {p : α → Prop} {bar : List α} (hBar : ∀ x ∈ bar, p x)
    {parts : List (List α)} (h : ∀ part ∈ parts, ∀ x ∈ part, p x) :
    ∀ x ∈ bar.intercalate parts, p x := by
  induction parts with
  | nil => exact List.forall_mem_nil p
  | cons part parts ih =>
      obtain ⟨hPart, hParts⟩ := List.forall_mem_cons.mp h
      by_cases hNil : parts = []
      · subst hNil
        rwa [List.intercalate_singleton]
      · rw [List.intercalate_cons_of_ne_nil hNil]
        apply List.forall_mem_append.mpr ⟨?_, ih hParts⟩
        exact List.forall_mem_append.mpr ⟨hPart, hBar⟩

theorem forall_mem_bodyOf {p : Word → Prop} (hBar : p .bar) {choices : List Choice}
    (h : ∀ choice ∈ choices, ∀ word ∈ choice.words, p word) : ∀ word ∈ bodyOf choices, p word :=
  forall_mem_intercalate (List.forall_mem_singleton.mpr hBar) (List.forall_mem_map.mpr h)

theorem Spells.splitPipes_choice {part : List Token} {choice : Choice}
    (h : Spells part choice.words) :
    Rule.splitPipes 0 part = [part] ∧ ∀ bar rest, bar.kind = .pipe →
      Rule.splitPipes 0 (part ++ bar :: rest) = part :: Rule.splitPipes 0 rest := by
  apply Rule.splitPipes_piece
  · rw [h.kinds, choice.balanced]
  · intro before after hKinds
    rw [h.kinds] at hKinds
    have hIndex := congrArg List.length hKinds
    simp only [List.length_map, List.length_append, List.length_cons] at hIndex
    have hDepth := choice.noBar before.length (by omega) (by simp [hKinds])
    rwa [hKinds, List.take_left] at hDepth

/-- The body is cut at the bars that were written between the alternatives, and nowhere else. -/
theorem Spells.splitPipes_eq {tokens : List Token} {choices : List Choice} (hSome : choices ≠ [])
    (h : Spells tokens (bodyOf choices)) :
    (Rule.splitPipes 0 tokens).map (·.map (·.text)) =
      choices.map fun choice => choice.words.map (·.text) := by
  induction choices generalizing tokens with
  | nil => exact absurd rfl hSome
  | cons choice choices ih =>
      by_cases hNil : choices = []
      · -- Behind the last alternative there is no bar to cut at.
        subst hNil
        have hPart : Spells tokens choice.words := by simpa [bodyOf] using h
        rw [hPart.splitPipes_choice.1, List.map_singleton, List.map_singleton, hPart.texts]
      · rw [bodyOf_cons choice hNil] at h
        obtain ⟨part, later, rfl, hPart, hLater⟩ := h.of_append
        obtain ⟨bar, rest, rfl, hBar, -, hRest⟩ := hLater.of_cons
        rw [hPart.splitPipes_choice.2 bar rest hBar, List.map_cons, List.map_cons, hPart.texts,
          ih hNil hRest]

theorem Spells.forall_bodyOf {tokens : List Token} {choices : List Choice}
    (h : Spells tokens (bodyOf choices)) :
    ∀ token ∈ tokens, token.kind ≠ .semicolon ∧ token.kind.isOpaque = false := by
  apply (h.forall_iff (p := fun kind _ => kind ≠ .semicolon ∧ kind.isOpaque = false)).mpr
  apply forall_mem_bodyOf (p := fun word => word.kind ≠ .semicolon ∧ word.kind.isOpaque = false)
  · decide
  · intro choice _ word hWord
    exact ⟨choice.noSemicolon word hWord, (choice.isClosed word hWord).visible⟩

/-- The alternatives of a rule are the ones that were to be written. -/
theorem Spells.alternativeTexts_eq {rule : Rule} {choices : List Choice}
    (h : Spells rule.body (bodyOf choices))
    (hLast : ∀ choice ∈ choices.getLast?, choice.words ≠ []) :
    rule.alternativeTexts = choices.map fun choice => choice.words.map (·.text) := by
  have hShape : rule.shape = rule.body := by
    apply List.filter_eq_self.mpr
    intro token hToken
    rw [(h.forall_bodyOf token hToken).2]
    rfl
  rw [Rule.alternativeTexts, Rule.alternatives, hShape]
  by_cases hNil : choices = []
  · subst hNil
    rw [h.eq_nil]
    rfl
  · have hTexts := h.splitPipes_eq hNil
    rw [Rule.dropEmptyLast_eq_self, hTexts]
    intro hPiece
    have hEmpty := congrArg List.getLast? hTexts
    rw [List.getLast?_map, List.getLast?_map, hPiece] at hEmpty
    obtain ⟨choice, hChoice, hWords⟩ := Option.map_eq_some_iff.mp hEmpty.symm
    exact hLast choice hChoice (List.map_eq_nil_iff.mp hWords)

end Choices

section Walk

variable {markers : Markers} {index rules : Nat}

/-- The name of the rule opens a candidate, and so does the keyword before it. -/
theorem Draft.exists_heading (draft : Draft) {tokens : List Token} {words : List Word}
    (h : Spells tokens ((if draft.isFragment then [.fragment] else []) ++ draft.name :: words)) :
    ∃ first heading rest, tokens = first :: (heading ++ rest) ∧ Spells rest words ∧
      first.isWord "fragment" = draft.isFragment ∧
      (∀ token ∈ heading, token.kind = .identifier) ∧
      ∀ next after, next.kind ≠ .block →
        candidateName? first (heading ++ next :: after) = some draft.name.text := by
  obtain ⟨keyword, later, rfl, hKeyword, hLater⟩ := h.of_append
  obtain ⟨name, rest, rfl, hName, hText, hRest⟩ := hLater.of_cons
  have hPlain := draft.notKeyword
  rw [draft.isName] at hName
  rw [← hText] at hPlain ⊢
  cases hFlag : draft.isFragment with
  | false =>
      rw [hFlag] at hKeyword
      obtain rfl := hKeyword.eq_nil
      refine ⟨name, [], rest, rfl, hRest, by simp [Token.isWord, hPlain], by simp, ?_⟩
      intro next after hBlock
      simp [candidateName?, hName, hPlain, hBlock]
  | true =>
      rw [hFlag] at hKeyword
      -- The keyword is the first token, which leaves the name for the heading.
      obtain ⟨first, rfl, hFirst, hWord⟩ := hKeyword.of_singleton
      have hFirst : first.kind = .identifier := hFirst
      have hWord : first.text = "fragment" := hWord
      refine ⟨first, [name], rest, rfl, hRest, by simp [Token.isWord, hFirst, hWord],
        by simp [hName], ?_⟩
      intro next after _
      simp [candidateName?, hFirst, hWord, hName]

/-- A walk that comes to a rule follows it to its semicolon and goes on behind it. -/
theorem Walk.draft {draft : Draft} {tokens rest : List Token} {later : Outline}
    (h : Spells tokens (Item.rule draft).words)
    (tail : Walk markers (index + tokens.length) (rules + 1) rest later) :
    ∃ rule, Walk markers index rules (tokens ++ rest) ⟨rule :: later.rules, later.groups⟩ ∧
      draft.Describes rule ∧ rule.index = index ∧ tokens = rule.tokens ++ [rule.semicolon] := by
  rw [Item.words, Item.front, List.append_assoc, List.cons_append] at h
  obtain ⟨first, heading, colonOn, rfl, hColonOn, hKeyword, hHeading, hName⟩ :=
    draft.exists_heading h
  obtain ⟨colon, bodyOn, rfl, hColon, -, hBodyOn⟩ := hColonOn.of_cons
  obtain ⟨body, last, rfl, hBody, hLast⟩ := hBodyOn.of_append
  obtain ⟨semicolon, rfl, hSemicolon, -⟩ := hLast.of_singleton
  have hColon : colon.kind = .colon := hColon
  have hKinds : ∀ token ∈ heading ++ colon :: body,
      token.kind ≠ .semicolon ∧ token.kind ≠ .block := by
    intro token hToken
    rcases List.mem_append.mp hToken with hMem | hMem
    · simp [hHeading token hMem]
    · rcases List.mem_cons.mp hMem with rfl | hMem
      · simp [hColon]
      · obtain ⟨hInside, hVisible⟩ := hBody.forall_bodyOf token hMem
        refine ⟨hInside, ?_⟩
        intro hBlock
        rw [hBlock] at hVisible
        cases hVisible
  have hHere := hName colon (body ++ semicolon :: rest) (by simp [hColon])
  have hPlain : ∀ token ∈ heading, token.kind ≠ .colon := by
    intro token hToken
    simp [hHeading token hToken]
  have hShift : heading ++ colon :: (body ++ semicolon :: rest) =
      heading ++ colon :: body ++ semicolon :: rest := by simp
  have hLength : index + (first :: (heading ++ colon :: (body ++ [semicolon]))).length =
      index + (heading ++ colon :: body).length + 2 := by
    simp
    omega
  rw [hShift] at hHere
  rw [hLength] at tail
  refine ⟨⟨draft.name.text, index, first, heading, colon, body, semicolon, []⟩, ?_, ?_, rfl,
    by simp [Rule.tokens]⟩
  · have hRule := Walk.rule hHere (fun token hToken => (hKinds token hToken).1) hSemicolon hPlain
      hColon tail
    rw [← hShift] at hRule
    simpa using hRule
  · exact ⟨rfl, hKeyword, hBody.alternativeTexts_eq draft.lastSome,
      Rule.actionBlocks_eq_nil fun token hToken => (hKinds token hToken).2⟩

theorem trimEnd_eq_self {text : String}
    (h : ∀ c ∈ text.toList.getLast?, Unicode.isBlank c = false) : Unicode.trimEnd text = text := by
  have hKept : text.toList.reverse.dropWhile Unicode.isBlank = text.toList.reverse := by
    rw [← List.head?_reverse] at h
    cases hReverse : text.toList.reverse with
    | nil => rfl
    | cons c cs =>
        rw [hReverse] at h
        exact List.dropWhile_cons_of_neg (by simp [h c rfl])
  rw [Unicode.trimEnd, hKept, List.reverse_reverse, String.ofList_toList]

theorem Label.read (label : Label) :
    Markers.standard.read ("// $<" ++ label.text) = some (.opening label.text) := by
  have hPrefix : Markers.standard.opening.toList.isPrefixOf ("// $<" ++ label.text).toList := by
    rw [String.toList_append]
    exact List.isPrefixOf_iff_prefix.mpr (List.prefix_append _ _)
  have hDrop : ("// $<" ++ label.text).toList.drop Markers.standard.opening.toList.length =
      label.text.toList := by
    rw [String.toList_append]
    exact List.drop_left
  rw [Markers.read, if_pos hPrefix, hDrop]
  simp only [String.ofList_toList, trimEnd_eq_self label.trimmed]

/-- An item that is no rule is a comment that marks a group. -/
theorem Item.read_of_marker? {item : Item} {marker : Marker} (h : item.marker? = some marker) :
    item.front = [] ∧ item.last.kind = .lineComment ∧
      Markers.standard.read item.last.text = some marker := by
  cases item with
  | rule draft => cases h
  | opening label =>
      cases h
      exact ⟨rfl, rfl, label.read⟩
  | closing =>
      cases h
      exact ⟨rfl, rfl, by decide⟩

variable {before items : List Item}

/-- The tokens of an item that stands after others. -/
def Item.tokensAfter (item : Item) (before : List Item) : List Token :=
  spacedTokens (byteLength (written before).toList) (1 + lineFeeds (written before).toList)
    item.words

theorem Item.stands_of_mem {item : Item} {first last : Token}
    (hFirst : first ∈ (item.tokensAfter before).head?)
    (hLast : last ∈ (item.tokensAfter before).getLast?) :
    item.Stands before (wordsIn before) first.start last.stop first.line := by
  obtain ⟨hStart, hLine⟩ := start_of_mem_head? hFirst
  obtain ⟨front, token, hTokens, hStop⟩ := exists_last_token item.front item.last
  have hSame : item.tokensAfter before = front ++ [token] := hTokens
  rw [hSame, List.getLast?_concat] at hLast
  obtain rfl := Option.some.inj hLast
  exact ⟨rfl, hStart, hStop.trans (by rw [hStart]; rfl), hLine⟩

/-- A walk that has the tokens of some items behind it finds the items that follow. -/
def Finds (before items : List Item) (tokens : List Token) : Prop :=
  ∃ outline, Walk .standard (wordsIn before) (rulesIn before) tokens outline ∧
    Recovered before items outline.rules outline.groups

variable {later : List Token}

theorem finds_nil (before : List Item) : Finds before [] [] :=
  ⟨_, .done _ _, .nil before⟩

theorem wordsIn_append (before : List Item) (item : Item) :
    wordsIn (before ++ [item]) = wordsIn before + item.words.length := by
  simp [wordsIn]

theorem Finds.rule {draft : Draft} (h : Finds (before ++ [.rule draft]) items later) :
    Finds before (.rule draft :: items) ((Item.rule draft).tokensAfter before ++ later) := by
  obtain ⟨outline, hWalk, hLater⟩ := h
  have hSpells : Spells ((Item.rule draft).tokensAfter before) (Item.rule draft).words :=
    spells_spacedTokens _
  have hRules : rulesIn (before ++ [.rule draft]) = rulesIn before + 1 := by
    simp [rulesIn, Item.marker?]
  rw [wordsIn_append, hRules, ← hSpells.length_eq] at hWalk
  obtain ⟨rule, hHere, hRead, hIndex, hTokens⟩ := hWalk.draft hSpells
  refine ⟨_, hHere, .rule hRead ?_ hLater⟩
  rw [hIndex]
  apply Item.stands_of_mem
  · rw [hTokens]
    rfl
  · rw [hTokens]
    simp

theorem Finds.group {item : Item} {marker : Marker} (hMarker : item.marker? = some marker)
    (h : Finds (before ++ [item]) items later) :
    Finds before (item :: items) (item.tokensAfter before ++ later) := by
  obtain ⟨outline, hWalk, hLater⟩ := h
  obtain ⟨hFront, hKind, hRead⟩ := Item.read_of_marker? hMarker
  have hWords : item.words = [item.last] := by rw [Item.words, hFront, List.nil_append]
  have hRules : rulesIn (before ++ [item]) = rulesIn before := by
    simp [rulesIn, hMarker]
  rw [wordsIn_append, hRules, hWords] at hWalk
  have hSpells : Spells (item.tokensAfter before) item.words := spells_spacedTokens _
  rw [hWords] at hSpells
  obtain ⟨comment, hTokens, hComment, hText⟩ := hSpells.of_singleton
  rw [hKind] at hComment
  have hName : candidateName? comment later = none := by simp [candidateName?, hComment]
  have hGroup : groupAt? .standard (wordsIn before) (rulesIn before) comment =
      some ⟨marker, lastOf (rulesIn before), wordsIn before, comment⟩ :=
    groupAt?_eq_some_iff.mpr ⟨hComment, by rw [hText, hRead], rfl, rfl, rfl⟩
  have hHere := Walk.pass hName hWalk
  rw [hGroup] at hHere
  rw [hTokens]
  refine ⟨_, hHere, .group hMarker rfl ⟨hComment, ?_⟩ ?_ hLater⟩
  · rw [hText, Item.line, hWords]
    rfl
  · apply Item.stands_of_mem
    · rw [hTokens]
      rfl
    · rw [hTokens]
      rfl

/-- The walk goes on from item to item. -/
theorem Finds.cons {item : Item} (h : Finds (before ++ [item]) items later) :
    Finds before (item :: items) (item.tokensAfter before ++ later) := by
  cases item with
  | rule draft => exact h.rule
  | opening label => exact h.group rfl
  | closing => exact h.group rfl

end Walk

section Text

theorem Item.isClosed_of_mem_front {item : Item} : ∀ word ∈ item.front, word.IsClosed := by
  cases item with
  | opening => simp [front]
  | closing => simp [front]
  | rule draft =>
      intro word hWord
      rcases List.mem_append.mp hWord with hKeyword | hOn
      · have hSame : word = .fragment := by
          cases hFlag : draft.isFragment <;> simp_all
        rw [hSame]
        exact Word.isClosed_of_kind rfl (by decide)
      · rcases List.mem_cons.mp hOn with rfl | hOn
        · apply Word.isClosed_of_kind <;> simp [draft.isName, Kind.isOpaque, Kind.isComment]
        · rcases List.mem_cons.mp hOn with rfl | hBody
          · exact Word.isClosed_of_kind rfl (by decide)
          · have hBar : Word.IsClosed .bar := Word.isClosed_of_kind rfl (by decide)
            exact forall_mem_bodyOf hBar (fun choice _ => choice.isClosed) word hBody

/-- At the end of its line an item ends. -/
theorem Item.lexeme_last (item : Item) {after : List Char} (hAfter : ∀ c ∈ after.head?, c = '\n') :
    Lexeme item.last.kind item.last.text.toList after := by
  have hBreak : ∀ c ∈ after.head?, isBreak c = true := by
    intro c hc
    rw [hAfter c hc]
    rfl
  cases item with
  | rule draft =>
      have hMark : (';', .semicolon) ∈ marks := by decide
      have hText : Item.last (.rule draft) = .semicolon ∧ Word.semicolon.text.toList = [';'] :=
        ⟨rfl, by decide⟩
      rw [hText.1, hText.2]
      exact .mark after hMark
  | opening label => exact label.lexeme hBreak
  | closing =>
      have hBody : ∀ c ∈ [' ', '$', '>'], isBreak c = false := by simp [isBreak]
      exact .lineComment (.intro hBody hBreak)

/-- The text is read as the items, where it stands behind others. -/
def ReadsAs (before items : List Item) (text : List Char) : Prop :=
  ∃ tokens,
    Tokenized (byteLength (written before).toList) (1 + lineFeeds (written before).toList) text
      tokens ∧
    Spells tokens (items.flatMap (·.words)) ∧ Finds before items tokens

variable {before items : List Item}

theorem toList_written_cons (item : Item) (items : List Item) :
    (written (item :: items)).toList = item.line.toList ++ '\n' :: (written items).toList := by
  simp [written]

theorem toList_written_append (before : List Item) (item : Item) :
    (written (before ++ [item])).toList =
      (written before).toList ++ item.line.toList ++ ['\n'] := by
  simp [written]

/-- The line of an item is read first, if the rest is read from its end on. -/
theorem readsAs_line (item : Item) {after : List Char} {later : List Token}
    (hAfter : ∀ c ∈ after.head?, c = '\n')
    (hTokens : Tokenized (byteLength (written before).toList + byteLength item.line.toList)
      (1 + lineFeeds (written before).toList + lineFeeds item.line.toList) after later)
    (hSpells : Spells later (items.flatMap (·.words)))
    (hFinds : Finds (before ++ [item]) items later) :
    ReadsAs before (item :: items) (item.line.toList ++ after) := by
  refine ⟨item.tokensAfter before ++ later, ?_, ?_, hFinds.cons⟩
  · exact tokenized_spaced Item.isClosed_of_mem_front (item.lexeme_last hAfter) hTokens
  · rw [List.flatMap_cons]
    exact (spells_spacedTokens item.words).append hSpells

theorem ReadsAs.cons {text : List Char} (item : Item) (h : ReadsAs (before ++ [item]) items text) :
    ReadsAs before (item :: items) (item.line.toList ++ '\n' :: text) := by
  obtain ⟨tokens, hTokens, hSpells, hFinds⟩ := h
  rw [toList_written_append] at hTokens
  apply readsAs_line item (by simp) _ hSpells hFinds
  apply Tokenized.skip rfl
  simpa [Nat.add_assoc] using hTokens

theorem readsAs_nil (before : List Item) : ReadsAs before [] [] :=
  ⟨[], .nil _ _, rfl, finds_nil before⟩

theorem readsAs_singleton (item : Item) : ReadsAs before [item] item.line.toList := by
  obtain ⟨tokens, hTokens, hSpells, hFinds⟩ := readsAs_nil (before ++ [item])
  obtain rfl := hSpells.eq_nil
  have hLine := readsAs_line item (by simp) (.nil _ _) hSpells hFinds
  rwa [List.append_nil] at hLine

theorem readsAs_written (before items : List Item) :
    ReadsAs before items (written items).toList := by
  induction items generalizing before with
  | nil => exact readsAs_nil before
  | cons item items ih =>
      rw [toList_written_cons]
      exact (ih (before ++ [item])).cons item

theorem readsAs_joined (before items : List Item) :
    ReadsAs before items ("\n".intercalate (items.map (·.line))).toList := by
  induction items generalizing before with
  | nil => exact readsAs_nil before
  | cons item items ih =>
      by_cases hNil : items = []
      · -- The last line has no end of its own, so nothing stands between it and the end of the text.
        subst hNil
        exact readsAs_singleton item
      · rw [List.map_cons, String.intercalate_cons_of_ne_nil (by simpa using hNil),
          String.toList_append, String.toList_append, List.append_assoc]
        exact (ih (before ++ [item])).cons item

end Text

theorem ReadsAs.recovers {items : List Item} {source : String}
    (h : ReadsAs [] items source.toList) : Recovers items source := by
  obtain ⟨tokens, hTokens, hSpells, outline, hWalk, hAll⟩ := h
  obtain rfl : tokens = tokenize source := hTokens.eq_tokensFrom
  obtain rfl : outline = outlineOf .standard (tokenize source) := hWalk.eq_outlineFrom
  exact ⟨hSpells, hAll⟩

/-- What is written is read again as it was, rule for rule and group for group, whether or not the
last line is ended as the others are. -/
theorem written_recovered (items : List Item) :
    Recovers items (written items) ∧ Recovers items ("\n".intercalate (items.map (·.line))) :=
  ⟨(readsAs_written [] items).recovers, (readsAs_joined [] items).recovers⟩

/-- An alternative may be empty, and words that begin or part rules may be among its words. -/
example :
    written [
      .opening ⟨"g", by simp [isBreak], by simp; decide⟩,
      .rule ⟨true, ⟨.identifier, "a", ⟨.identifier, "a", 0, 1, 1⟩, by decide +kernel, rfl, rfl⟩,
        [⟨[], by simp, by simp, rfl, by simp⟩,
          ⟨[.fragment, .colon],
            List.forall_mem_cons.mpr ⟨Word.isClosed_of_kind rfl (by decide),
              List.forall_mem_singleton.mpr (Word.isClosed_of_kind rfl (by decide))⟩,
            by decide, rfl, by decide⟩],
        rfl, by decide, by simp [Word.fragment]⟩,
      .closing] = "// $<g\nfragment a : | fragment : ;\n// $>\n" := by
  decide +kernel

end RuleOutline
