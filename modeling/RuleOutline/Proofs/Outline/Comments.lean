import Mathlib.Data.List.Chain
import RuleOutline.Proofs.Outline.Semicolon
import RuleOutline.Proofs.Outline.Alternatives

/-! Comments and rules. A comment is no part of a rule, but it keeps its neighbours apart: a word
that goes by the very next token does not see past it. Everywhere else comments can be taken away
and the rules stay what they were. -/
namespace RuleOutline

/-- What there is to a rule besides its place. -/
structure Content where
  name : String
  alternatives : List Alternative
  blocks : List String
  isLeftRecursive : Bool
  unrolled : String
  deriving DecidableEq

def Rule.content (rule : Rule) : Content :=
  ⟨rule.name, rule.alternativeTexts, rule.blocks.map (·.text), rule.isLeftRecursive, rule.unrolled⟩

/-- The rules found among tokens, in order. -/
def contents (markers : Markers) (tokens : List Token) : List Content :=
  (outlineOf markers tokens).rules.map (·.content)

section Contents

variable {markers : Markers} {index rules : Nat}

/-- What there is to a rule does not depend on where it stands. -/
theorem Rule.content_move {place : Token → Token} (hKind : ∀ token, (place token).kind = token.kind)
    (hText : ∀ token, (place token).text = token.text) (count : Nat) (rule : Rule) :
    (rule.move place count).content = rule.content := by
  have hShape : (rule.move place count).shape = rule.shape.map place := by
    simp [shape, move, List.filter_map, Function.comp_def, hKind]
  have hAlternatives : (rule.move place count).alternativeTexts = rule.alternativeTexts := by
    rw [alternativeTexts, alternatives, hShape, splitPipes_map hKind, dropEmptyLast_map,
      List.map_map]
    simp [alternativeTexts, alternatives, Function.comp_def, hText]
  have hBlocks : (rule.move place count).blocks = rule.blocks.map place := by
    rw [blocks, blocks, ← actionBlocks_map hKind hText, List.map_append, List.map_cons]
    rfl
  simp only [content, isLeftRecursive, unrolled, hAlternatives, hBlocks, List.map_map]
  simp [move, Function.comp_def, hText]

/-- The contents are the same from any index on and after any number of rules. -/
theorem Walk.contents_eq {tokens : List Token} {outline : Outline}
    (h : Walk markers index rules tokens outline) :
    contents markers tokens = outline.rules.map (·.content) := by
  have hKind : ∀ token : Token, (id token).kind = token.kind := fun _ => rfl
  have hMove := (walk_outlineOf markers tokens).move hKind (fun _ _ _ => rfl) index rules
  rw [Nat.zero_add, Nat.zero_add, List.map_id] at hMove
  rw [h.eq_outlineFrom, ← hMove.eq_outlineFrom, contents, Outline.move, List.map_map]
  simp [Function.comp_def, Rule.content_move hKind fun _ => rfl]

theorem contents_nil : contents markers [] = [] :=
  (Walk.done 0 0).contents_eq

theorem contents_pass {token : Token} {rest : List Token} (hName : candidateName? token rest = none) :
    contents markers (token :: rest) = contents markers rest := by
  have hRest := walk_outlineFrom markers 1 0 rest
  rw [(Walk.pass hName hRest).contents_eq, hRest.contents_eq]

theorem contents_unfinished {tokens : List Token} (h : ∀ token ∈ tokens, token.kind ≠ .semicolon) :
    contents markers tokens = [] := by
  rw [contents, (walk_outlineOf markers tokens).rules_eq_nil h, List.map_nil]

variable {token colon semicolon : Token} {inner heading body after : List Token} {name : String}

theorem contents_dropped (hName : candidateName? token (inner ++ semicolon :: after) = some name)
    (hInner : ∀ other ∈ inner, other.kind ≠ .semicolon) (hSemicolon : semicolon.kind = .semicolon)
    (hColon : ∀ other ∈ inner, other.kind ≠ .colon) :
    contents markers (token :: (inner ++ semicolon :: after)) = contents markers after := by
  have hAfter := walk_outlineFrom markers (0 + inner.length + 2) 0 after
  rw [(Walk.dropped hName hInner hSemicolon hColon hAfter).contents_eq, hAfter.contents_eq]

theorem contents_rule
    (hName : candidateName? token (heading ++ colon :: body ++ semicolon :: after) = some name)
    (hInner : ∀ other ∈ heading ++ colon :: body, other.kind ≠ .semicolon)
    (hSemicolon : semicolon.kind = .semicolon)
    (hHeading : ∀ other ∈ heading, other.kind ≠ .colon) (hColon : colon.kind = .colon) :
    contents markers (token :: (heading ++ colon :: body ++ semicolon :: after)) =
      Rule.content ⟨name, 0, token, heading, colon, body, semicolon, []⟩ ::
        contents markers after := by
  have hAfter := walk_outlineFrom markers (0 + (heading ++ colon :: body).length + 2) 1 after
  rw [(Walk.rule hName hInner hSemicolon hHeading hColon hAfter).contents_eq, hAfter.contents_eq,
    List.map_cons]

/-- The keyword before a name adds nothing to what is found. -/
theorem contents_fragment {next : Token} {rest : List Token}
    (hKeyword : token.isWord "fragment" = true)
    (hName : candidateName? next rest = some next.text) :
    contents markers (token :: next :: rest) = contents markers (next :: rest) := by
  obtain ⟨hToken, hText⟩ : token.kind = .identifier ∧ token.text = "fragment" := by
    simpa [Token.isWord] using hKeyword
  have hNext := kind_of_candidateName? hName
  have hPlain : next.kind ≠ .semicolon ∧ next.kind ≠ .colon := by
    rw [hNext]
    decide
  have hHere : ∀ later, candidateName? token (next :: later) = some next.text := by
    simp [candidateName?, hToken, hText, hNext]
  have hWalk := walk_outlineFrom markers 0 0 (next :: rest)
  generalize outlineFrom markers 0 0 (next :: rest) = outline at hWalk
  cases hWalk with
  | pass hNone => rw [hName] at hNone; cases hNone
  | unfinished _ hRest =>
      have hTokens : ∀ other ∈ next :: rest, other.kind ≠ .semicolon :=
        List.forall_mem_cons.mpr ⟨hPlain.1, hRest⟩
      rw [contents_unfinished hTokens]
      refine contents_unfinished (List.forall_mem_cons.mpr ⟨?_, hTokens⟩)
      rw [hToken]
      decide
  | dropped hFound hInner hSemicolon hColon =>
      rw [contents_dropped hFound hInner hSemicolon hColon, ← List.cons_append]
      exact contents_dropped (hHere _) (List.forall_mem_cons.mpr ⟨hPlain.1, hInner⟩) hSemicolon
        (List.forall_mem_cons.mpr ⟨hPlain.2, hColon⟩)
  | rule hFound hInner hSemicolon hHeading hColon =>
      obtain rfl := Option.some.inj (hName.symm.trans hFound)
      rw [contents_rule hFound hInner hSemicolon hHeading hColon, ← List.cons_append,
        ← List.cons_append]
      refine (contents_rule (hHere _) ?_ hSemicolon
        (List.forall_mem_cons.mpr ⟨hPlain.2, hHeading⟩) hColon).trans ?_
      · simpa [hPlain.1] using hInner
      · simp [Rule.content, Rule.blocks, Rule.actionBlocks, Rule.isLeftRecursive, Rule.unrolled,
          Rule.alternativeTexts, Rule.alternatives, Rule.shape, hNext]

end Contents

section WithoutComments

def withoutComments (tokens : List Token) : List Token :=
  tokens.filter (!·.kind.isComment)

@[simp] theorem withoutComments_append (first second : List Token) :
    withoutComments (first ++ second) = withoutComments first ++ withoutComments second :=
  List.filter_append ..

theorem withoutComments_cons {token : Token} (h : token.kind.isComment = false)
    (rest : List Token) : withoutComments (token :: rest) = token :: withoutComments rest :=
  List.filter_cons_of_pos (by simp [h])

theorem withoutComments_cons_comment {token : Token} (h : token.kind.isComment = true)
    (rest : List Token) : withoutComments (token :: rest) = withoutComments rest :=
  List.filter_cons_of_neg (by simp [h])

theorem forall_mem_withoutComments {p : Token → Prop} {tokens : List Token}
    (h : ∀ token ∈ tokens, p token) : ∀ token ∈ withoutComments tokens, p token :=
  fun token hToken => h token (List.mem_filter.mp hToken).1

/-- Before the first token that is no comment there are none but comments. -/
theorem withoutComments_eq (tokens : List Token) :
    (withoutComments tokens = [] ∧ ∀ token ∈ tokens, token.kind.isComment = true) ∨
      ∃ comments next after, tokens = comments ++ next :: after ∧
        (∀ comment ∈ comments, comment.kind.isComment = true) ∧ next.kind.isComment = false ∧
        withoutComments tokens = next :: withoutComments after := by
  induction tokens with
  | nil => simp [withoutComments]
  | cons token tokens ih =>
      cases hToken : token.kind.isComment with
      | false =>
          exact .inr ⟨[], token, tokens, rfl, by simp, hToken, withoutComments_cons hToken tokens⟩
      | true =>
          rw [withoutComments_cons_comment hToken]
          rcases ih with ⟨hNil, hAll⟩ | ⟨comments, next, after, rfl, hComments, hNext, hEq⟩
          · exact .inl ⟨hNil, List.forall_mem_cons.mpr ⟨hToken, hAll⟩⟩
          · exact .inr ⟨token :: comments, next, after, rfl,
              List.forall_mem_cons.mpr ⟨hToken, hComments⟩, hNext, hEq⟩

end WithoutComments

/-- Two tokens with comments between them, and with nothing else between them. -/
inductive Parted : List Token → Token → Token → List Token → List Token → Prop where
  | intro {before after : List Token} {first second : Token} (comments : List Token)
      (hSome : comments ≠ []) (hComments : ∀ comment ∈ comments, comment.kind.isComment = true) :
      Parted before first second after (before ++ first :: (comments ++ second :: after))

/-- Comments do not come between a word and the token that it goes by: the word `options` and its
block anywhere, and where no candidate is open, the word `tokens` and its block and the word
`fragment` and its name. A name that begins a candidate by itself may be kept apart. -/
structure Unparted (tokens : List Token) : Prop where
  settings : ∀ before first second after, Parted before first second after tokens →
    first.isWord "options" = true → second.kind ≠ .block
  header : ∀ before first second after, Parted before first second after tokens →
    Idle tokens before.length → first.isWord "tokens" = true → second.kind ≠ .block
  keyword : ∀ before first second after, Parted before first second after tokens →
    Idle tokens before.length → first.isWord "fragment" = true → second.kind = .identifier →
      second.text ≠ "fragment" ∧
        ¬((second.text = "options" ∨ second.text = "tokens") ∧
          after.head?.map (·.kind) = some .block)

theorem Parted.extend {before after tokens : List Token} {first second : Token}
    (h : Parted before first second after tokens) (prior rest : List Token) :
    Parted (prior ++ before) first second (after ++ rest) (prior ++ tokens ++ rest) := by
  cases h with
  | intro comments hSome hComments =>
      have hWhole : Parted (prior ++ before) first second (after ++ rest)
          (prior ++ before ++ first :: (comments ++ second :: (after ++ rest))) :=
        .intro comments hSome hComments
      simpa using hWhole

theorem not_isWord_of_isComment {token : Token} (h : token.kind.isComment = true) (word : String) :
    token.isWord word = false := by
  cases hKind : token.kind <;> simp_all [Token.isWord, Kind.isComment]

theorem ne_block_of_isComment {token : Token} (h : token.kind.isComment = true) :
    token.kind ≠ .block := by
  cases hKind : token.kind <;> simp_all [Kind.isComment]

section Blocks

/-- Blocks go by the token before them. That may be a comment in one list and the word before it
in the other: both are no `options`, or no block comes next. -/
theorem actionBlocks_withoutComments {previous last : Token} {tokens : List Token}
    (hLast : previous.isWord "options" = last.isWord "options" ∨
      previous.isWord "options" = false ∧ ∀ comments next after, tokens = comments ++ next :: after →
        (∀ comment ∈ comments, comment.kind.isComment = true) → next.kind ≠ .block)
    (hSettings : ∀ before first second after, Parted before first second after (previous :: tokens) →
      first.isWord "options" = true → second.kind ≠ .block) :
    Rule.actionBlocks last (withoutComments tokens) = Rule.actionBlocks previous tokens := by
  induction tokens generalizing previous last with
  | nil => rfl
  | cons token tokens ih =>
      have hTail : ∀ before first second after, Parted before first second after (token :: tokens) →
          first.isWord "options" = true → second.kind ≠ .block := by
        intro before first second after hParted
        have hWhole := hParted.extend [previous] []
        rw [List.append_nil, List.append_nil] at hWhole
        exact hSettings _ first second after hWhole
      cases hToken : token.kind.isComment with
      | true =>
          have hBlock : (token.kind == .block) = false :=
            beq_eq_false_iff_ne.mpr (ne_block_of_isComment hToken)
          rw [withoutComments_cons_comment hToken, Rule.actionBlocks, hBlock, Bool.false_and]
          refine ih ?_ hTail
          rw [not_isWord_of_isComment hToken]
          cases hWord : last.isWord "options" with
          | false => exact .inl rfl
          | true =>
              refine .inr ⟨rfl, ?_⟩
              rintro comments next after rfl hComments
              have hAll : ∀ comment ∈ token :: comments, comment.kind.isComment = true :=
                List.forall_mem_cons.mpr ⟨hToken, hComments⟩
              rcases hLast with hSame | ⟨-, hNext⟩
              · have hParted : Parted [] previous next after
                    ([] ++ previous :: (token :: comments ++ next :: after)) :=
                  .intro (token :: comments) (List.cons_ne_nil _ _) hAll
                exact hSettings [] previous next after hParted (hSame.trans hWord)
              · exact hNext (token :: comments) next after rfl hAll
      | false =>
          have hTest : (token.kind == .block && !last.isWord "options") =
              (token.kind == .block && !previous.isWord "options") := by
            rcases hLast with hSame | ⟨-, hNext⟩
            · rw [hSame]
            · have hBlock := hNext [] token tokens rfl (by simp)
              rw [beq_eq_false_iff_ne.mpr hBlock, Bool.false_and, Bool.false_and]
          rw [withoutComments_cons hToken, Rule.actionBlocks, Rule.actionBlocks, hTest,
            ih (.inl rfl) hTail]

theorem Rule.content_withoutComments {name : String} {token colon semicolon : Token}
    {heading body : List Token} (hColon : colon.kind.isComment = false)
    (hSettings : ∀ before first second after,
      Parted before first second after (token :: (heading ++ colon :: body)) →
        first.isWord "options" = true → second.kind ≠ .block) :
    Rule.content ⟨name, 0, token, withoutComments heading, colon, withoutComments body, semicolon,
        []⟩ =
      Rule.content ⟨name, 0, token, heading, colon, body, semicolon, []⟩ := by
  have hShape : (withoutComments body).filter (!·.kind.isOpaque) =
      body.filter (!·.kind.isOpaque) := by
    rw [withoutComments, List.filter_filter]
    apply List.filter_congr
    intro other _
    cases other.kind <;> rfl
  have hBlocks := actionBlocks_withoutComments (.inl rfl) hSettings
  rw [withoutComments_append, withoutComments_cons hColon] at hBlocks
  simp only [Rule.content, Rule.blocks, Rule.isLeftRecursive, Rule.unrolled, Rule.alternativeTexts,
    Rule.alternatives, Rule.shape, hShape, hBlocks]

end Blocks

section Candidate

variable {tokens prior rest : List Token} {token : Token}

/-- Most words do not look at the next token at all. -/
theorem candidateName?_cons_eq {next : Token}
    (hHeader : token.isWord "options" = true ∨ token.isWord "tokens" = true → next.kind ≠ .block)
    (hKeyword : token.isWord "fragment" = true → next.kind ≠ .identifier) :
    candidateName? token (next :: rest) = candidateName? token [] := by
  by_cases hKind : token.kind = .identifier
  · by_cases hText : token.text = "fragment"
    · simp_all [candidateName?, Token.isWord]
    · by_cases hWord : token.text = "options" ∨ token.text = "tokens"
      · simp_all [candidateName?, Token.isWord]
      · simp_all [candidateName?]
  · simp [candidateName?, hKind]

theorem candidateName?_cons_comment {comment : Token} (h : comment.kind.isComment = true) :
    candidateName? token (comment :: rest) = candidateName? token [] := by
  refine candidateName?_cons_eq (fun _ => ne_block_of_isComment h) (fun _ hKind => ?_)
  rw [hKind] at h
  cases h

/-- What comments after a token keep from it is at most the name after the word `fragment`. -/
theorem candidateName?_withoutComments (hTokens : tokens = prior ++ token :: rest)
    (hIdle : Idle tokens prior.length) (h : Unparted tokens) :
    candidateName? token (withoutComments rest) = candidateName? token rest ∨
      token.isWord "fragment" = true ∧ candidateName? token rest = none ∧
        ∃ comments next after, rest = comments ++ next :: after ∧
          (∀ comment ∈ comments, comment.kind.isComment = true) ∧ next.kind = .identifier ∧
          withoutComments rest = next :: withoutComments after ∧
          Parted prior token next after tokens := by
  rcases withoutComments_eq rest with ⟨hNil, hAll⟩ | ⟨comments, next, after, rfl, hComments, -, hEq⟩
  · rw [hNil]
    cases rest with
    | nil => exact .inl rfl
    | cons comment rest =>
        exact .inl (candidateName?_cons_comment (hAll comment (List.mem_cons_self ..))).symm
  · rw [hEq]
    cases comments with
    | nil => exact .inl rfl
    | cons comment comments =>
        have hParted : Parted prior token next after tokens := by
          rw [hTokens]
          exact .intro (comment :: comments) (List.cons_ne_nil _ _) hComments
        rw [List.cons_append, candidateName?_cons_comment (hComments comment (List.mem_cons_self ..))]
        by_cases hKeyword : token.isWord "fragment" = true ∧ next.kind = .identifier
        · refine .inr ⟨hKeyword.1, ?_, comment :: comments, next, after, rfl, hComments,
            hKeyword.2, rfl, hParted⟩
          have hWord := hKeyword.1
          simp only [Token.isWord, Bool.and_eq_true, beq_iff_eq] at hWord
          simp [candidateName?, hWord]
        · refine .inl (candidateName?_cons_eq ?_ (not_and.mp hKeyword))
          rintro (hOptions | hHeader)
          · exact h.settings prior token next after hParted hOptions
          · exact h.header prior token next after hParted hIdle hHeader

theorem Idle.past_comments {comments : List Token} (hTokens : tokens = prior ++ (comments ++ rest))
    (hIdle : Idle tokens prior.length)
    (hComments : ∀ comment ∈ comments, comment.kind.isComment = true) :
    Idle tokens (prior ++ comments).length := by
  induction comments generalizing prior with
  | nil => rwa [List.append_nil]
  | cons comment comments ih =>
      obtain ⟨hComment, hRest⟩ := List.forall_mem_cons.mp hComments
      have hOpens : ¬Opens tokens prior.length := by
        intro hOpens
        rw [Opens.kind_eq hTokens hOpens] at hComment
        cases hComment
      have hNext : Idle tokens (prior ++ [comment]).length := by
        rw [List.length_append]
        exact hIdle.succ hOpens
      have hPlace : tokens = prior ++ [comment] ++ (comments ++ rest) := by simp [hTokens]
      have hLater := ih hPlace hNext hRest
      rwa [List.append_assoc] at hLater

end Candidate

/-- A walk that begins where no candidate is open finds the same rules without the comments. -/
theorem Walk.contents_withoutComments {markers : Markers} {index rules : Nat}
    {tokens prior rest : List Token} {outline : Outline} (h : Walk markers index rules rest outline)
    (hTokens : tokens = prior ++ rest) (hIdle : Idle tokens prior.length)
    (hUnparted : Unparted tokens) :
    contents markers (withoutComments rest) = outline.rules.map (·.content) := by
  induction h generalizing prior with
  | done index rules => exact contents_nil
  | @pass index rules token rest later hName tail ih =>
      have hOpens := (candidateName?_eq_none_iff hTokens).mp hName
      have hNext : Idle tokens (prior ++ [token]).length := by
        rw [List.length_append]
        exact hIdle.succ hOpens
      have hPlace : tokens = prior ++ [token] ++ rest := by simp [hTokens]
      have hRest := ih hPlace hNext
      cases hToken : token.kind.isComment with
      | true => rwa [withoutComments_cons_comment hToken]
      | false =>
          rw [withoutComments_cons hToken, ← hRest]
          rcases candidateName?_withoutComments hTokens hIdle hUnparted with hSame |
            ⟨hKeyword, -, comments, next, after, rfl, hComments, hKind, hEq, hParted⟩
          · exact contents_pass (hSame.trans hName)
          · -- The keyword has lost its name to the comments, and the name stands for itself.
            obtain ⟨hText, hHeader⟩ := hUnparted.keyword _ _ _ _ hParted hIdle hKeyword hKind
            have hOwn : candidateName? next after = some next.text := by
              cases after <;> simp_all [candidateName?]
            have hLater := hNext.past_comments hPlace hComments
            rw [← List.append_assoc] at hPlace
            rcases candidateName?_withoutComments hPlace hLater hUnparted with hSame | ⟨hAgain, -⟩
            · rw [hEq]
              exact contents_fragment hKeyword (hSame.trans hOwn)
            · simp [Token.isWord, hText] at hAgain
  | @unfinished index rules token rest name hName hRest =>
      have hToken := kind_of_candidateName? hName
      refine contents_unfinished (forall_mem_withoutComments (List.forall_mem_cons.mpr ⟨?_, hRest⟩))
      rw [hToken]
      decide
  | @dropped index rules token semicolon inner after name later hName hInner hSemicolon hColon tail
      ih =>
      have hToken : token.kind.isComment = false := by rw [kind_of_candidateName? hName]; rfl
      have hEnd : semicolon.kind.isComment = false := by rw [hSemicolon]; rfl
      obtain ⟨past, hAfter, hLength, hNext⟩ := exists_past_segment hTokens hSemicolon
      rcases candidateName?_withoutComments hTokens hIdle hUnparted with hSame | ⟨-, hNone, -⟩
      · rw [hName, withoutComments_append, withoutComments_cons hEnd] at hSame
        rw [withoutComments_cons hToken, withoutComments_append, withoutComments_cons hEnd,
          contents_dropped hSame (forall_mem_withoutComments hInner) hSemicolon
            (forall_mem_withoutComments hColon)]
        exact ih hAfter (hLength ▸ hNext)
      · rw [hName] at hNone
        cases hNone
  | @rule index rules token colon semicolon heading body after name later hName hInner hSemicolon
      hHeading hColon tail ih =>
      have hToken : token.kind.isComment = false := by rw [kind_of_candidateName? hName]; rfl
      have hMiddle : colon.kind.isComment = false := by rw [hColon]; rfl
      have hEnd : semicolon.kind.isComment = false := by rw [hSemicolon]; rfl
      obtain ⟨past, hAfter, hLength, hNext⟩ := exists_past_segment hTokens hSemicolon
      have hSettings : ∀ before first second rest,
          Parted before first second rest (token :: (heading ++ colon :: body)) →
            first.isWord "options" = true → second.kind ≠ .block := by
        intro before first second rest hParted
        have hWhole := hParted.extend prior (semicolon :: after)
        rw [List.append_assoc, List.cons_append, ← hTokens] at hWhole
        exact hUnparted.settings _ first second _ hWhole
      have hSplit : withoutComments (heading ++ colon :: body ++ semicolon :: after) =
          withoutComments heading ++ colon :: withoutComments body ++
            semicolon :: withoutComments after := by
        rw [withoutComments_append, withoutComments_append, withoutComments_cons hMiddle,
          withoutComments_cons hEnd]
      have hInside : ∀ other ∈ withoutComments heading ++ colon :: withoutComments body,
          other.kind ≠ .semicolon := by
        have hKept := forall_mem_withoutComments hInner
        rwa [withoutComments_append, withoutComments_cons hMiddle] at hKept
      rcases candidateName?_withoutComments hTokens hIdle hUnparted with hSame | ⟨-, hNone, -⟩
      · rw [hName, hSplit] at hSame
        rw [withoutComments_cons hToken, hSplit, contents_rule hSame hInside hSemicolon
          (forall_mem_withoutComments hHeading) hColon,
          ih hAfter (hLength ▸ hNext),
          Rule.content_withoutComments hMiddle hSettings]
        rfl
      · rw [hName] at hNone
        cases hNone

/-- It is enough that no comment comes right after one of the three words. -/
theorem unparted_of_isChain {tokens : List Token}
    (h : tokens.IsChain fun first next => next.kind.isComment = true →
      ["options", "tokens", "fragment"].all (fun word => !first.isWord word) = true) :
    Unparted tokens := by
  have hWord : ∀ before first second after, Parted before first second after tokens →
      ∀ word ∈ ["options", "tokens", "fragment"], first.isWord word = false := by
    intro before first second after hParted word hWord
    cases hParted with
    | intro comments hSome hComments =>
        cases comments with
        | nil => exact absurd rfl hSome
        | cons comment comments =>
            have hPair := (List.isChain_cons_cons.mp h.right_of_append).1
              (hComments comment (List.mem_cons_self ..))
            simpa using List.all_eq_true.mp hPair word hWord
  refine ⟨?_, ?_, ?_⟩
  · intro before first second after hParted hOptions
    rw [hWord before first second after hParted "options" (by simp)] at hOptions
    cases hOptions
  · intro before first second after hParted _ hHeader
    rw [hWord before first second after hParted "tokens" (by simp)] at hHeader
    cases hHeader
  · intro before first second after hParted _ hKeyword
    rw [hWord before first second after hParted "fragment" (by simp)] at hKeyword
    cases hKeyword

/-- Without its comments a text has the same rules, as long as these keep no word from the token
that it goes by. -/
theorem contents_unparted (markers : Markers) {tokens : List Token} (h : Unparted tokens) :
    contents markers (withoutComments tokens) = contents markers tokens :=
  (walk_outlineOf markers tokens).contents_withoutComments (List.nil_append tokens).symm
    (idle_zero tokens) h

theorem contents_unparted_fragment :
    Unparted (tokenize "options \x7b\x7d // a\nfragment D /* b */ : D // c\n | \x7b\x7d 'x' ;") ∧
      contents .standard (withoutComments
          (tokenize "options \x7b\x7d // a\nfragment D /* b */ : D // c\n | \x7b\x7d 'x' ;")) =
        contents .standard
          (tokenize "options \x7b\x7d // a\nfragment D /* b */ : D // c\n | \x7b\x7d 'x' ;") := by
  have hUnparted : Unparted
      (tokenize "options \x7b\x7d // a\nfragment D /* b */ : D // c\n | \x7b\x7d 'x' ;") :=
    unparted_of_isChain (by decide +kernel)
  exact ⟨hUnparted, contents_unparted .standard hUnparted⟩

/-- A comment between a word and the token that it goes by does make a difference: to the header
of a text, to the name of a rule and to its action blocks. -/
theorem contents_parted :
    contents .standard (withoutComments (tokenize "options /**/ \x7b\x7d r : A ;")) ≠
      contents .standard (tokenize "options /**/ \x7b\x7d r : A ;") ∧
    contents .standard (withoutComments (tokenize "tokens /**/ \x7b\x7d r : A ;")) ≠
      contents .standard (tokenize "tokens /**/ \x7b\x7d r : A ;") ∧
    contents .standard (withoutComments (tokenize "fragment /**/ fragment A : B ;")) ≠
      contents .standard (tokenize "fragment /**/ fragment A : B ;") ∧
    contents .standard (withoutComments (tokenize "fragment /**/ options \x7b\x7d : A ;")) ≠
      contents .standard (tokenize "fragment /**/ options \x7b\x7d : A ;") ∧
    contents .standard (withoutComments (tokenize "r options /**/ \x7b\x7d : A ;")) ≠
      contents .standard (tokenize "r options /**/ \x7b\x7d : A ;") := by
  decide +kernel

end RuleOutline
