import RuleOutline.Document
import RuleOutline.Proofs.Text.Bytes
import RuleOutline.Proofs.Token.Shift
import RuleOutline.Proofs.Outline.Append

/-! Outlines can be cut at semicolons. Whatever a semicolon closes, the walk stands at the next
token after it as it stands at the first, but for the number of tokens and of rules behind it. -/
namespace RuleOutline

open Text

section Move

variable (place : Token → Token) (tokens rules : Nat)

/-- The rule behind so many more tokens, with its own tokens placed anew. -/
def Rule.move (rule : Rule) : Rule :=
  { rule with
    index := rule.index + tokens
    first := place rule.first
    heading := rule.heading.map place
    colon := place rule.colon
    body := rule.body.map place
    semicolon := place rule.semicolon }

/-- The group behind so many more tokens and rules. A group that no rule came before is anchored
to the last of these rules, if there is one. -/
def Group.move (group : Group) : Group :=
  { group with
    index := group.index + tokens
    anchor := match group.anchor with
      | some anchor => some (anchor + rules)
      | none => lastOf rules
    comment := place group.comment }

def Outline.move (outline : Outline) : Outline :=
  ⟨outline.rules.map (·.move place tokens), outline.groups.map (·.move place tokens rules)⟩

/-- Two outlines in turn, the second of which is of tokens that stand behind so many others. -/
def Outline.followedBy (first second : Outline) : Outline :=
  let later := second.move place tokens first.rules.length
  ⟨first.rules ++ later.rules, first.groups ++ later.groups⟩

end Move

variable {markers : Markers} {index rules : Nat}

section Place

variable {place : Token → Token} (hKind : ∀ token, (place token).kind = token.kind)
include hKind

theorem candidateName?_map {token : Token} {rest : List Token}
    (hText : ∀ other ∈ token :: rest, other.kind = .identifier ∨ other.kind = .lineComment →
      (place other).text = other.text) :
    candidateName? (place token) (rest.map place) = candidateName? token rest := by
  by_cases hName : token.kind = .identifier
  · have hSame := hText token (List.mem_cons_self ..) (.inl hName)
    cases rest with
    | nil => simp [candidateName?, hKind, hSame]
    | cons next rest =>
        have hNext := fun hNextName => hText next (by simp) (.inl hNextName)
        simp only [candidateName?, List.map_cons, hKind, hSame]
        split
        · split
          · rfl
          · split
            · split
              next hKeyword => rw [hNext (beq_iff_eq.mp hKeyword)]
              next => rfl
            · rfl
        · rfl
  · simp [candidateName?, hKind, hName]

theorem groupAt?_move {token : Token}
    (hText : token.kind = .lineComment → (place token).text = token.text) (tokens before : Nat) :
    groupAt? markers (index + tokens) (rules + before) (place token) =
      (groupAt? markers index rules token).map (·.move place tokens before) := by
  unfold groupAt?
  rw [hKind]
  split
  next hComment =>
    rw [hText (beq_iff_eq.mp hComment)]
    cases rules <;> simp [Group.move, lastOf, Function.comp_def, Nat.succ_add_sub_one]
  next => rfl

/-- The walk goes by kinds, and by the texts of words and of line comments. Other texts, and where
the tokens stand, make no difference to it. -/
theorem Walk.move {tokens : List Token} {outline : Outline}
    (h : Walk markers index rules tokens outline)
    (hText : ∀ token ∈ tokens, token.kind = .identifier ∨ token.kind = .lineComment →
      (place token).text = token.text) (count before : Nat) :
    Walk markers (index + count) (rules + before) (tokens.map place)
      (outline.move place count before) := by
  induction h with
  | done index rules => exact .done _ _
  | @pass index rules token rest later hName tail ih =>
      have hRest := ih fun other hOther => hText other (List.mem_cons_of_mem _ hOther)
      rw [← candidateName?_map hKind hText] at hName
      rw [Nat.add_right_comm] at hRest
      have hPass := Walk.pass hName hRest
      rw [groupAt?_move hKind fun hComment => hText token (List.mem_cons_self ..) (.inr hComment)]
        at hPass
      cases hGroup : groupAt? markers index rules token <;>
        simpa [Outline.move, hGroup] using hPass
  | @unfinished index rules token rest name hName hRest =>
      rw [← candidateName?_map hKind hText] at hName
      exact .unfinished hName (by simpa [hKind] using hRest)
  | @dropped index rules token semicolon inner after name later hName hInner hSemicolon hColon tail
      ih =>
      have hAfter := ih fun other hOther => hText other (by simp [hOther])
      rw [← candidateName?_map hKind hText, List.map_append, List.map_cons] at hName
      have hShift : index + inner.length + 2 + count = index + count + (inner.map place).length + 2 :=
        by rw [List.length_map]; omega
      rw [hShift] at hAfter
      rw [List.map_cons, List.map_append, List.map_cons]
      exact .dropped hName (by simpa [hKind] using hInner) (by rwa [hKind])
        (by simpa [hKind] using hColon) hAfter
  | @rule index rules token colon semicolon heading body after name later hName hInner hSemicolon
      hHeading hColon tail ih =>
      have hAfter := ih fun other hOther => hText other (by simp [hOther])
      rw [← candidateName?_map hKind hText] at hName
      have hShift : index + (heading ++ colon :: body).length + 2 + count =
          index + count + (heading.map place ++ place colon :: body.map place).length + 2 := by
        simp only [List.length_append, List.length_cons, List.length_map]
        omega
      rw [hShift, Nat.add_right_comm rules] at hAfter
      simp only [List.map_append, List.map_cons] at hName ⊢
      exact .rule hName (by simpa [hKind, or_imp, forall_and] using hInner) (by rwa [hKind])
        (by simpa [hKind] using hHeading) (by rwa [hKind]) hAfter

end Place

/-- Behind a last semicolon the walk goes on as if there had been nothing to decide before. -/
theorem Walk.append_of_closed {tokens : List Token} {outline : Outline}
    (h : Walk markers index rules tokens outline) (hClosed : Closed tokens) {more : List Token}
    {second : Outline}
    (hMore : Walk markers (index + tokens.length) (rules + outline.rules.length) more second) :
    Walk markers index rules (tokens ++ more)
      ⟨outline.rules ++ second.rules, outline.groups ++ second.groups⟩ := by
  induction h with
  | done index rules => exact hMore
  | @pass index rules token rest later hName tail ih =>
      have hHere : candidateName? token (rest ++ more) = none := by
        cases rest with
        | nil => simp [candidateName?, hClosed.kind_eq]
        | cons next rest => exact hName
      rw [List.length_cons, ← Nat.add_assoc, Nat.add_right_comm] at hMore
      rw [List.cons_append, List.append_assoc]
      exact .pass hHere (ih hClosed.tail hMore)
  | @unfinished index rules token rest name hName hRest =>
      cases rest with
      | nil =>
          have hKind := kind_of_candidateName? hName
          rw [hClosed.kind_eq] at hKind
          cases hKind
      | cons next rest =>
          have hLast := List.getLast?_eq_some_getLast (List.cons_ne_nil next rest)
          exact absurd (hClosed.tail _ hLast) (hRest _ (List.getLast_mem _))
  | @dropped index rules token semicolon inner after name later hName hInner hSemicolon hColon tail
      ih =>
      have hHere := (candidateName?_append (by simp) more).trans hName
      have hLength : index + (token :: (inner ++ semicolon :: after)).length =
          index + inner.length + 2 + after.length := by
        simp only [List.length_cons, List.length_append]
        omega
      rw [hLength] at hMore
      rw [List.append_assoc, List.cons_append] at hHere
      rw [List.cons_append, List.append_assoc, List.cons_append]
      exact .dropped hHere hInner hSemicolon hColon (ih hClosed.tail.of_append.tail hMore)
  | @rule index rules token colon semicolon heading body after name later hName hInner hSemicolon
      hHeading hColon tail ih =>
      have hHere := (candidateName?_append (by simp) more).trans hName
      have hLength : index + (token :: (heading ++ colon :: body ++ semicolon :: after)).length =
          index + (heading ++ colon :: body).length + 2 + after.length := by
        simp only [List.length_cons, List.length_append]
        omega
      have hShift : heading ++ colon :: body ++ semicolon :: after ++ more =
          heading ++ colon :: body ++ semicolon :: (after ++ more) := by simp
      rw [hLength, List.length_cons, ← Nat.add_assoc, Nat.add_right_comm rules] at hMore
      rw [hShift] at hHere
      rw [List.cons_append, hShift]
      exact .rule hHere hInner hSemicolon hHeading hColon (ih hClosed.tail.of_append.tail hMore)

theorem outlineOf_append_of_closed (markers : Markers) {tokens : List Token}
    (hClosed : Closed tokens) (place : Token → Token)
    (hKind : ∀ token, (place token).kind = token.kind)
    (hText : ∀ token, (place token).text = token.text) (more : List Token) :
    outlineOf markers (tokens ++ more.map place) =
      (outlineOf markers tokens).followedBy place tokens.length (outlineOf markers more) := by
  have hMore := (walk_outlineOf markers more).move hKind (fun token _ _ => hText token)
    tokens.length (outlineOf markers tokens).rules.length
  exact ((walk_outlineOf markers tokens).append_of_closed hClosed hMore).eq_outlineFrom.symm

/-- Every semicolon is a place where reading can begin anew: behind tokens that end with one, and
behind a source whose last token is one, there come the tokens, rules and groups of what follows
by itself, moved by what stands before them and otherwise unchanged. -/
theorem outline_synchronized (markers : Markers) :
    (∀ tokens more : List Token, Closed tokens →
      outlineOf markers (tokens ++ more) =
        (outlineOf markers tokens).followedBy id tokens.length (outlineOf markers more)) ∧
    ∀ source more : String, Closed (tokenize source) →
      let place := Token.shift source.utf8ByteSize (source.toList.count '\n')
      tokenize (source ++ more) = tokenize source ++ (tokenize more).map place ∧
        outlineOf markers (tokenize (source ++ more)) =
          (outlineOf markers (tokenize source)).followedBy place (tokenize source).length
            (outlineOf markers (tokenize more)) := by
  constructor
  · intro tokens more hClosed
    have hWhole := outlineOf_append_of_closed markers hClosed id (fun _ => rfl) (fun _ => rfl)
      more
    rwa [List.map_id] at hWhole
  · intro source more hClosed place
    have hTokens : tokenize (source ++ more) = tokenize source ++ (tokenize more).map place := by
      rw [tokenize_append_of_closed hClosed more, ← utf8ByteSize_eq, lineFeeds_eq_count]
    refine ⟨hTokens, ?_⟩
    rw [hTokens]
    exact outlineOf_append_of_closed markers hClosed place (fun _ => rfl) (fun _ => rfl)
      (tokenize more)

theorem outline_synchronized_marker :
    Closed (tokenize "é : A ;\n") ∧
      outlineOf .standard (tokenize "é : A ;\n" ++ tokenize "// $>") =
        (outlineOf .standard (tokenize "é : A ;\n")).followedBy id 4
          (outlineOf .standard (tokenize "// $>")) ∧
      outlineOf .standard (tokenize ("é : A ;\n" ++ "// $>")) =
        (outlineOf .standard (tokenize "é : A ;\n")).followedBy (Token.shift 9 1) 4
          (outlineOf .standard (tokenize "// $>")) := by
  have hClosed : Closed (tokenize "é : A ;\n") := by
    unfold Closed
    decide +kernel
  have hTokens := (outline_synchronized .standard).1 _ (tokenize "// $>") hClosed
  have hSource := ((outline_synchronized .standard).2 "é : A ;\n" "// $>" hClosed).2
  have hLength : (tokenize "é : A ;\n").length = 4 := by decide +kernel
  rw [hLength] at hTokens hSource
  exact ⟨hClosed, hTokens, hSource⟩

end RuleOutline
