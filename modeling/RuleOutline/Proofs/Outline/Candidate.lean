import RuleOutline.Proofs.Outline.Walk

/-! Candidates by their places. Semicolons cut tokens into segments, and what a segment is depends
on its first candidate only: nothing here follows the walk. -/
namespace RuleOutline

def kindAt? (tokens : List Token) (i : Nat) : Option Kind :=
  tokens[i]?.map (·.kind)

def textAt? (tokens : List Token) (i : Nat) : Option String :=
  tokens[i]?.map (·.text)

/-- A candidate may begin here: a name that neither heads a block of settings nor is the word
`fragment` without a name after it. -/
structure Opens (tokens : List Token) (i : Nat) : Prop where
  name : kindAt? tokens i = some .identifier
  header : ¬((textAt? tokens i = some "options" ∨ textAt? tokens i = some "tokens") ∧
    kindAt? tokens (i + 1) = some .block)
  fragment : textAt? tokens i = some "fragment" → kindAt? tokens (i + 1) = some .identifier

/-- Where the name of a candidate stands. -/
def nameIndex (tokens : List Token) (i : Nat) : Nat :=
  if textAt? tokens i = some "fragment" then i + 1 else i

/-- There is no semicolon from `i` up to `j`. -/
def Unbroken (tokens : List Token) (i j : Nat) : Prop :=
  ∀ k, i ≤ k → k < j → kindAt? tokens k ≠ some .semicolon

/-- The candidate of the segment that ends at `stop` begins at `start`. -/
structure IsCandidate (tokens : List Token) (start stop : Nat) : Prop where
  opens : Opens tokens start
  before : start < stop
  segment : Unbroken tokens start stop
  first : ∀ i < start, Unbroken tokens i stop → ¬Opens tokens i

/-- The segment that ends at `stop` is a rule: it ends with a semicolon, has a candidate, and has
a colon between the name of the candidate and the semicolon. -/
structure IsRule (tokens : List Token) (start stop : Nat) (name : String) : Prop where
  semicolon : kindAt? tokens stop = some .semicolon
  candidate : IsCandidate tokens start stop
  colon : ∃ i, nameIndex tokens start < i ∧ i < stop ∧ kindAt? tokens i = some .colon
  name : textAt? tokens (nameIndex tokens start) = some name

/-- No candidate is open at `i`: none has begun in its segment. -/
def Idle (tokens : List Token) (i : Nat) : Prop :=
  ∀ j < i, Unbroken tokens j i → ¬Opens tokens j

theorem getElem?_append_add {α : Type} (prior rest : List α) (i : Nat) :
    (prior ++ rest)[prior.length + i]? = rest[i]? := by
  rw [List.getElem?_append_right (by omega), Nat.add_sub_cancel_left]

theorem kindAt?_append (prior rest : List Token) (i : Nat) :
    kindAt? (prior ++ rest) (prior.length + i) = kindAt? rest i := by
  rw [kindAt?, getElem?_append_add, kindAt?]

theorem textAt?_append (prior rest : List Token) (i : Nat) :
    textAt? (prior ++ rest) (prior.length + i) = textAt? rest i := by
  rw [textAt?, getElem?_append_add, textAt?]

theorem kindAt?_append_left {part : List Token} {i : Nat} (hIndex : i < part.length)
    (rest : List Token) : kindAt? (part ++ rest) i = some part[i].kind := by
  rw [kindAt?, List.getElem?_append_left hIndex, List.getElem?_eq_getElem hIndex, Option.map_some]

theorem exists_textAt? {tokens : List Token} {i : Nat} {kind : Kind}
    (h : kindAt? tokens i = some kind) : ∃ text, textAt? tokens i = some text := by
  obtain ⟨token, hToken, _⟩ := Option.map_eq_some_iff.mp h
  exact ⟨token.text, by rw [textAt?, hToken, Option.map_some]⟩

theorem exists_mem_of_kindAt? {prior rest : List Token} {i : Nat} {kind : Kind}
    (hLower : prior.length ≤ i) (h : kindAt? (prior ++ rest) i = some kind) :
    ∃ token ∈ rest, token.kind = kind := by
  obtain ⟨k, rfl⟩ := Nat.exists_eq_add_of_le hLower
  rw [kindAt?_append] at h
  obtain ⟨token, hToken, hKind⟩ := Option.map_eq_some_iff.mp h
  exact ⟨token, List.mem_of_getElem? hToken, hKind⟩

/-- The test at a token, which sees the next token only, is the condition on its place. -/
theorem candidateName?_eq_some_iff {tokens prior rest : List Token} {token : Token}
    (hTokens : tokens = prior ++ token :: rest) {name : String} :
    candidateName? token rest = some name ↔
      Opens tokens prior.length ∧ textAt? tokens (nameIndex tokens prior.length) = some name := by
  have hKind : kindAt? tokens prior.length = some token.kind :=
    hTokens ▸ kindAt?_append prior (token :: rest) 0
  have hText : textAt? tokens prior.length = some token.text :=
    hTokens ▸ textAt?_append prior (token :: rest) 0
  have hNextKind : kindAt? tokens (prior.length + 1) = rest.head?.map (·.kind) := by
    rw [hTokens, kindAt?_append, kindAt?, List.getElem?_cons_succ, List.head?_eq_getElem?]
  have hNextText : textAt? tokens (prior.length + 1) = rest.head?.map (·.text) := by
    rw [hTokens, textAt?_append, textAt?, List.getElem?_cons_succ, List.head?_eq_getElem?]
  have hOpens : Opens tokens prior.length ↔
      token.kind = .identifier ∧
        ¬((token.text = "options" ∨ token.text = "tokens") ∧
          rest.head?.map (·.kind) = some .block) ∧
        (token.text = "fragment" → rest.head?.map (·.kind) = some .identifier) := by
    constructor
    · rintro ⟨hName, hHeader, hFragment⟩
      rw [hKind] at hName
      rw [hText, hNextKind] at hHeader hFragment
      simp only [Option.some.injEq] at hName hHeader hFragment
      exact ⟨hName, hHeader, hFragment⟩
    · rintro ⟨hName, hHeader, hFragment⟩
      refine ⟨?_, ?_, ?_⟩
      · rw [hKind, hName]
      · rwa [hText, hNextKind, Option.some.injEq, Option.some.injEq]
      · rwa [hText, hNextKind, Option.some.injEq]
  rw [hOpens]
  by_cases hWord : token.text = "fragment"
  · have hIndex : nameIndex tokens prior.length = prior.length + 1 :=
      if_pos (by rw [hText, hWord])
    rw [hIndex, hNextText]
    cases rest with
    | nil => simp [candidateName?, hWord]
    | cons next rest => simp [candidateName?, hWord, and_assoc]
  · have hIndex : nameIndex tokens prior.length = prior.length :=
      if_neg (by rwa [hText, Option.some.injEq])
    rw [hIndex, hText]
    cases rest with
    | nil => simp [candidateName?, hWord]
    | cons next rest => simp [candidateName?, hWord, and_assoc]

theorem Opens.kind_eq {tokens prior rest : List Token} {token : Token}
    (hTokens : tokens = prior ++ token :: rest) (h : Opens tokens prior.length) :
    token.kind = .identifier := by
  have hName := h.name
  rw [← Nat.add_zero prior.length, hTokens, kindAt?_append] at hName
  exact Option.some.inj hName

theorem kind_of_candidateName? {token : Token} {rest : List Token} {name : String}
    (h : candidateName? token rest = some name) : token.kind = .identifier := by
  have hTokens : token :: rest = [] ++ token :: rest := rfl
  exact Opens.kind_eq hTokens ((candidateName?_eq_some_iff hTokens).mp h).1

theorem Opens.exists_name {tokens : List Token} {i : Nat} (h : Opens tokens i) :
    ∃ name, textAt? tokens (nameIndex tokens i) = some name := by
  by_cases hWord : textAt? tokens i = some "fragment"
  · rw [nameIndex, if_pos hWord]
    exact exists_textAt? (h.fragment hWord)
  · rw [nameIndex, if_neg hWord]
    exact exists_textAt? h.name

theorem candidateName?_eq_none_iff {tokens prior rest : List Token} {token : Token}
    (hTokens : tokens = prior ++ token :: rest) :
    candidateName? token rest = none ↔ ¬Opens tokens prior.length := by
  constructor
  · intro hNone hOpens
    obtain ⟨name, hName⟩ := hOpens.exists_name
    rw [(candidateName?_eq_some_iff hTokens).mpr ⟨hOpens, hName⟩] at hNone
    cases hNone
  · intro hOpens
    rw [Option.eq_none_iff_forall_ne_some]
    intro name hName
    exact hOpens ((candidateName?_eq_some_iff hTokens).mp hName).1

theorem Unbroken.mono {tokens : List Token} {i j first last : Nat} (h : Unbroken tokens i j)
    (hFirst : i ≤ first) (hLast : last ≤ j) : Unbroken tokens first last :=
  fun k hLower hUpper => h k (by omega) (by omega)

theorem unbroken_append {part : List Token} (hPart : ∀ token ∈ part, token.kind ≠ .semicolon)
    (prior rest : List Token) :
    Unbroken (prior ++ (part ++ rest)) prior.length (prior.length + part.length) := by
  intro k hLower hUpper
  obtain ⟨i, rfl⟩ := Nat.exists_eq_add_of_le hLower
  have hIndex : i < part.length := by omega
  rw [kindAt?_append, kindAt?_append_left hIndex, ne_eq, Option.some.injEq]
  exact hPart _ (List.getElem_mem hIndex)

theorem idle_zero (tokens : List Token) : Idle tokens 0 :=
  fun _ hIndex => absurd hIndex (Nat.not_lt_zero _)

theorem Idle.succ {tokens : List Token} {i : Nat} (h : Idle tokens i) (hOpens : ¬Opens tokens i) :
    Idle tokens (i + 1) := by
  intro j hIndex hSegment
  rcases Nat.lt_succ_iff_lt_or_eq.mp hIndex with hEarlier | rfl
  · exact h j hEarlier (hSegment.mono (Nat.le_refl _) (Nat.le_succ _))
  · exact hOpens

/-- A semicolon closes whatever was open. -/
theorem idle_succ_of_semicolon {tokens : List Token} {i : Nat}
    (h : kindAt? tokens i = some .semicolon) : Idle tokens (i + 1) := by
  intro j hIndex hSegment
  exact absurd h (hSegment i (by omega) (by omega))

theorem IsCandidate.not_idle {tokens : List Token} {start stop : Nat}
    (h : IsCandidate tokens start stop) : ¬Idle tokens stop :=
  fun hIdle => hIdle start h.before h.segment h.opens

/-- A candidate that begins where none is open is the one of its segment. -/
theorem Opens.isCandidate_iff {tokens : List Token} {i start stop : Nat} (hOpens : Opens tokens i)
    (hIdle : Idle tokens i) (hBefore : i < stop) (hSegment : Unbroken tokens i stop) :
    IsCandidate tokens start stop ↔ start = i := by
  constructor
  · intro hCandidate
    rcases Nat.lt_trichotomy start i with hLess | hSame | hGreater
    · have hPart := hCandidate.segment.mono (Nat.le_refl _) (Nat.le_of_lt hBefore)
      exact absurd hCandidate.opens (hIdle start hLess hPart)
    · exact hSame
    · exact absurd hOpens (hCandidate.first i hGreater hSegment)
  · rintro rfl
    refine ⟨hOpens, hBefore, hSegment, ?_⟩
    intro j hLess hWhole
    exact hIdle j hLess (hWhole.mono (Nat.le_refl _) (Nat.le_of_lt hBefore))

end RuleOutline
