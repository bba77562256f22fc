import RuleOutline.Outline

/-! The walk over tokens as a derivation: at each token it passes on, or it follows a candidate to
its semicolon. What holds of outlines is proved by induction on it. -/
namespace RuleOutline

theorem cutAt?_eq_none_iff {α : Type} {p : α → Bool} {xs : List α} :
    cutAt? p xs = none ↔ ∀ x ∈ xs, p x = false := by
  induction xs with
  | nil => simp [cutAt?]
  | cons x xs ih =>
      rw [cutAt?]
      cases hx : p x with
      | true => simp [hx]
      | false => simp [hx, ih]

/-- A list is cut at the first member with a property, wherever that stands. -/
theorem cutAt?_append {α : Type} {p : α → Bool} {before : List α} {found : α}
    (hBefore : ∀ x ∈ before, p x = false) (hFound : p found = true) (after : List α) :
    cutAt? p (before ++ found :: after) = some (before, found, after) := by
  induction before with
  | nil => simp [cutAt?, hFound]
  | cons x before ih =>
      have hTail := ih (fun y hy => hBefore y (List.mem_cons_of_mem _ hy))
      simp [cutAt?, hBefore x (List.mem_cons_self ..), hTail]

theorem cutAt?_kind {kind : Kind} {tokens before after : List Token} {found : Token}
    (h : cutAt? (·.kind == kind) tokens = some (before, found, after)) :
    tokens = before ++ found :: after ∧ found.kind = kind ∧
      ∀ token ∈ before, token.kind ≠ kind := by
  obtain ⟨hTokens, hFound, hBefore⟩ := cutAt?_eq_some h
  exact ⟨hTokens, beq_iff_eq.mp hFound, fun token hToken => beq_eq_false_iff_ne.mp
    (hBefore token hToken)⟩

theorem cutAt?_kind_append {kind : Kind} {before : List Token} {found : Token}
    (hBefore : ∀ token ∈ before, token.kind ≠ kind) (hFound : found.kind = kind)
    (after : List Token) :
    cutAt? (·.kind == kind) (before ++ found :: after) = some (before, found, after) :=
  cutAt?_append (fun token hToken => beq_eq_false_iff_ne.mpr (hBefore token hToken))
    (beq_iff_eq.mpr hFound) after

theorem cutAt?_kind_eq_none_iff {kind : Kind} {tokens : List Token} :
    cutAt? (·.kind == kind) tokens = none ↔ ∀ token ∈ tokens, token.kind ≠ kind := by
  rw [cutAt?_eq_none_iff]
  simp only [beq_eq_false_iff_ne]

/-- The number of the last of so many rules. -/
def lastOf (rules : Nat) : Option Nat :=
  if rules = 0 then none else some (rules - 1)

/-- The walk from a token on, with its index and the number of rules before it. A candidate whose
semicolon is missing ends the walk. -/
inductive Walk (markers : Markers) : Nat → Nat → List Token → Outline → Prop where
  | done (index rules : Nat) : Walk markers index rules [] ⟨[], []⟩
  | pass {index rules : Nat} {token : Token} {rest : List Token} {later : Outline}
      (hName : candidateName? token rest = none)
      (tail : Walk markers (index + 1) rules rest later) :
      Walk markers index rules (token :: rest)
        ⟨later.rules, (groupAt? markers index rules token).toList ++ later.groups⟩
  | unfinished {index rules : Nat} {token : Token} {rest : List Token} {name : String}
      (hName : candidateName? token rest = some name)
      (hRest : ∀ other ∈ rest, other.kind ≠ .semicolon) :
      Walk markers index rules (token :: rest) ⟨[], []⟩
  | dropped {index rules : Nat} {token semicolon : Token} {inner after : List Token}
      {name : String} {later : Outline}
      (hName : candidateName? token (inner ++ semicolon :: after) = some name)
      (hInner : ∀ other ∈ inner, other.kind ≠ .semicolon)
      (hSemicolon : semicolon.kind = .semicolon)
      (hColon : ∀ other ∈ inner, other.kind ≠ .colon)
      (tail : Walk markers (index + inner.length + 2) rules after later) :
      Walk markers index rules (token :: (inner ++ semicolon :: after)) later
  | rule {index rules : Nat} {token colon semicolon : Token} {heading body after : List Token}
      {name : String} {later : Outline}
      (hName : candidateName? token (heading ++ colon :: body ++ semicolon :: after) = some name)
      (hInner : ∀ other ∈ heading ++ colon :: body, other.kind ≠ .semicolon)
      (hSemicolon : semicolon.kind = .semicolon)
      (hHeading : ∀ other ∈ heading, other.kind ≠ .colon) (hColon : colon.kind = .colon)
      (tail : Walk markers (index + (heading ++ colon :: body).length + 2) (rules + 1) after
        later) :
      Walk markers index rules (token :: (heading ++ colon :: body ++ semicolon :: after))
        ⟨⟨name, index, token, heading, colon, body, semicolon, []⟩ :: later.rules, later.groups⟩

/-- The outline of tokens is found by a walk over them. -/
theorem walk_outlineFrom (markers : Markers) (index rules : Nat) (tokens : List Token) :
    Walk markers index rules tokens (outlineFrom markers index rules tokens) := by
  fun_induction outlineFrom markers index rules tokens with
  | case1 => exact .done _ _
  | case2 index rules token rest hName later hGroup ih =>
      have hPass := Walk.pass hName ih
      rwa [hGroup] at hPass
  | case3 index rules token rest hName later group hGroup ih =>
      have hPass := Walk.pass hName ih
      rwa [hGroup] at hPass
  | case4 index rules token rest name hName hCut =>
      exact .unfinished hName (cutAt?_kind_eq_none_iff.mp hCut)
  | case5 index rules token rest name hName inner semicolon after hCut _ hColon ih =>
      obtain ⟨rfl, hSemicolon, hInner⟩ := cutAt?_kind hCut
      exact .dropped hName hInner hSemicolon (cutAt?_kind_eq_none_iff.mp hColon) ih
  | case6 index rules token rest name hName inner semicolon after hCut _ heading colon body hColon
      later rule ih =>
      obtain ⟨rfl, hSemicolon, hInner⟩ := cutAt?_kind hCut
      obtain ⟨rfl, hKind, hHeading⟩ := cutAt?_kind hColon
      exact .rule hName hInner hSemicolon hHeading hKind ih

theorem walk_outlineOf (markers : Markers) (tokens : List Token) :
    Walk markers 0 0 tokens (outlineOf markers tokens) :=
  walk_outlineFrom markers 0 0 tokens

/-- Nothing has been found yet about the rules of a walk. -/
theorem Walk.findings_eq_nil {markers : Markers} {index rules : Nat} {tokens : List Token}
    {outline : Outline} (h : Walk markers index rules tokens outline) :
    ∀ rule ∈ outline.rules, rule.findings = [] := by
  induction h with
  | done => simp
  | pass hName tail ih => exact ih
  | unfinished => simp
  | dropped hName hInner hSemicolon hColon tail ih => exact ih
  | rule hName hInner hSemicolon hHeading hColon tail ih =>
      exact List.forall_mem_cons.mpr ⟨rfl, ih⟩

/-- No two walks over the same tokens find different outlines. -/
theorem Walk.eq_outlineFrom {markers : Markers} {index rules : Nat} {tokens : List Token}
    {outline : Outline} (h : Walk markers index rules tokens outline) :
    outline = outlineFrom markers index rules tokens := by
  induction h with
  | done index rules => rw [outlineFrom]
  | @pass index rules token rest later hName tail ih =>
      rw [outlineFrom, hName, ← ih]
      cases hGroup : groupAt? markers index rules token <;> simp
  | unfinished hName hRest =>
      rw [outlineFrom, hName]
      simp only
      split
      · rfl
      · rename_i hCut
        rw [cutAt?_kind_eq_none_iff.mpr hRest] at hCut
        cases hCut
  | dropped hName hInner hSemicolon hColon tail ih =>
      rw [outlineFrom, hName]
      simp only
      split
      · rename_i hCut
        rw [cutAt?_kind_append hInner hSemicolon] at hCut
        cases hCut
      · rename_i hCut
        rw [cutAt?_kind_append hInner hSemicolon] at hCut
        cases hCut
        rw [cutAt?_kind_eq_none_iff.mpr hColon]
        exact ih
  | rule hName hInner hSemicolon hHeading hColon tail ih =>
      rw [outlineFrom, hName]
      simp only
      split
      · rename_i hCut
        rw [cutAt?_kind_append hInner hSemicolon] at hCut
        cases hCut
      · rename_i hCut
        rw [cutAt?_kind_append hInner hSemicolon] at hCut
        cases hCut
        rw [cutAt?_kind_append hHeading hColon, ← ih]

end RuleOutline
