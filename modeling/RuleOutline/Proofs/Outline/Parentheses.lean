import RuleOutline.Proofs.Outline.Alternatives

/-! Parentheses that match. Where they match in a body, they match in each of its pieces, and what
is put between parentheses of its own has no bar that cuts. -/
namespace RuleOutline

/-- So many parentheses are open before the first kind; none is closed that is not open, and none
is left open. -/
def Nested (depth : Int) (kinds : List Kind) : Prop :=
  depth + depthOf kinds = 0 ∧ ∀ before, before <+: kinds → 0 ≤ depth + depthOf before

/-- So many parentheses are open before the first kind, and no bar stands where none is. -/
def Sheltered (depth : Int) (kinds : List Kind) : Prop :=
  ∀ before after, kinds = before ++ .pipe :: after → depth + depthOf before ≠ 0

variable {depth : Int} {kind : Kind} {kinds first second rest : List Kind}

section Nested

theorem nested_nil : Nested depth [] ↔ depth = 0 := by
  constructor
  · rintro ⟨hTotal, -⟩
    simpa using hTotal
  · rintro rfl
    refine ⟨rfl, ?_⟩
    intro before hBefore
    rw [List.prefix_nil.mp hBefore]
    exact Int.le_refl 0

theorem nested_cons :
    Nested depth (kind :: kinds) ↔ 0 ≤ depth ∧ Nested (depth + depthOf [kind]) kinds := by
  constructor
  · rintro ⟨hTotal, hPrefix⟩
    refine ⟨by simpa using hPrefix [] List.nil_prefix, ?_, ?_⟩
    · rwa [Int.add_assoc, ← depthOf_cons]
    · intro before hBefore
      rw [Int.add_assoc, ← depthOf_cons]
      exact hPrefix _ (List.prefix_cons_inj kind |>.mpr hBefore)
  · rintro ⟨hOpen, hTotal, hPrefix⟩
    rw [Int.add_assoc, ← depthOf_cons] at hTotal
    refine ⟨hTotal, ?_⟩
    intro before hBefore
    rcases List.prefix_cons_iff.mp hBefore with rfl | ⟨before, rfl, hRest⟩
    · simpa using hOpen
    · rw [depthOf_cons, ← Int.add_assoc]
      exact hPrefix before hRest

theorem Nested.append (hFirst : Nested depth first) (hSecond : Nested 0 second) :
    Nested depth (first ++ second) := by
  induction first generalizing depth with
  | nil =>
      rw [nested_nil] at hFirst
      rwa [hFirst]
  | cons kind first ih =>
      obtain ⟨hOpen, hTail⟩ := nested_cons.mp hFirst
      exact nested_cons.mpr ⟨hOpen, ih hTail⟩

theorem depthOf_eq_zero_of_isOpaque (h : kind.isOpaque = true) : depthOf [kind] = 0 := by
  cases kind <;> first | rfl | cases h

/-- Blocks and comments do not matter to the parentheses around them. -/
theorem Nested.filter_visible {tokens : List Token} (h : Nested depth (tokens.map (·.kind))) :
    Nested depth ((tokens.filter (!·.kind.isOpaque)).map (·.kind)) := by
  induction tokens generalizing depth with
  | nil => exact h
  | cons token tokens ih =>
      obtain ⟨hOpen, hTail⟩ := nested_cons.mp h
      cases hToken : token.kind.isOpaque with
      | true =>
          rw [depthOf_eq_zero_of_isOpaque hToken, Int.add_zero] at hTail
          rw [List.filter_cons_of_neg (by simp [hToken])]
          exact ih hTail
      | false =>
          rw [List.filter_cons_of_pos (by simp [hToken])]
          exact nested_cons.mpr ⟨hOpen, ih hTail⟩

/-- The first piece closes what is open, and every other opens and closes its own. -/
theorem Nested.splitPipes {tokens : List Token} (h : Nested depth (tokens.map (·.kind))) :
    ∃ piece pieces, Rule.splitPipes depth tokens = piece :: pieces ∧
      Nested depth (piece.map (·.kind)) ∧
      ∀ other ∈ pieces, Nested 0 (other.map (·.kind)) := by
  induction tokens generalizing depth with
  | nil => exact ⟨[], [], rfl, h, by simp⟩
  | cons token tokens ih =>
      obtain ⟨hOpen, hTail⟩ := nested_cons.mp h
      have hTail : Nested (depth + depthOf [token.kind]) (tokens.map (·.kind)) := hTail
      obtain ⟨piece, pieces, hSplit, hPiece, hPieces⟩ := ih hTail
      by_cases hBar : token.kind = .pipe ∧ depth = 0
      · obtain ⟨hKind, rfl⟩ := hBar
        rw [hKind] at hSplit hPiece
        refine ⟨[], piece :: pieces, ?_, nested_nil.mpr rfl, ?_⟩
        · rw [Rule.splitPipes_bar hKind]
          exact congrArg _ hSplit
        · exact List.forall_mem_cons.mpr ⟨hPiece, hPieces⟩
      · rw [not_and] at hBar
        refine ⟨token :: piece, pieces, ?_, nested_cons.mpr ⟨hOpen, hPiece⟩, hPieces⟩
        rw [Rule.splitPipes_cons hBar, hSplit, Rule.growFirst]

end Nested

section Sheltered

theorem sheltered_nil (depth : Int) : Sheltered depth [] := by
  intro before after hKinds
  cases before <;> cases hKinds

theorem sheltered_cons :
    Sheltered depth (kind :: kinds) ↔
      (kind = .pipe → depth ≠ 0) ∧ Sheltered (depth + depthOf [kind]) kinds := by
  constructor
  · intro h
    refine ⟨?_, ?_⟩
    · rintro rfl
      simpa using h [] kinds rfl
    · rintro before after rfl
      rw [Int.add_assoc, ← depthOf_cons]
      exact h (kind :: before) after rfl
  · rintro ⟨hHere, hLater⟩ before after hKinds
    cases before with
    | nil =>
        obtain ⟨rfl, -⟩ := List.cons.inj hKinds
        simpa using hHere rfl
    | cons other before =>
        obtain ⟨rfl, hRest⟩ := List.cons.inj hKinds
        rw [depthOf_cons, ← Int.add_assoc]
        exact hLater before after hRest

/-- What matches by itself is sheltered wherever a parenthesis is open around it. -/
theorem Nested.sheltered {around : Int} (hAround : 0 < around) (h : Nested depth kinds)
    (hRest : Sheltered around rest) : Sheltered (depth + around) (kinds ++ rest) := by
  induction kinds generalizing depth with
  | nil =>
      rw [nested_nil.mp h, Int.zero_add]
      exact hRest
  | cons kind kinds ih =>
      obtain ⟨hOpen, hTail⟩ := nested_cons.mp h
      have hNext := ih hTail
      rw [Int.add_right_comm] at hNext
      exact sheltered_cons.mpr ⟨fun _ => by omega, hNext⟩

theorem Sheltered.getElem? (h : Sheltered 0 kinds) {i : Nat} (hBar : kinds[i]? = some .pipe) :
    depthOf (kinds.take i) ≠ 0 := by
  obtain ⟨hIndex, hKind⟩ := List.getElem?_eq_some_iff.mp hBar
  have hSplit : kinds = kinds.take i ++ .pipe :: kinds.drop (i + 1) := by
    rw [← hKind, List.getElem_cons_drop, List.take_append_drop]
  simpa using h _ _ hSplit

end Sheltered

end RuleOutline
