import RuleOutline.Rule

/-! How a body is cut into alternatives. Only its bars and parentheses bear on that: a bar cuts
where as many parentheses have been closed as opened. -/
namespace RuleOutline

/-- How many more parentheses are opened than closed. -/
def depthOf (kinds : List Kind) : Int :=
  kinds.count .openParen - kinds.count .closeParen

@[simp] theorem depthOf_nil : depthOf [] = 0 := rfl

theorem depthOf_append (first second : List Kind) :
    depthOf (first ++ second) = depthOf first + depthOf second := by
  simp only [depthOf, List.count_append]
  omega

theorem depthOf_cons (kind : Kind) (kinds : List Kind) :
    depthOf (kind :: kinds) = depthOf [kind] + depthOf kinds :=
  depthOf_append [kind] kinds

namespace Rule

variable {depth : Int} {token : Token} {tokens : List Token}

theorem splitPipes_bar (hBar : token.kind = .pipe) :
    splitPipes 0 (token :: tokens) = [] :: splitPipes 0 tokens := by
  simp [splitPipes, hBar]

theorem splitPipes_cons (hBar : token.kind = .pipe → depth ≠ 0) :
    splitPipes depth (token :: tokens) =
      growFirst token (splitPipes (depth + depthOf [token.kind]) tokens) := by
  rw [splitPipes]
  cases hKind : token.kind with
  | pipe => simp [hBar hKind, depthOf]
  | openParen => rfl
  | closeParen => rfl
  | _ => simp [depthOf]

theorem foldr_growFirst (part piece : List Token) (pieces : List (List Token)) :
    part.foldr growFirst (piece :: pieces) = (part ++ piece) :: pieces := by
  induction part with
  | nil => rfl
  | cons token part ih => rw [List.foldr_cons, ih, growFirst, List.cons_append]

/-- A part of a body without bars that cut goes into the first piece as a whole. -/
theorem splitPipes_append {part : List Token}
    (hBars : ∀ before after, part.map (·.kind) = before ++ .pipe :: after →
      depth + depthOf before ≠ 0) (rest : List Token) :
    splitPipes depth (part ++ rest) =
      part.foldr growFirst (splitPipes (depth + depthOf (part.map (·.kind))) rest) := by
  induction part generalizing depth with
  | nil => simp
  | cons token part ih =>
      -- Bars are looked for at depths counted from the beginning, so the depth here goes along.
      have hHere : token.kind = .pipe → depth ≠ 0 := by
        intro hKind
        have hNow := hBars [] (part.map (·.kind)) (by simp [hKind])
        simpa using hNow
      have hLater : ∀ before after, part.map (·.kind) = before ++ .pipe :: after →
          depth + depthOf [token.kind] + depthOf before ≠ 0 := by
        intro before after hPart
        have hNow := hBars (token.kind :: before) after (by simp [hPart])
        rwa [depthOf_cons, ← Int.add_assoc] at hNow
      rw [List.cons_append, splitPipes_cons hHere, ih hLater, List.map_cons,
        depthOf_cons token.kind (part.map _), ← Int.add_assoc, List.foldr_cons]

/-- A part that closes what it opens is a piece of its own before a bar, and at the end. -/
theorem splitPipes_piece {part : List Token} (hBalanced : depthOf (part.map (·.kind)) = 0)
    (hBars : ∀ before after, part.map (·.kind) = before ++ .pipe :: after → depthOf before ≠ 0) :
    splitPipes 0 part = [part] ∧ ∀ bar rest, bar.kind = .pipe →
      splitPipes 0 (part ++ bar :: rest) = part :: splitPipes 0 rest := by
  have hSplit : ∀ rest, splitPipes 0 (part ++ rest) = part.foldr growFirst (splitPipes 0 rest) := by
    intro rest
    rw [splitPipes_append (by simpa using hBars), hBalanced, Int.add_zero]
  constructor
  · have hWhole := hSplit []
    rwa [List.append_nil, splitPipes, foldr_growFirst, List.append_nil] at hWhole
  · intro bar rest hBar
    rw [hSplit, splitPipes_bar hBar, foldr_growFirst, List.append_nil]

theorem actionBlocks_eq_nil {previous : Token} (h : ∀ token ∈ tokens, token.kind ≠ .block) :
    actionBlocks previous tokens = [] := by
  induction tokens generalizing previous with
  | nil => rfl
  | cons token tokens ih =>
      obtain ⟨hToken, hTokens⟩ := List.forall_mem_cons.mp h
      rw [actionBlocks, beq_eq_false_iff_ne.mpr hToken, Bool.false_and, if_neg Bool.false_ne_true,
        ih hTokens]

section Place

variable {place : Token → Token} (hKind : ∀ token, (place token).kind = token.kind)

theorem growFirst_map (token : Token) (pieces : List (List Token)) :
    growFirst (place token) (pieces.map (·.map place)) =
      (growFirst token pieces).map (·.map place) := by
  cases pieces <;> rfl

include hKind

/-- A body is cut at the same bars wherever it stands. -/
theorem splitPipes_map (depth : Int) (tokens : List Token) :
    splitPipes depth (tokens.map place) = (splitPipes depth tokens).map (·.map place) := by
  induction tokens generalizing depth with
  | nil => rfl
  | cons token tokens ih =>
      by_cases hBar : token.kind = .pipe ∧ depth = 0
      · obtain ⟨hToken, rfl⟩ := hBar
        rw [List.map_cons, splitPipes_bar hToken, splitPipes_bar ((hKind token).trans hToken), ih]
        rfl
      · rw [not_and] at hBar
        rw [List.map_cons, splitPipes_cons hBar, splitPipes_cons (by rwa [hKind]), hKind, ih,
          growFirst_map]

theorem actionBlocks_map (hText : ∀ token, (place token).text = token.text) (previous : Token)
    (tokens : List Token) :
    actionBlocks (place previous) (tokens.map place) = (actionBlocks previous tokens).map place := by
  induction tokens generalizing previous with
  | nil => rfl
  | cons token tokens ih =>
      rw [List.map_cons, actionBlocks, actionBlocks, Token.isWord, hKind, hKind, hText, ih,
        ← Token.isWord]
      split <;> rfl

end Place

theorem dropEmptyLast_map (place : Token → Token) (pieces : List (List Token)) :
    dropEmptyLast (pieces.map (·.map place)) = (dropEmptyLast pieces).map (·.map place) := by
  unfold dropEmptyLast
  rw [List.getLast?_map]
  cases pieces.getLast? with
  | none => rfl
  | some piece =>
      cases piece with
      | nil => exact (List.map_dropLast ..).symm
      | cons token piece => rfl

theorem dropEmptyLast_eq_self {pieces : List (List Token)} (h : pieces.getLast? ≠ some []) :
    dropEmptyLast pieces = pieces := by
  unfold dropEmptyLast
  split
  next hLast => exact absurd hLast h
  next => rfl

theorem dropEmptyLast_subset (pieces : List (List Token)) : dropEmptyLast pieces ⊆ pieces := by
  unfold dropEmptyLast
  split
  next => exact List.dropLast_subset pieces
  next => exact List.Subset.refl pieces

end Rule

end RuleOutline
