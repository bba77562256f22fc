import RuleOutline.Proofs.Outline.Alternatives
import RuleOutline.Proofs.Outline.Candidate

/-! The pieces of a body by their places. They lie between the bars that stand outside of all
parentheses, and the cut at these bars finds them. -/
namespace RuleOutline

/-- A bar where as many parentheses have been closed as opened. -/
def IsBar (body : List Token) (i : Nat) : Prop :=
  kindAt? body i = some .pipe ∧ depthOf ((body.take i).map (·.kind)) = 0

/-- The pieces of a body from an index on: what comes before the next bar, and then the pieces
behind that bar, or all that is left. -/
inductive Pieces (body : List Token) : Nat → List (List Token) → Prop where
  | last {start : Nat} (hNone : ∀ i, start ≤ i → ¬IsBar body i) :
      Pieces body start [body.drop start]
  | cut {start stop : Nat} {pieces : List (List Token)} (hOrder : start ≤ stop)
      (hBar : IsBar body stop) (hFirst : ∀ i, start ≤ i → i < stop → ¬IsBar body i)
      (tail : Pieces body (stop + 1) pieces) :
      Pieces body start (body.extract start stop :: pieces)

variable {body : List Token} {start : Nat} {pieces : List (List Token)}

/-- There is one way to name the pieces. -/
theorem Pieces.eq (h : Pieces body start pieces) {other : List (List Token)}
    (hOther : Pieces body start other) : pieces = other := by
  induction h generalizing other with
  | last hNone =>
      cases hOther with
      | last => rfl
      | cut hOrder hBar => exact absurd hBar (hNone _ hOrder)
  | @cut start stop pieces hOrder hBar hFirst tail ih =>
      cases hOther with
      | last hNone => exact absurd hBar (hNone _ hOrder)
      | @cut _ place _ hPlace hSame hBefore later =>
          rcases Nat.lt_trichotomy stop place with hLess | rfl | hGreater
          · exact absurd hBar (hBefore stop hOrder hLess)
          · rw [ih later]
          · exact absurd hSame (hFirst place hPlace hGreater)

/-- Pieces have no tokens but those of the body. -/
theorem Pieces.subset (h : Pieces body start pieces) : ∀ piece ∈ pieces, piece ⊆ body := by
  induction h with
  | last hNone => exact List.forall_mem_singleton.mpr (List.drop_subset _ _)
  | cut hOrder hBar hFirst tail ih =>
      apply List.forall_mem_cons.mpr ⟨?_, ih⟩
      rw [List.extract_eq_take_drop]
      exact List.Subset.trans (List.take_subset _ _) (List.drop_subset _ _)

theorem not_isBar_of_length_le {i : Nat} (h : body.length ≤ i) : ¬IsBar body i := by
  rintro ⟨hKind, -⟩
  rw [kindAt?, List.getElem?_eq_none h] at hKind
  cases hKind

theorem isBar_append_iff {before rest : List Token} {token : Token} :
    IsBar (before ++ token :: rest) before.length ↔
      token.kind = .pipe ∧ depthOf (before.map (·.kind)) = 0 := by
  have hKind : kindAt? (before ++ token :: rest) before.length = some token.kind :=
    kindAt?_append before (token :: rest) 0
  rw [IsBar, hKind, List.take_left, Option.some.injEq]

/-- A token that is no bar belongs to the first piece behind it. -/
theorem Pieces.grow {token : Token} {rest : List Token} (hToken : body.drop start = token :: rest)
    (hBar : ¬IsBar body start) (h : Pieces body (start + 1) pieces) :
    Pieces body start (Rule.growFirst token pieces) := by
  have hHere : ∀ i, start ≤ i → i < start + 1 → ¬IsBar body i := by
    intro i hLower hUpper
    rwa [Nat.le_antisymm (Nat.le_of_lt_succ hUpper) hLower]
  have hRest : rest = body.drop (start + 1) := by
    rw [← List.drop_drop, hToken, List.drop_one, List.tail_cons]
  cases h with
  | last hNone =>
      rw [Rule.growFirst, ← hRest, ← hToken]
      refine .last fun i hLower => ?_
      rcases Nat.lt_or_ge i (start + 1) with hLess | hLater
      · exact hHere i hLower hLess
      · exact hNone i hLater
  | @cut _ stop pieces hOrder hStop hFirst tail =>
      have hPiece : body.extract start stop = token :: body.extract (start + 1) stop := by
        have hLength : stop - start = stop - (start + 1) + 1 := by omega
        rw [List.extract_eq_take_drop, List.extract_eq_take_drop, hToken, ← hRest, hLength,
          List.take_succ_cons]
      rw [Rule.growFirst, ← hPiece]
      refine .cut (Nat.le_of_succ_le hOrder) hStop (fun i hLower hUpper => ?_) tail
      rcases Nat.lt_or_ge i (start + 1) with hLess | hLater
      · exact hHere i hLower hLess
      · exact hFirst i hLater hUpper

/-- The cut goes on from any index with the depth that has been reached there. -/
theorem pieces_splitPipes_append (before rest : List Token) :
    Pieces (before ++ rest) before.length
      (Rule.splitPipes (depthOf (before.map (·.kind))) rest) := by
  induction rest generalizing before with
  | nil =>
      rw [List.append_nil, Rule.splitPipes]
      have hNone := Pieces.last fun i => @not_isBar_of_length_le before i
      rwa [List.drop_length] at hNone
  | cons token rest ih =>
      have hNext := ih (before ++ [token])
      rw [List.append_assoc, List.singleton_append, List.length_append, List.length_singleton,
        List.map_append, List.map_singleton, depthOf_append] at hNext
      by_cases hBar : IsBar (before ++ token :: rest) before.length
      · obtain ⟨hKind, hDepth⟩ := isBar_append_iff.mp hBar
        rw [hDepth, Rule.splitPipes_bar hKind]
        rw [hDepth, hKind] at hNext
        have hCut := Pieces.cut (Nat.le_refl _) hBar (fun i hLower hUpper => by omega) hNext
        rwa [List.extract_eq_take_drop, Nat.sub_self, List.take_zero] at hCut
      · rw [Rule.splitPipes_cons]
        · exact hNext.grow List.drop_left hBar
        · intro hKind hDepth
          exact hBar (isBar_append_iff.mpr ⟨hKind, hDepth⟩)

/-- A body is cut into its pieces. -/
theorem pieces_splitPipes (body : List Token) : Pieces body 0 (Rule.splitPipes 0 body) :=
  pieces_splitPipes_append [] body

theorem Rule.mem_body_of_mem_alternative {rule : Rule} {alternative : List Token} {token : Token}
    (hAlternative : alternative ∈ rule.alternatives) (hToken : token ∈ alternative) :
    token ∈ rule.body ∧ token.kind.isOpaque = false := by
  have hPiece := dropEmptyLast_subset _ hAlternative
  have hShape := (pieces_splitPipes rule.shape).subset alternative hPiece hToken
  simpa [shape] using hShape

end RuleOutline
