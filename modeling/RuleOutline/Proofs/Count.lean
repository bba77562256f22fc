/-! Counting along an order. Where a property that holds of a member holds of all members before it,
the members that have it are the first ones, and their number tells which they are. -/
namespace RuleOutline

theorem lt_countP_iff {α : Type} {p : α → Bool} {xs : List α}
    (hOrder : xs.Pairwise fun x y => p y = true → p x = true) {i : Nat} {x : α}
    (hMember : xs[i]? = some x) : i < xs.countP p ↔ p x = true := by
  induction xs generalizing i with
  | nil => cases hMember
  | cons first xs ih =>
      have ⟨hFirst, hLater⟩ := List.pairwise_cons.mp hOrder
      by_cases hHere : p first = true
      · rw [List.countP_cons_of_pos hHere]
        cases i with
        | zero =>
            obtain rfl := Option.some.inj hMember
            simp [hHere]
        | succ i =>
            rw [← ih hLater hMember]
            omega
      · have hNone : (first :: xs).countP p = 0 := by
          rw [List.countP_eq_zero, List.forall_mem_cons]
          exact ⟨hHere, fun y hy h => hHere (hFirst y hy h)⟩
        have hNot := List.countP_eq_zero.mp hNone x (List.mem_of_getElem? hMember)
        simp [hNone, hNot]

end RuleOutline
