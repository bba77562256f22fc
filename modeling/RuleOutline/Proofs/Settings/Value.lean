import RuleOutline.Settings.KeyPath

/-! Values by the names that lead to them. What is set under one name is found there, and what
stands under other names stays as it was. -/
namespace RuleOutline.Settings

open Unicode

namespace Value

/-- What a table has under a name in small letters. -/
def at? (target : Value) (name : String) : Option Value :=
  target.asTable.1.lookup name

section Entry

variable {target value : Value} {name other : String}

theorem lookup_cons_eq (entry : String × Value) (entries : List (String × Value)) (other : String) :
    (entry :: entries).lookup other =
      if other = entry.1 then some entry.2 else entries.lookup other := by
  rw [List.lookup_cons]
  by_cases hName : other = entry.1
  · simp [hName]
  · simp [hName, beq_false_of_ne hName]

theorem lookup_put (name : String) (value : Value) (entries : List (String × Value))
    (other : String) :
    (put name value entries).lookup other =
      if other = name then some value else entries.lookup other := by
  induction entries with
  | nil => exact lookup_cons_eq (name, value) [] other
  | cons entry entries ih =>
      rw [put]
      split
      next hEntry =>
        rw [lookup_cons_eq, lookup_cons_eq, hEntry]
        split <;> rfl
      next hEntry =>
        rw [lookup_cons_eq, lookup_cons_eq, ih]
        split
        next hOther =>
          rw [if_neg (hOther ▸ hEntry)]
        next => rfl

theorem at?_changeEntry (name : String) (f : Option Value → Value) (target : Value)
    (other : String) :
    (changeEntry name f target).at? other =
      if other = lowerCase name then some (f (target.at? (lowerCase name)))
      else target.at? other :=
  lookup_put _ _ _ _

theorem at?_changeEntry_self (name : String) (f : Option Value → Value) (target : Value) :
    (changeEntry name f target).at? (lowerCase name) = some (f (target.at? (lowerCase name))) := by
  rw [at?_changeEntry, if_pos rfl]

theorem at?_changeEntry_of_ne (f : Option Value → Value) (target : Value)
    (h : lowerCase name ≠ other) : (changeEntry name f target).at? other = target.at? other := by
  rw [at?_changeEntry, if_neg h.symm]

theorem at?_merge_of_ne (target value : Value) (h : lowerCase name ≠ other) :
    (merge target name value).at? other = target.at? other := by
  cases value with
  | scalar content origin =>
      rw [merge]
      exact at?_changeEntry_of_ne _ target h
  | list items origin =>
      rw [merge]
      exact at?_changeEntry_of_ne _ target h
  | table entries origin =>
      rw [merge]
      exact at?_changeEntry_of_ne _ target h

theorem at?_merge_scalar (target : Value) (name : String) (content : Scalar)
    (origin : Option String) :
    (merge target name (.scalar content origin)).at? (lowerCase name) =
      some (.scalar content origin) := by
  rw [merge]
  exact at?_changeEntry_self name _ target

theorem at?_merge_table (target : Value) (name : String) (entries : List (String × Value))
    (origin : Option String) :
    (merge target name (.table entries origin)).at? (lowerCase name) =
      some (mergeAll ((target.at? (lowerCase name)).getD emptyTable) entries) := by
  rw [merge]
  exact at?_changeEntry_self name _ target

theorem at?_assign_cons (target value : Value) (name : String) (step : PathStep)
    (steps : List PathStep) :
    (assign target value (.name name :: step :: steps)).at? (lowerCase name) =
      some (assign ((target.at? (lowerCase name)).getD null) value (step :: steps)) := by
  rw [assign]
  · exact at?_changeEntry_self name _ target
  · simp

/-- A path that begins with another name does not matter. -/
theorem at?_assign_of_ne (target value : Value) (steps : List PathStep)
    (h : lowerCase name ≠ other) :
    (assign target value (.name name :: steps)).at? other = target.at? other := by
  cases steps with
  | nil =>
      rw [assign]
      exact at?_merge_of_ne target value h
  | cons step steps =>
      rw [assign]
      · exact at?_changeEntry_of_ne _ target h
      · simp

theorem at?_mergeAll_of_forall_ne (target : Value) {entries : List (String × Value)}
    (h : ∀ entry ∈ entries, lowerCase entry.1 ≠ other) :
    (mergeAll target entries).at? other = target.at? other := by
  induction entries generalizing target with
  | nil => rw [mergeAll]
  | cons entry entries ih =>
      obtain ⟨hEntry, hEntries⟩ := List.forall_mem_cons.mp h
      rw [mergeAll, ih _ hEntries, at?_merge_of_ne _ _ hEntry]

end Entry

end Value

section Path

variable {name : String} {c : Char}

/-- The path that a name in a file is taken for. A name that is not written as a path counts as a
single step. -/
def pathOf (name : String) : List PathStep :=
  match readPath name with
  | .ok path => path
  | .error _ => [.name name]

theorem readSteps_nil (fuel : Nat) : readSteps fuel [] = .ok [] := by
  cases fuel <;> rfl

theorem readSteps_of_ne (hPoint : c ≠ '.') (hBracket : c ≠ '[') (fuel : Nat) (cs : List Char) :
    readSteps (fuel + 1) (c :: cs) = .error .unexpected := by
  rw [readSteps]
  · exact List.cons_ne_nil c cs
  · exact fun rest hText => hPoint (List.cons.inj hText).1
  · exact fun rest hText => hBracket (List.cons.inj hText).1

/-- A name without points and brackets is a single step, whether or not it is written as one. -/
theorem pathOf_eq_singleton (h : ∀ c ∈ name.toList, c ≠ '.' ∧ c ≠ '[') :
    pathOf name = [.name name] := by
  have hWhole : name.toList.takeWhile isNameChar ++ name.toList.dropWhile isNameChar =
      name.toList := List.takeWhile_append_dropWhile
  cases hEmpty : (name.toList.takeWhile isNameChar).isEmpty with
  | true =>
      have hRead : readPath name = .error .noName := by
        rw [readPath, if_pos hEmpty]
      rw [pathOf, hRead]
  | false =>
      have hRead : readPath name = (do
          let steps ← readSteps name.toList.length (name.toList.dropWhile isNameChar)
          .ok (.name (.ofList (name.toList.takeWhile isNameChar)) :: steps)) := by
        rw [readPath, if_neg (by simp [hEmpty])]
      cases hRest : name.toList.dropWhile isNameChar with
      | nil =>
          rw [hRest, List.append_nil] at hWhole
          rw [hRest, hWhole, readSteps_nil, String.ofList_toList] at hRead
          rw [pathOf, hRead]
          rfl
      | cons c rest =>
          obtain ⟨hPoint, hBracket⟩ := h c (by rw [← hWhole, hRest]; simp)
          obtain ⟨fuel, hFuel⟩ : ∃ fuel, name.toList.length = fuel + 1 :=
            Nat.exists_eq_add_one_of_ne_zero (by rw [← hWhole, hRest]; simp)
          rw [hRest, hFuel, readSteps_of_ne hPoint hBracket] at hRead
          rw [pathOf, hRead]
          rfl

theorem mem_lowerFrom {before cs : List Char} (hSelf : lowerChar c = [c]) (hSigma : c.toNat ≠ 0x3A3)
    (h : c ∈ cs) : c ∈ lowerFrom before cs := by
  induction cs generalizing before with
  | nil => cases h
  | cons d cs ih =>
      rw [lowerFrom]
      rcases List.mem_cons.mp h with rfl | h
      · rw [if_neg (by simp [hSigma]), hSelf]
        exact List.mem_append_left _ (List.mem_singleton_self c)
      · split
        · exact List.mem_cons_of_mem _ (ih h)
        · exact List.mem_append_right _ (ih h)

/-- A point or bracket is still there in small letters. -/
theorem pathOf_eq_of_lowerCase (h : ∀ c ∈ (lowerCase name).toList, c ≠ '.' ∧ c ≠ '[') :
    pathOf name = [.name name] := by
  apply pathOf_eq_singleton
  intro c hc
  constructor
  · rintro rfl
    have hMem : '.' ∈ (lowerCase name).toList := by
      rw [lowerCase, String.toList_ofList]
      exact mem_lowerFrom (by decide) (by decide) hc
    exact (h _ hMem).1 rfl
  · rintro rfl
    have hMem : '[' ∈ (lowerCase name).toList := by
      rw [lowerCase, String.toList_ofList]
      exact mem_lowerFrom (by decide) (by decide) hc
    exact (h _ hMem).2 rfl

end Path

end RuleOutline.Settings
