import RuleOutline.Tree
import RuleOutline.Proofs.Outline.Groups
import RuleOutline.Proofs.Token.Layout

/-! The order of the tree view. Whatever the anchors of a snapshot are, its entries are all of its
rules and all of its groups, each in their order. In the snapshot of a document the anchors put
every group between the two rules that it stands between in the source. -/
namespace RuleOutline

section Interleaved

variable {α β γ : Type} {first : α → γ} {second : β → γ}

/-- All of the first list and all of the second one, each in its order. -/
inductive Interleaved (first : α → γ) (second : β → γ) : List α → List β → List γ → Prop where
  | done : Interleaved first second [] [] []
  | first (x : α) {xs : List α} {ys : List β} {zs : List γ}
      (tail : Interleaved first second xs ys zs) :
      Interleaved first second (x :: xs) ys (first x :: zs)
  | second (y : β) {xs : List α} {ys : List β} {zs : List γ}
      (tail : Interleaved first second xs ys zs) :
      Interleaved first second xs (y :: ys) (second y :: zs)

theorem Interleaved.front {xs : List α} {ys : List β} {zs : List γ}
    (h : Interleaved first second xs ys zs) (front : List β) :
    Interleaved first second xs (front ++ ys) (front.map second ++ zs) := by
  induction front with
  | nil => exact h
  | cons y front ih => exact .second y ih

theorem interleaved_map (first : α → γ) (second : β → γ) (ys : List β) :
    Interleaved first second [] ys (ys.map second) := by
  have hNone : Interleaved first second [] [] [] := .done
  simpa using hNone.front ys

theorem Interleaved.exists_of_mem {xs : List α} {ys : List β} {zs : List γ}
    (h : Interleaved first second xs ys zs) {z : γ} (hz : z ∈ zs) :
    (∃ x ∈ xs, z = first x) ∨ ∃ y ∈ ys, z = second y := by
  induction h with
  | done => cases hz
  | first x tail ih =>
      rcases List.mem_cons.mp hz with rfl | hz
      · exact .inl ⟨x, List.mem_cons_self .., rfl⟩
      · exact (ih hz).imp_left fun ⟨y, hy, hSame⟩ => ⟨y, List.mem_cons_of_mem _ hy, hSame⟩
  | second y tail ih =>
      rcases List.mem_cons.mp hz with rfl | hz
      · exact .inr ⟨y, List.mem_cons_self .., rfl⟩
      · exact (ih hz).imp_right fun ⟨x, hx, hSame⟩ => ⟨x, List.mem_cons_of_mem _ hx, hSame⟩

theorem Interleaved.perm {xs : List α} {ys : List β} {zs : List γ}
    (h : Interleaved first second xs ys zs) : zs.Perm (xs.map first ++ ys.map second) := by
  induction h with
  | done => exact .nil
  | first x tail ih => exact ih.cons _
  | second y tail ih => exact (ih.cons _).trans List.perm_middle.symm

end Interleaved

section Snapshot

/-- No anchor can make `interleave` lose or repeat a rule or a group. -/
theorem interleaved_interleave (number : Nat) (rules : List RuleView) (groups : List GroupView) :
    Interleaved Entry.rule Entry.group rules groups (interleave number rules groups) := by
  induction rules generalizing number groups with
  | nil => exact interleaved_map ..
  | cons rule rules ih =>
      have hTail := (ih (number + 1) (groups.dropWhile (·.anchor == some number))).front
        (groups.takeWhile (·.anchor == some number))
      rw [List.takeWhile_append_dropWhile] at hTail
      exact .first rule hTail

theorem Snapshot.interleaved_entries (snapshot : Snapshot) :
    Interleaved Entry.rule Entry.group snapshot.rules snapshot.groups snapshot.entries := by
  have hEntries := (interleaved_interleave 0 snapshot.rules
    (snapshot.groups.dropWhile (·.anchor.isNone))).front
      (snapshot.groups.takeWhile (·.anchor.isNone))
  rwa [List.takeWhile_append_dropWhile] at hEntries

end Snapshot

section Member

/-- A rule or a group of an outline, with its tokens. -/
inductive Member where
  | rule (rule : Rule)
  | group (group : Group)

/-- The index of the token that the member begins with. -/
def Member.index : Member → Nat
  | .rule found => found.index
  | .group found => found.index

/-- The token that the member begins with. A group is its comment. -/
def Member.token : Member → Token
  | .rule found => found.first
  | .group found => found.comment

/-- The member in the snapshot. -/
def Member.entry (lines : List Line) (outline : Outline) : Member → Entry
  | .rule found => .rule (.of lines found)
  | .group found => .group (.of outline found)

/-- Rules that follow so many others, and groups that all stand behind those and outside
candidates: what an outline has from some rule on. -/
structure Placed (number : Nat) (rules : List Rule) (groups : List Group) : Prop where
  apart : rules.Pairwise fun a b => a.stopIndex < b.index
  ordered : groups.Pairwise fun a b => a.index < b.index
  anchored : ∀ group ∈ groups, group.anchor = lastOf (number + rulesBefore rules group.index)
  outside : ∀ group ∈ groups, ∀ rule ∈ rules,
    ¬rule.stopIndex < group.index → group.index < rule.index

theorem placed_outlineOf (markers : Markers) (tokens : List Token) :
    Placed 0 (outlineOf markers tokens).rules (outlineOf markers tokens).groups where
  apart := (walk_outlineOf markers tokens).pairwise
  ordered := (walk_outlineOf markers tokens).groups_pairwise
  anchored group hGroup := by
    rw [Nat.zero_add]
    exact (read_of_mem_groups hGroup).2.2
  outside _ hGroup _ hRule := index_lt_of_not_stopIndex_lt hGroup hRule

variable {number : Nat} {rule : Rule} {rules : List Rule} {groups : List Group}

theorem lastOf_injective : Function.Injective lastOf := by
  intro m n h
  cases m <;> cases n <;> simp_all [lastOf]

/-- The groups that are in line for the last rule before stand before the next one. -/
theorem Placed.index_lt_of_anchor (h : Placed number (rule :: rules) groups) {group : Group}
    (hGroup : group ∈ groups) (hAnchor : group.anchor = lastOf number) :
    group.index < rule.index := by
  apply h.outside group hGroup rule (List.mem_cons_self ..)
  have hNone : rulesBefore (rule :: rules) group.index = 0 := by
    have hSame := lastOf_injective (hAnchor.symm.trans (h.anchored group hGroup))
    omega
  rw [stopIndex_lt_iff h.apart (List.getElem?_cons_zero ..), hNone]
  exact Nat.lt_irrefl 0

/-- From the first group on that is not in line for the last rule before, all groups stand behind
the next one. -/
theorem Placed.stopIndex_lt_of_mem_dropWhile (h : Placed number (rule :: rules) groups)
    {group : Group} (hGroup : group ∈ groups.dropWhile (·.anchor == lastOf number)) :
    rule.stopIndex < group.index := by
  rw [stopIndex_lt_iff h.apart (List.getElem?_cons_zero ..)]
  cases hBack : groups.dropWhile (·.anchor == lastOf number) with
  | nil => simp [hBack] at hGroup
  | cons next back =>
      have hSuffix := List.dropWhile_suffix (l := groups) (·.anchor == lastOf number)
      rw [hBack] at hGroup hSuffix
      have hNext : 0 < rulesBefore (rule :: rules) next.index := by
        have hAnchor := h.anchored next (hSuffix.subset (List.mem_cons_self ..))
        have hDiffers : next.anchor ≠ lastOf number := by
          have hHead := List.head?_dropWhile_not (·.anchor == lastOf number) groups
          simpa [hBack] using hHead
        apply Nat.pos_of_ne_zero
        intro hNone
        rw [hNone] at hAnchor
        exact hDiffers hAnchor
      have hOrder : next.index ≤ group.index := by
        rcases List.mem_cons.mp hGroup with rfl | hLater
        · exact Nat.le_refl _
        · have hPair := (List.pairwise_cons.mp (h.ordered.sublist hSuffix.sublist)).1 group hLater
          exact Nat.le_of_lt hPair
      exact Nat.lt_of_lt_of_le hNext (rulesBefore_mono _ hOrder)

theorem Placed.tail (h : Placed number (rule :: rules) groups) :
    Placed (number + 1) rules (groups.dropWhile (·.anchor == lastOf number)) := by
  have hSublist := List.dropWhile_sublist (l := groups) (·.anchor == lastOf number)
  refine ⟨h.apart.of_cons, h.ordered.sublist hSublist, ?_, ?_⟩
  · intro group hGroup
    have hStop := h.stopIndex_lt_of_mem_dropWhile hGroup
    rw [h.anchored group (hSublist.subset hGroup), rulesBefore,
      List.countP_cons_of_pos (by simpa using hStop), ← rulesBefore]
    congr 1
    omega
  · intro group hGroup other hOther
    exact h.outside group (hSublist.subset hGroup) other (List.mem_cons_of_mem _ hOther)

/-- The entries from some rule on, after those groups that are in line for the rule before, are
members in the order of their tokens. -/
theorem Placed.exists_members (lines : List Line) (outline : Outline)
    (h : Placed number rules groups) : ∃ members : List Member,
    Interleaved Member.rule Member.group rules groups members ∧
      members.map (Member.entry lines outline) =
        ((groups.map (GroupView.of outline)).takeWhile (·.anchor == lastOf number)).map .group ++
          interleave number (rules.map (RuleView.of lines))
            ((groups.map (GroupView.of outline)).dropWhile (·.anchor == lastOf number)) ∧
      members.Pairwise fun a b => a.index < b.index := by
  induction rules generalizing number groups with
  | nil =>
      refine ⟨groups.map .group, interleaved_map .., ?_, List.pairwise_map.mpr h.ordered⟩
      rw [List.map_nil, interleave, ← List.map_append, List.takeWhile_append_dropWhile,
        List.map_map, List.map_map]
      rfl
  | cons rule rules ih =>
      obtain ⟨later, hLater, hEntries, hOrder⟩ := ih h.tail
      have hInterleaved := (Interleaved.first rule hLater).front
        (groups.takeWhile (·.anchor == lastOf number))
      rw [List.takeWhile_append_dropWhile] at hInterleaved
      refine ⟨_, hInterleaved, ?_, ?_⟩
      · rw [List.takeWhile_map, List.dropWhile_map, List.map_append, List.map_map, List.map_map,
          List.map_cons, hEntries]
        rfl
      · have hBefore : ∀ group ∈ groups.takeWhile (·.anchor == lastOf number),
            group.index < rule.index := by
          intro group hGroup
          have hAnchor := List.all_eq_true.mp List.all_takeWhile group hGroup
          exact h.index_lt_of_anchor ((List.takeWhile_sublist _).subset hGroup)
            (beq_iff_eq.mp hAnchor)
        have hBehind : ∀ member ∈ later, rule.stopIndex < member.index := by
          intro member hMember
          rcases hLater.exists_of_mem hMember with ⟨other, hOther, rfl⟩ | ⟨group, hGroup, rfl⟩
          · exact (List.pairwise_cons.mp h.apart).1 other hOther
          · exact h.stopIndex_lt_of_mem_dropWhile hGroup
        have hProper := rule.index_lt_stopIndex
        refine List.pairwise_append.mpr ⟨?_, List.pairwise_cons.mpr ⟨?_, hOrder⟩, ?_⟩
        · exact List.pairwise_map.mpr (h.ordered.sublist (List.takeWhile_sublist _))
        · exact fun member hMember => Nat.lt_trans hProper (hBehind member hMember)
        · rw [List.forall_mem_map]
          intro group hGroup
          have hAhead : group.index < rule.index := hBefore group hGroup
          refine List.forall_mem_cons.mpr ⟨hAhead, ?_⟩
          intro member hMember
          have hLater : rule.stopIndex < member.index := hBehind member hMember
          show group.index < member.index
          omega

end Member

/-- The entries of the snapshot stand for all rules and groups of the document, each of which
begins with a token that starts behind those of all before it. -/
def Document.Ordered (document : Document) : Prop :=
  ∃ members : List Member,
    Interleaved Member.rule Member.group document.outline.rules document.outline.groups members ∧
      document.snapshot.entries = members.map (Member.entry document.lines document.outline) ∧
      (∀ member ∈ members, document.tokens[member.index]? = some member.token) ∧
      members.Pairwise fun a b => a.token.start < b.token.start

theorem document_ordered (markers : Markers) (source : String) :
    (Document.read markers source).Ordered := by
  obtain ⟨members, hMembers, hEntries, hOrder⟩ :=
    (placed_outlineOf markers (tokenize source)).exists_members (linesOf source)
      (outlineOf markers (tokenize source))
  have hTokens : ∀ member ∈ members, (tokenize source)[member.index]? = some member.token := by
    intro member hMember
    rcases hMembers.exists_of_mem hMember with ⟨rule, hRule, rfl⟩ | ⟨group, hGroup, rfl⟩
    · obtain ⟨before, after, hTokens, hIndex, -⟩ :=
        (walk_outlineOf markers (tokenize source)).exists_split rule hRule
      rw [Member.index, hTokens, hIndex, Nat.zero_add]
      simp [Rule.tokens, Member.token]
    · exact (read_of_mem_groups hGroup).1
  refine ⟨members, hMembers, ?_, hTokens, ?_⟩
  · simp only [lastOf, if_true, Option.beq_none] at hEntries
    exact hEntries.symm
  · apply hOrder.imp_of_mem
    intro a b ha hb hIndex
    exact start_lt_of_index_lt hIndex (hTokens a ha) (hTokens b hb)

/-- The entries of any snapshot are its rules and its groups, each in their order, and those of a
document are in the order of the source as well. -/
theorem entries_inOrder :
    (∀ snapshot : Snapshot,
      Interleaved Entry.rule Entry.group snapshot.rules snapshot.groups snapshot.entries) ∧
    ∀ (markers : Markers) (source : String), (Document.read markers source).Ordered :=
  ⟨Snapshot.interleaved_entries, document_ordered⟩

end RuleOutline
