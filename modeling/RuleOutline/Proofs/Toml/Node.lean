import RuleOutline.Toml.Node

/-! Tables in which no name stands twice. Whatever is added to a table while a file is being read,
it stays one of these. -/
namespace RuleOutline.Toml

/-- The names are all different, and the values are as they should be. -/
structure Keyed {α : Type} (p : α → Prop) (entries : List (String × α)) : Prop where
  names : entries.Pairwise fun first second => first.1 ≠ second.1
  values : ∀ entry ∈ entries, p entry.2

/-- The names in each of its tables are all different. -/
inductive Value.NamesDiffer : Value → Prop where
  | text (value : String) : NamesDiffer (.text value)
  | moment (value : String) : NamesDiffer (.moment value)
  | int (value : Int) : NamesDiffer (.int value)
  | float (value : Float) : NamesDiffer (.float value)
  | flag (value : Bool) : NamesDiffer (.flag value)
  | list {items : List Value} (hItems : ∀ item ∈ items, NamesDiffer item) :
      NamesDiffer (.list items)
  | table {entries : List (String × Value)}
      (hNames : entries.Pairwise fun first second => first.1 ≠ second.1)
      (hEntries : ∀ entry ∈ entries, NamesDiffer entry.2) : NamesDiffer (.table entries)

/-- The names in each of its tables are all different. -/
inductive Node.NamesDiffer : Node → Prop where
  | leaf {value : Value} (hValue : value.NamesDiffer) : NamesDiffer (.leaf value)
  | table {standing : Standing} {entries : List (String × Node)}
      (hNames : entries.Pairwise fun first second => first.1 ≠ second.1)
      (hEntries : ∀ entry ∈ entries, NamesDiffer entry.2) : NamesDiffer (.table standing entries)
  | tables {members : List Node} (hMembers : ∀ member ∈ members, NamesDiffer member) :
      NamesDiffer (.tables members)

theorem Value.namesDiffer_table {entries : List (String × Value)} :
    (table entries).NamesDiffer ↔ Keyed NamesDiffer entries := by
  constructor
  · intro h
    cases h with
    | table hNames hEntries => exact ⟨hNames, hEntries⟩
  · exact fun h => .table h.names h.values

section Keyed

variable {α : Type} {p : α → Prop} {name : String} {value : α} {entries : List (String × α)}

theorem keyed_nil (p : α → Prop) : Keyed p [] :=
  ⟨.nil, nofun⟩

theorem keyed_cons {entry : String × α} :
    Keyed p (entry :: entries) ↔
      (∀ other ∈ entries, entry.1 ≠ other.1) ∧ p entry.2 ∧ Keyed p entries := by
  constructor
  · rintro ⟨hNames, hValues⟩
    obtain ⟨hApart, hNames⟩ := List.pairwise_cons.mp hNames
    obtain ⟨hValue, hValues⟩ := List.forall_mem_cons.mp hValues
    exact ⟨hApart, hValue, hNames, hValues⟩
  · rintro ⟨hApart, hValue, hNames, hValues⟩
    exact ⟨List.pairwise_cons.mpr ⟨hApart, hNames⟩, List.forall_mem_cons.mpr ⟨hValue, hValues⟩⟩

theorem Keyed.of_lookup (h : Keyed p entries) (hLookup : entries.lookup name = some value) :
    p value := by
  obtain ⟨before, after, rfl, -⟩ := List.lookup_eq_some_iff.mp hLookup
  exact h.values (name, value) (by simp)

theorem eq_or_mem_of_mem_putEntry {entry : String × α} (h : entry ∈ putEntry name value entries) :
    entry = (name, value) ∨ entry ∈ entries := by
  induction entries with
  | nil => exact .inl (List.mem_singleton.mp h)
  | cons head entries ih =>
      rw [putEntry] at h
      split at h
      next => exact (List.mem_cons.mp h).imp_right (List.mem_cons_of_mem _)
      next =>
        rcases List.mem_cons.mp h with rfl | h
        · exact .inr (List.mem_cons_self ..)
        · exact (ih h).imp_right (List.mem_cons_of_mem _)

theorem Keyed.putEntry (h : Keyed p entries) (name : String) (hValue : p value) :
    Keyed p (putEntry name value entries) := by
  induction entries with
  | nil => exact keyed_cons.mpr ⟨nofun, hValue, keyed_nil p⟩
  | cons entry entries ih =>
      obtain ⟨hApart, hEntry, hEntries⟩ := keyed_cons.mp h
      rw [Toml.putEntry]
      split
      next hName =>
        rw [hName] at hApart
        exact keyed_cons.mpr ⟨hApart, hValue, hEntries⟩
      next hName =>
        refine keyed_cons.mpr ⟨?_, hEntry, ih hEntries⟩
        intro other hOther
        rcases eq_or_mem_of_mem_putEntry hOther with rfl | hOther
        · exact hName
        · exact hApart other hOther

theorem Keyed.concat (h : Keyed p entries) (hNew : ∀ entry ∈ entries, entry.1 ≠ name)
    (hValue : p value) : Keyed p (entries ++ [(name, value)]) where
  names := List.pairwise_append.mpr ⟨h.names, List.pairwise_singleton .., by simpa using hNew⟩
  values := List.forall_mem_append.mpr ⟨h.values, List.forall_mem_singleton.mpr hValue⟩

theorem ne_of_lookup_eq_none (h : entries.lookup name = none) :
    ∀ entry ∈ entries, entry.1 ≠ name := by
  intro entry hEntry hSame
  have hApart := List.lookup_eq_none_iff.mp h entry hEntry
  simp [hSame] at hApart

theorem Keyed.filter (h : Keyed p entries) (keep : String × α → Bool) :
    Keyed p (entries.filter keep) where
  names := h.names.sublist List.filter_sublist
  values entry hEntry := h.values entry (List.mem_filter.mp hEntry).1

theorem forall_mem_changeLast? {f : α → Option α} {xs ys : List α}
    (hf : ∀ x y, p x → f x = some y → p y) (h : ∀ x ∈ xs, p x)
    (hChange : changeLast? f xs = some ys) : ∀ y ∈ ys, p y := by
  induction xs generalizing ys with
  | nil => cases hChange
  | cons x xs ih =>
      obtain ⟨hHere, hLater⟩ := List.forall_mem_cons.mp h
      cases xs with
      | nil =>
          obtain ⟨y, hy, rfl⟩ := Option.map_eq_some_iff.mp hChange
          exact List.forall_mem_singleton.mpr (hf x y hHere hy)
      | cons other xs =>
          obtain ⟨zs, hzs, rfl⟩ := Option.map_eq_some_iff.mp hChange
          exact List.forall_mem_cons.mpr ⟨hHere, ih hLater hzs⟩

end Keyed

namespace Node

/-- The change leaves names in a table different. -/
def Keeps (f : Node → Option Node) : Prop :=
  ∀ node result, node.NamesDiffer → f node = some result → result.NamesDiffer

variable {f : Node → Option Node} {standing : Standing} {entries : List (String × Node)}

theorem namesDiffer_table :
    (table standing entries).NamesDiffer ↔ Keyed NamesDiffer entries := by
  constructor
  · intro h
    cases h with
    | table hNames hEntries => exact ⟨hNames, hEntries⟩
  · exact fun h => .table h.names h.values

theorem namesDiffer_empty (standing : Standing) : (table standing []).NamesDiffer :=
  .table .nil nofun

theorem Keeps.changeLast? (h : Keeps f) {members changed : List Node}
    (hMembers : (tables members).NamesDiffer) (hChange : changeLast? f members = some changed) :
    (tables changed).NamesDiffer := by
  cases hMembers with
  | tables hMembers => exact .tables (forall_mem_changeLast? h hMembers hChange)

/-- An entry is added by a dotted key where it makes no name stand twice. -/
theorem keeps_insert? {value : Value} (hValue : value.NamesDiffer) (name : String)
    (steps : List String) : Keeps (insert? name value steps) := by
  induction steps with
  | nil =>
      intro node result hNode hResult
      cases node with
      | table standing entries =>
          rw [insert?] at hResult
          split at hResult
          next => cases hResult
          next hNew =>
            obtain rfl := Option.some.inj hResult
            have hNone : entries.lookup name = none := Option.not_isSome_iff_eq_none.mp hNew
            exact namesDiffer_table.mpr
              ((namesDiffer_table.mp hNode).concat (ne_of_lookup_eq_none hNone) (.leaf hValue))
      | _ => cases hResult
  | cons step steps ih =>
      intro node result hNode hResult
      cases node with
      | table standing entries =>
          obtain ⟨child, hChild, rfl⟩ := Option.map_eq_some_iff.mp hResult
          have hEntries := namesDiffer_table.mp hNode
          suffices hDiffer : child.NamesDiffer from
            namesDiffer_table.mpr (hEntries.putEntry step hDiffer)
          split at hChild
          next => exact ih _ _ (namesDiffer_empty .dotted) hChild
          next members hLookup =>
            split at hChild
            next => cases hChild
            next =>
              obtain ⟨changed, hChanged, rfl⟩ := Option.map_eq_some_iff.mp hChild
              exact ih.changeLast? (hEntries.of_lookup hLookup) hChanged
          next => cases hChild
          next old _ _ hLookup =>
            split at hChild
            next => cases hChild
            next => exact ih _ _ (hEntries.of_lookup hLookup) hChild
      | _ => cases hResult

/-- What is kept in a table is kept in the table around it. -/
theorem Keeps.change? (h : Keeps f) (steps : List String) : Keeps (change? f steps) := by
  induction steps with
  | nil => exact h
  | cons step steps ih =>
      intro node result hNode hResult
      cases node with
      | table standing entries =>
          obtain ⟨child, hChild, rfl⟩ := Option.map_eq_some_iff.mp hResult
          have hEntries := namesDiffer_table.mp hNode
          suffices hDiffer : child.NamesDiffer from
            namesDiffer_table.mpr (hEntries.putEntry step hDiffer)
          split at hChild
          next => exact ih _ _ (namesDiffer_empty .implied) hChild
          next members hLookup =>
            obtain ⟨changed, hChanged, rfl⟩ := Option.map_eq_some_iff.mp hChild
            exact ih.changeLast? (hEntries.of_lookup hLookup) hChanged
          next old _ hLookup => exact ih _ _ (hEntries.of_lookup hLookup) hChild
      | _ => cases hResult

theorem keeps_openTable? (name : String) : Keeps (openTable? name) := by
  intro node result hNode hResult
  cases node with
  | table standing entries =>
      have hEntries := namesDiffer_table.mp hNode
      rw [openTable?] at hResult
      split at hResult
      next hLookup =>
        obtain rfl := Option.some.inj hResult
        exact namesDiffer_table.mpr
          (hEntries.concat (ne_of_lookup_eq_none hLookup) (namesDiffer_empty .headed))
      next inner hLookup =>
        obtain rfl := Option.some.inj hResult
        have hInner := namesDiffer_table.mp (hEntries.of_lookup hLookup)
        have hOthers : ∀ entry ∈ entries.filter (·.1 != name), entry.1 ≠ name := by simp
        exact namesDiffer_table.mpr
          ((hEntries.filter _).concat hOthers (namesDiffer_table.mpr hInner))
      next => cases hResult
  | _ => cases hResult

theorem keeps_openNext? (name : String) : Keeps (openNext? name) := by
  intro node result hNode hResult
  cases node with
  | table standing entries =>
      have hEntries := namesDiffer_table.mp hNode
      have hNext := namesDiffer_empty .headed
      rw [openNext?] at hResult
      split at hResult
      next hLookup =>
        obtain rfl := Option.some.inj hResult
        exact namesDiffer_table.mpr (hEntries.concat (ne_of_lookup_eq_none hLookup)
          (.tables (List.forall_mem_singleton.mpr hNext)))
      next members hLookup =>
        obtain rfl := Option.some.inj hResult
        cases hEntries.of_lookup hLookup with
        | tables hMembers =>
            exact namesDiffer_table.mpr (hEntries.putEntry name (.tables
              (List.forall_mem_append.mpr ⟨hMembers, List.forall_mem_singleton.mpr hNext⟩)))
      next => cases hResult
  | _ => cases hResult

theorem values_eq_map (nodes : List Node) : values nodes = nodes.map value := by
  induction nodes with
  | nil => rw [values, List.map_nil]
  | cons node nodes ih => rw [values, ih, List.map_cons]

theorem entryValues_eq_map (entries : List (String × Node)) :
    entryValues entries = entries.map fun entry => (entry.1, entry.2.value) := by
  induction entries with
  | nil => rw [entryValues, List.map_nil]
  | cons entry entries ih => rw [entryValues, ih, List.map_cons]

theorem NamesDiffer.value {node : Node} (h : node.NamesDiffer) : node.value.NamesDiffer := by
  induction h with
  | leaf hValue =>
      rw [Node.value]
      exact hValue
  | table hNames hEntries ih =>
      rw [Node.value, entryValues_eq_map]
      exact .table (List.pairwise_map.mpr hNames) (List.forall_mem_map.mpr ih)
  | tables hMembers ih =>
      rw [Node.value, values_eq_map]
      exact .list (List.forall_mem_map.mpr ih)

end Node

end RuleOutline.Toml
