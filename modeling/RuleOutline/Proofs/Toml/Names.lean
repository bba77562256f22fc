import RuleOutline.Toml.Document
import RuleOutline.Proofs.Toml.Node

/-! Names in a file. A table is put together from headers, dotted keys and braces, but however that
is done no name stands in it twice. -/
namespace RuleOutline.Toml

section Readers

variable {α : Type} {p : α → Prop} {reader : Reader Value}

/-- What is read is as it should be. -/
def Yields (read : Reader α) (p : α → Prop) : Prop :=
  ∀ cs x rest, read cs = some (x, rest) → p x

theorem namesDiffer_of_int64? {n : Int} {value : Value} (h : int64? n = some value) :
    value.NamesDiffer := by
  obtain ⟨-, hValue⟩ := Option.ite_none_right_eq_some.mp h
  rw [← Option.some.inj hValue]
  exact .int n

theorem yields_readBased (base : Nat) : Yields (readBased base) Value.NamesDiffer := by
  intro cs value rest hRead
  obtain ⟨⟨digits, left⟩, -, hRead⟩ := Option.bind_eq_some_iff.mp hRead
  obtain ⟨number, hNumber, hRead⟩ := Option.bind_eq_some_iff.mp hRead
  cases hRead
  exact namesDiffer_of_int64? hNumber

theorem yields_readDecimal (negative : Bool) : Yields (readDecimal negative) Value.NamesDiffer := by
  intro cs value rest hRead
  obtain ⟨⟨whole, left⟩, -, hRead⟩ := Option.bind_eq_some_iff.mp hRead
  obtain ⟨⟨places, left⟩, -, hRead⟩ := Option.bind_eq_some_iff.mp hRead
  obtain ⟨⟨power, left⟩, -, hRead⟩ := Option.bind_eq_some_iff.mp hRead
  dsimp only at hRead
  split at hRead
  next =>
    obtain ⟨number, hNumber, hRead⟩ := Option.bind_eq_some_iff.mp hRead
    cases hRead
    exact namesDiffer_of_int64? hNumber
  next =>
    obtain ⟨decimal, -, hRead⟩ := Option.bind_eq_some_iff.mp hRead
    obtain ⟨-, hRead⟩ := Option.ite_none_left_eq_some.mp hRead
    cases hRead
    exact .float _

theorem yields_readSigned (negative : Bool) : Yields (readSigned negative) Value.NamesDiffer := by
  intro cs value rest hRead
  unfold readSigned at hRead
  dsimp only at hRead
  split at hRead
  next =>
    cases hRead
    exact .float _
  next =>
    cases hRead
    exact .float _
  next => exact yields_readDecimal negative _ _ _ hRead

theorem yields_readNumber : Yields readNumber Value.NamesDiffer := by
  intro cs value rest hRead
  unfold readNumber at hRead
  split at hRead
  next => exact yields_readSigned _ _ _ _ hRead
  next => exact yields_readSigned _ _ _ _ hRead
  next => exact yields_readBased _ _ _ _ hRead
  next => exact yields_readBased _ _ _ _ hRead
  next => exact yields_readBased _ _ _ _ hRead
  next => exact yields_readSigned _ _ _ _ hRead

theorem yields_readFlat : Yields readValue.readFlat Value.NamesDiffer := by
  intro cs value rest hRead
  unfold readValue.readFlat at hRead
  split at hRead
  next =>
    cases hRead
    exact .flag true
  next =>
    cases hRead
    exact .flag false
  next =>
    obtain ⟨⟨text, left⟩, -, hRead⟩ := Option.map_eq_some_iff.mp hRead
    cases hRead
    exact .text text
  next =>
    obtain ⟨⟨text, left⟩, -, hRead⟩ := Option.map_eq_some_iff.mp hRead
    cases hRead
    exact .text text
  next =>
    split at hRead
    next =>
      obtain ⟨⟨moment, left⟩, -, hRead⟩ := Option.map_eq_some_iff.mp hRead
      cases hRead
      exact .moment moment
    next => exact yields_readNumber _ _ _ hRead

theorem yields_readItems (h : Yields reader Value.NamesDiffer) (fuel : Nat) :
    Yields (readItems reader fuel) fun items => ∀ item ∈ items, item.NamesDiffer := by
  induction fuel with
  | zero => exact nofun
  | succ fuel ih =>
      intro cs items rest hRead
      rw [readItems] at hRead
      split at hRead
      next =>
        cases hRead
        exact nofun
      next =>
        obtain ⟨⟨item, left⟩, hItem, hRead⟩ := Option.bind_eq_some_iff.mp hRead
        have hItem := h _ _ _ hItem
        dsimp only at hRead
        split at hRead
        next =>
          cases hRead
          exact List.forall_mem_singleton.mpr hItem
        next =>
          obtain ⟨⟨later, left⟩, hLater, hRead⟩ := Option.bind_eq_some_iff.mp hRead
          cases hRead
          exact List.forall_mem_cons.mpr ⟨hItem, ih _ _ _ hLater⟩
        next => cases hRead

theorem yields_readEntry (h : Yields reader Value.NamesDiffer) :
    Yields (readEntry reader) fun entry => entry.2.NamesDiffer := by
  intro cs entry rest hRead
  obtain ⟨⟨key, left⟩, -, hRead⟩ := Option.bind_eq_some_iff.mp hRead
  dsimp only at hRead
  split at hRead
  next =>
    obtain ⟨⟨value, left⟩, hValue, hRead⟩ := Option.bind_eq_some_iff.mp hRead
    cases hRead
    exact h _ _ _ hValue
  next => cases hRead

theorem yields_readEntries (h : Yields reader Value.NamesDiffer) (fuel : Nat) {table : Node}
    (hTable : table.NamesDiffer) : Yields (readEntries reader fuel table) Node.NamesDiffer := by
  induction fuel generalizing table with
  | zero => exact nofun
  | succ fuel ih =>
      intro cs result rest hRead
      rw [readEntries] at hRead
      obtain ⟨⟨⟨⟨steps, name⟩, value⟩, left⟩, hEntry, hRead⟩ := Option.bind_eq_some_iff.mp hRead
      obtain ⟨larger, hInsert, hRead⟩ := Option.bind_eq_some_iff.mp hRead
      have hValue := yields_readEntry h _ _ _ hEntry
      have hLarger := Node.keeps_insert? hValue name steps _ _ hTable hInsert
      split at hRead
      next =>
        cases hRead
        exact hLarger
      next => exact ih hLarger _ _ _ hRead
      next => cases hRead

theorem yields_readValue (levels : Nat) : Yields (readValue levels) Value.NamesDiffer := by
  induction levels with
  | zero =>
      intro cs value rest hRead
      unfold readValue at hRead
      exact yields_readFlat _ _ _ hRead
  | succ levels ih =>
      intro cs value rest hRead
      unfold readValue at hRead
      split at hRead
      next =>
        obtain ⟨⟨items, left⟩, hItems, hRead⟩ := Option.bind_eq_some_iff.mp hRead
        cases hRead
        exact .list (yields_readItems ih _ _ _ _ hItems)
      next =>
        split at hRead
        next =>
          cases hRead
          exact .table .nil nofun
        next =>
          obtain ⟨⟨table, left⟩, hTable, hRead⟩ := Option.bind_eq_some_iff.mp hRead
          cases hRead
          exact (yields_readEntries ih _ (Node.namesDiffer_empty .headed) _ _ _ hTable).value
      next => exact yields_readFlat _ _ _ hRead

theorem yields_readHeader {progress : Progress} (h : progress.root.NamesDiffer) :
    Yields (readHeader progress) (·.root.NamesDiffer) := by
  intro cs result rest hRead
  unfold readHeader at hRead
  split at hRead
  next =>
    obtain ⟨⟨⟨steps, name⟩, left⟩, -, hRead⟩ := Option.bind_eq_some_iff.mp hRead
    obtain ⟨root, hRoot, hRead⟩ := Option.bind_eq_some_iff.mp hRead
    split at hRead
    next =>
      obtain ⟨last, -, hRead⟩ := Option.bind_eq_some_iff.mp hRead
      cases hRead
      exact (Node.keeps_openNext? name).change? steps _ _ h hRoot
    next => cases hRead
  next =>
    obtain ⟨⟨⟨steps, name⟩, left⟩, -, hRead⟩ := Option.bind_eq_some_iff.mp hRead
    obtain ⟨root, hRoot, hRead⟩ := Option.bind_eq_some_iff.mp hRead
    split at hRead
    next =>
      obtain ⟨last, -, hRead⟩ := Option.bind_eq_some_iff.mp hRead
      cases hRead
      exact (Node.keeps_openTable? name).change? steps _ _ h hRoot
    next => cases hRead

theorem yields_readLine {progress : Progress} (h : progress.root.NamesDiffer) :
    Yields (readLine progress) (·.root.NamesDiffer) := by
  intro cs result rest hRead
  obtain ⟨⟨⟨⟨steps, name⟩, value⟩, left⟩, hEntry, hRead⟩ := Option.bind_eq_some_iff.mp hRead
  obtain ⟨root, hRoot, hRead⟩ := Option.bind_eq_some_iff.mp hRead
  obtain ⟨last, -, hRead⟩ := Option.bind_eq_some_iff.mp hRead
  cases hRead
  have hValue := yields_readEntry (yields_readValue nestingLimit) _ _ _ hEntry
  exact (Node.keeps_insert? hValue name steps).change? progress.header _ _ h hRoot

theorem namesDiffer_of_readLines {fuel : Nat} {progress : Progress} {cs : List Char} {root : Node}
    (h : progress.root.NamesDiffer) (hRead : readLines fuel progress cs = some root) :
    root.NamesDiffer := by
  induction fuel generalizing progress cs with
  | zero => cases hRead
  | succ fuel ih =>
      rw [readLines] at hRead
      split at hRead
      next =>
        cases hRead
        exact h
      next =>
        obtain ⟨⟨later, left⟩, hHeader, hRead⟩ := Option.bind_eq_some_iff.mp hRead
        exact ih (yields_readHeader h _ _ _ hHeader) hRead
      next =>
        split at hRead
        next => exact ih h hRead
        next =>
          obtain ⟨⟨later, left⟩, hLine, hRead⟩ := Option.bind_eq_some_iff.mp hRead
          exact ih (yields_readLine h _ _ _ hLine) hRead

end Readers

section Moments

variable {items : List Value} {entries : List (String × Value)}

theorem forall_mem_unmarkedItems? {result : List Value}
    (h : ∀ item ∈ items, ∀ value, item.unmarked? = some value → value.NamesDiffer)
    (hResult : unmarkedItems? items = some result) : ∀ value ∈ result, value.NamesDiffer := by
  induction items generalizing result with
  | nil =>
      rw [unmarkedItems?] at hResult
      cases hResult
      exact nofun
  | cons item items ih =>
      rw [unmarkedItems?] at hResult
      obtain ⟨hItem, hItems⟩ := List.forall_mem_cons.mp h
      obtain ⟨value, hValue, hResult⟩ := Option.bind_eq_some_iff.mp hResult
      obtain ⟨values, hValues, hResult⟩ := Option.bind_eq_some_iff.mp hResult
      cases hResult
      exact List.forall_mem_cons.mpr ⟨hItem value hValue, ih hItems hValues⟩

theorem names_unmarkedEntries? {result : List (String × Value)}
    (hResult : unmarkedEntries? entries = some result) :
    result.map (·.1) = entries.map (·.1) := by
  induction entries generalizing result with
  | nil =>
      rw [unmarkedEntries?] at hResult
      cases hResult
      rfl
  | cons entry entries ih =>
      rw [unmarkedEntries?] at hResult
      obtain ⟨value, hValue, hResult⟩ := Option.bind_eq_some_iff.mp hResult
      obtain ⟨later, hLater, hResult⟩ := Option.bind_eq_some_iff.mp hResult
      cases hResult
      rw [List.map_cons, List.map_cons, ih hLater]

theorem keyed_unmarkedEntries? {result : List (String × Value)}
    (hNames : entries.Pairwise fun first second => first.1 ≠ second.1)
    (h : ∀ entry ∈ entries, ∀ value, entry.2.unmarked? = some value → value.NamesDiffer)
    (hResult : unmarkedEntries? entries = some result) : Keyed Value.NamesDiffer result := by
  constructor
  · rw [← List.pairwise_map (R := (· ≠ ·))] at hNames ⊢
    rwa [names_unmarkedEntries? hResult]
  · induction entries generalizing result with
    | nil =>
        rw [unmarkedEntries?] at hResult
        cases hResult
        exact nofun
    | cons entry entries ih =>
        rw [unmarkedEntries?] at hResult
        obtain ⟨hEntry, hEntries⟩ := List.forall_mem_cons.mp h
        obtain ⟨value, hValue, hResult⟩ := Option.bind_eq_some_iff.mp hResult
        obtain ⟨later, hLater, hResult⟩ := Option.bind_eq_some_iff.mp hResult
        cases hResult
        exact List.forall_mem_cons.mpr
          ⟨hEntry value hValue, ih (List.pairwise_cons.mp hNames).2 hEntries hLater⟩

theorem Value.NamesDiffer.unmarked? {value result : Value} (h : value.NamesDiffer)
    (hResult : value.unmarked? = some result) : result.NamesDiffer := by
  induction h generalizing result with
  | list hItems ih =>
      rw [Value.unmarked?] at hResult
      obtain ⟨items, hUnmarked, rfl⟩ := Option.map_eq_some_iff.mp hResult
      exact .list (forall_mem_unmarkedItems? (fun item hItem _ => ih item hItem) hUnmarked)
  | @table entries hNames hEntries ih =>
      cases entries with
      | nil =>
          obtain rfl := Option.some.inj hResult
          exact .table .nil nofun
      | cons entry entries =>
          unfold Value.unmarked? at hResult
          split at hResult
          next =>
            split at hResult
            next =>
              obtain ⟨moment, -, rfl⟩ := Option.map_eq_some_iff.mp hResult
              exact .moment moment
            next => cases hResult
          next =>
            obtain ⟨value, hValue, hResult⟩ := Option.bind_eq_some_iff.mp hResult
            obtain ⟨later, hLater, hResult⟩ := Option.bind_eq_some_iff.mp hResult
            cases hResult
            have hAll : unmarkedEntries? (entry :: entries) =
                some ((entry.1, value) :: later) := by
              rw [unmarkedEntries?, hValue, hLater]
              rfl
            have hKeyed := keyed_unmarkedEntries? hNames (fun entry hEntry _ => ih entry hEntry) hAll
            exact namesDiffer_table.mpr hKeyed
  | _ =>
      obtain rfl := Option.some.inj hResult
      constructor

end Moments

/-- In a file that can be read, no name stands in a table twice. -/
theorem keyed_read? {source : String} {entries : List (String × Value)}
    (h : read? source = some entries) : Keyed Value.NamesDiffer entries := by
  unfold read? at h
  dsimp only at h
  split at h
  next entries hTable =>
    cases h
    obtain ⟨root, hRoot, hUnmarked⟩ := Option.bind_eq_some_iff.mp hTable
    have hDiffer := namesDiffer_of_readLines (Node.namesDiffer_empty .headed) hRoot
    exact Value.namesDiffer_table.mp (hDiffer.value.unmarked? hUnmarked)
  next => cases h

end RuleOutline.Toml
