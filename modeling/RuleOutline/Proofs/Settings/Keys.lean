import RuleOutline.Settings.Loader
import RuleOutline.Proofs.Settings.Value
import RuleOutline.Proofs.Toml.Names

/-! The four keys of the settings. Each has a value of its own in the table of all values, which a
file changes if it has an entry for the key, and no other way. -/
namespace RuleOutline.Settings

open Unicode

/-- What can be set. -/
inductive Key where
  | opening
  | closing
  | format
  | lineNumbers
  deriving DecidableEq

namespace Key

/-- The section that the key belongs to. -/
def sectionName : Key → String
  | opening | closing => "markers"
  | format | lineNumbers => "output"

/-- The name of the key in its section. -/
def fieldName : Key → String
  | opening => "begin"
  | closing => "end"
  | format => "format"
  | lineNumbers => "show_line_numbers"

/-- The key takes truth values. The others take texts. -/
def isFlag : Key → Bool
  | lineNumbers => true
  | _ => false

/-- The value that is built in. -/
def standard : Key → Scalar
  | opening => .text "// $<"
  | closing => .text "// $>"
  | format => .text "treeviz"
  | lineNumbers => .flag false

/-- The value is one that the key takes. -/
def admits (key : Key) : Scalar → Bool
  | .flag _ => key.isFlag
  | .text _ => !key.isFlag
  | _ => false

/-- A value in a file, if it is one that the key takes. -/
def scalar? (key : Key) : Toml.Value → Option Scalar
  | .flag value => if key.isFlag then some (.flag value) else none
  | .text value => if key.isFlag then none else some (.text value)
  | _ => none

/-- The path leads neither to the key nor through it, and its section stays a table. -/
def Avoids (key : Key) : List PathStep → Prop
  | .name first :: .name second :: _ =>
    ¬(lowerCase first = key.sectionName ∧ lowerCase second = key.fieldName)
  | .name first :: _ => lowerCase first ≠ key.sectionName
  | _ => False

instance decidableAvoids (key : Key) : (steps : List PathStep) → Decidable (key.Avoids steps)
  | .name first :: .name second :: _ =>
    inferInstanceAs (Decidable
      (¬(lowerCase first = key.sectionName ∧ lowerCase second = key.fieldName)))
  | [.name first] | .name first :: .item _ :: _ =>
    inferInstanceAs (Decidable (lowerCase first ≠ key.sectionName))
  | [] | .item _ :: _ => isFalse id

instance decidableForall {p : Key → Prop} [DecidablePred p] : Decidable (∀ key, p key) :=
  decidable_of_iff (p opening ∧ p closing ∧ p format ∧ p lineNumbers)
    ⟨fun ⟨hOpening, hClosing, hFormat, hNumbers⟩ key => by cases key <;> assumption,
      fun h => ⟨h _, h _, h _, h _⟩⟩

end Key

/-- The value of the key. -/
def get (settings : Settings) : Key → Scalar
  | .opening => .text settings.markers.opening
  | .closing => .text settings.markers.closing
  | .format => .text settings.format
  | .lineNumbers => .flag settings.lineNumbers

section Entries

variable {name : String} {entry : String × Toml.Value} {entries : List (String × Toml.Value)}

/-- The value under a name in a table of a file. Capitals do not matter. -/
def valueUnder? (name : String) (entries : List (String × Toml.Value)) : Option Toml.Value :=
  (entries.find? fun entry => lowerCase entry.1 == name).map (·.2)

/-- No two names differ in their capitals alone. -/
def Distinct (entries : List (String × Toml.Value)) : Prop :=
  ∀ first ∈ entries, ∀ second ∈ entries,
    lowerCase first.1 = lowerCase second.1 → first.1 = second.1

instance decidableDistinct (entries : List (String × Toml.Value)) : Decidable (Distinct entries) :=
  inferInstanceAs (Decidable (∀ first ∈ entries, ∀ second ∈ entries, _ → _))

/-- No two names are the same in small letters. -/
def Apart (entries : List (String × Toml.Value)) : Prop :=
  entries.Pairwise fun first second => lowerCase first.1 ≠ lowerCase second.1

theorem Distinct.apart {p : Toml.Value → Prop} (h : Distinct entries)
    (hKeyed : Toml.Keyed p entries) : Apart entries :=
  hKeyed.names.imp_of_mem fun hFirst hSecond hNames hSame => hNames (h _ hFirst _ hSecond hSame)

/-- What a file sets the key to. -/
def fileValue? (entries : List (String × Toml.Value)) (key : Key) : Option Scalar :=
  match valueUnder? key.sectionName entries with
  | some (.table fields) => (valueUnder? key.fieldName fields).bind key.scalar?
  | _ => none

/-- The value is a table, and if it has a field for the key, it is with a value that it takes. -/
def Key.IsTypedIn (key : Key) : Toml.Value → Prop
  | .table fields =>
    Distinct fields ∧ ∀ field ∈ valueUnder? key.fieldName fields, (key.scalar? field).isSome
  | _ => False

instance decidableIsTypedIn (key : Key) : (value : Toml.Value) → Decidable (key.IsTypedIn value)
  | .table fields => inferInstanceAs (Decidable (Distinct fields ∧
      ∀ field ∈ valueUnder? key.fieldName fields, (key.scalar? field).isSome))
  | .text _ | .moment _ | .int _ | .float _ | .flag _ | .list _ => isFalse id

/-- The sections are tables, and their fields have values that the keys take. -/
structure IsTyped (entries : List (String × Toml.Value)) : Prop where
  distinct : Distinct entries
  sections : ∀ key : Key, ∀ value ∈ valueUnder? key.sectionName entries, key.IsTypedIn value

instance decidableIsTyped (entries : List (String × Toml.Value)) : Decidable (IsTyped entries) :=
  decidable_of_iff (Distinct entries ∧ ∀ key : Key, ∀ value ∈ valueUnder? key.sectionName entries,
    key.IsTypedIn value) ⟨fun h => ⟨h.1, h.2⟩, fun h => ⟨h.1, h.2⟩⟩

/-- What is no section is not a path into one that leads to a key or to an item. -/
def IsQuiet (entries : List (String × Toml.Value)) : Prop :=
  ∀ key : Key, ∀ entry ∈ entries, lowerCase entry.1 ≠ key.sectionName →
    key.Avoids (pathOf entry.1)

instance decidableIsQuiet (entries : List (String × Toml.Value)) : Decidable (IsQuiet entries) :=
  inferInstanceAs (Decidable (∀ key : Key, ∀ entry ∈ entries,
    lowerCase entry.1 ≠ key.sectionName → key.Avoids (pathOf entry.1)))

theorem Key.IsTypedIn.exists_table {key : Key} {value : Toml.Value} (h : key.IsTypedIn value) :
    ∃ fields, value = .table fields ∧ Distinct fields ∧
      ∀ field ∈ valueUnder? key.fieldName fields, (key.scalar? field).isSome := by
  cases value with
  | table fields => exact ⟨fields, rfl, h⟩
  | _ => exact h.elim

theorem valueUnder?_cons_self (h : lowerCase entry.1 = name) :
    valueUnder? name (entry :: entries) = some entry.2 := by
  simp [valueUnder?, h]

theorem valueUnder?_cons_of_ne (h : lowerCase entry.1 ≠ name) :
    valueUnder? name (entry :: entries) = valueUnder? name entries := by
  simp [valueUnder?, h]

end Entries

/-- In its section, the key has the value, which is one that it takes. -/
structure HasField (whole : Value) (key : Key) (content : Scalar) : Prop where
  admits : key.admits content = true
  placed : ∃ origin, whole.at? key.fieldName = some (.scalar content origin)

/-- In the table of all values, the key has the value. -/
def Holds (root : Value) (key : Key) (content : Scalar) : Prop :=
  ∃ whole, root.at? key.sectionName = some whole ∧ HasField whole key content

section Holds

variable {root whole : Value} {key : Key} {content : Scalar}

theorem holds_standardValue (key : Key) : Holds standardValue key key.standard := by
  cases key <;> exact ⟨_, rfl, rfl, none, rfl⟩

theorem Holds.of_at?_eq {other : Value} (h : Holds root key content)
    (hSame : other.at? key.sectionName = root.at? key.sectionName) : Holds other key content := by
  obtain ⟨whole, hWhole, hField⟩ := h
  exact ⟨whole, hSame.trans hWhole, hField⟩

/-- A value set somewhere else leaves the key as it is. -/
theorem Holds.assign (h : Holds root key content) {steps : List PathStep}
    (hAvoids : key.Avoids steps) (value : Value) : Holds (root.assign value steps) key content := by
  match steps, hAvoids with
  | .name first :: .name second :: steps, hAvoids =>
      by_cases hFirst : lowerCase first = key.sectionName
      · obtain ⟨whole, hWhole, hAdmits, origin, hContent⟩ := h
        have hSecond : lowerCase second ≠ key.fieldName := fun hSame => hAvoids ⟨hFirst, hSame⟩
        have hSection := Value.at?_assign_cons root value first (.name second) steps
        rw [hFirst, hWhole, Option.getD_some] at hSection
        refine ⟨_, hSection, hAdmits, origin, ?_⟩
        rw [Value.at?_assign_of_ne _ _ _ hSecond, hContent]
      · exact h.of_at?_eq (Value.at?_assign_of_ne _ _ _ hFirst)
  | [.name first], hAvoids => exact h.of_at?_eq (Value.at?_assign_of_ne _ _ _ hAvoids)
  | .name first :: .item index :: steps, hAvoids =>
      exact h.of_at?_eq (Value.at?_assign_of_ne _ _ _ hAvoids)

/-- A value set at the key is the one that it has. -/
theorem Holds.assign_self (h : Holds root key content) {first second : String} {value : Scalar}
    (hFirst : lowerCase first = key.sectionName) (hSecond : lowerCase second = key.fieldName)
    (hAdmits : key.admits value = true) (origin : Option String) :
    Holds (root.assign (.scalar value origin) [.name first, .name second]) key value := by
  obtain ⟨whole, hWhole, -⟩ := h
  have hSection := Value.at?_assign_cons root (.scalar value origin) first (.name second) []
  have hField := Value.at?_merge_scalar whole second value origin
  rw [hFirst, hWhole, Option.getD_some, Value.assign] at hSection
  rw [hSecond] at hField
  exact ⟨_, hSection, hAdmits, origin, hField⟩

theorem Key.scalar?_eq_some {field : Toml.Value} {value : Scalar}
    (h : key.scalar? field = some value) (origin : String) :
    key.admits value = true ∧ Value.ofToml origin field = .scalar value (some origin) := by
  cases field with
  | flag flag =>
      obtain ⟨hFlag, hValue⟩ := Option.ite_none_right_eq_some.mp h
      rw [← Option.some.inj hValue, Value.ofToml]
      exact ⟨hFlag, rfl⟩
  | text text =>
      obtain ⟨hFlag, hValue⟩ := Option.ite_none_left_eq_some.mp h
      rw [← Option.some.inj hValue, Value.ofToml]
      exact ⟨by simp [admits, hFlag], rfl⟩
  | _ => cases h

variable {origin : String} {fields entries : List (String × Toml.Value)}

theorem ofTomlEntries_eq_map (origin : String) (entries : List (String × Toml.Value)) :
    Value.ofTomlEntries origin entries =
      entries.map fun entry => (entry.1, Value.ofToml origin entry.2) := by
  induction entries with
  | nil => rw [Value.ofTomlEntries, List.map_nil]
  | cons entry entries ih => rw [Value.ofTomlEntries, ih, List.map_cons]

/-- A table of a file sets the key if it has a field for it. -/
theorem HasField.mergeAll (h : HasField whole key content) (hApart : Apart fields)
    (hTyped : ∀ field ∈ valueUnder? key.fieldName fields, (key.scalar? field).isSome) :
    HasField (whole.mergeAll (Value.ofTomlEntries origin fields)) key
      (((valueUnder? key.fieldName fields).bind key.scalar?).getD content) := by
  induction fields generalizing whole with
  | nil =>
      rw [Value.ofTomlEntries, Value.mergeAll]
      exact h
  | cons field fields ih =>
      obtain ⟨hField, hRest⟩ := List.pairwise_cons.mp hApart
      rw [Value.ofTomlEntries, Value.mergeAll]
      by_cases hName : lowerCase field.1 = key.fieldName
      · rw [valueUnder?_cons_self hName] at hTyped ⊢
        obtain ⟨value, hValue⟩ := Option.isSome_iff_exists.mp (hTyped field.2 rfl)
        obtain ⟨hAdmits, hScalar⟩ := key.scalar?_eq_some hValue origin
        have hLater : ∀ entry ∈ Value.ofTomlEntries origin fields,
            lowerCase entry.1 ≠ key.fieldName := by
          rw [ofTomlEntries_eq_map, List.forall_mem_map]
          intro other hOther
          rw [← hName]
          exact (hField other hOther).symm
        have hHere := Value.at?_merge_scalar whole field.1 value origin
        rw [Option.bind_some, hValue, Option.getD_some]
        refine ⟨hAdmits, some origin, ?_⟩
        rw [Value.at?_mergeAll_of_forall_ne _ hLater, hScalar, ← hName, hHere]
      · rw [valueUnder?_cons_of_ne hName] at hTyped ⊢
        obtain ⟨hAdmits, source, hContent⟩ := h
        exact ih ⟨hAdmits, source, (Value.at?_merge_of_ne _ _ hName).trans hContent⟩ hRest hTyped

theorem Holds.foldl_lay_of_avoids (h : Holds root key content) {entries : List (String × Value)}
    (hAvoids : ∀ entry ∈ entries, key.Avoids (pathOf entry.1)) :
    Holds (entries.foldl lay root) key content := by
  induction entries generalizing root with
  | nil => exact h
  | cons entry entries ih =>
      obtain ⟨hEntry, hEntries⟩ := List.forall_mem_cons.mp hAvoids
      exact ih (h.assign hEntry entry.2) hEntries

theorem pathOf_section {name : String} (h : lowerCase name = key.sectionName) :
    pathOf name = [.name name] := by
  apply pathOf_eq_of_lowerCase
  rw [h]
  cases key <;> simp [Key.sectionName]

/-- A section of a file sets the keys that it has fields for. -/
theorem Holds.lay_section (h : Holds root key content) {name : String}
    (hName : lowerCase name = key.sectionName) (hApart : Apart fields)
    (hTyped : ∀ field ∈ valueUnder? key.fieldName fields, (key.scalar? field).isSome) :
    Holds (lay root (name, Value.ofToml origin (.table fields))) key
      (((valueUnder? key.fieldName fields).bind key.scalar?).getD content) := by
  obtain ⟨whole, hWhole, hField⟩ := h
  have hSection := Value.at?_merge_table root name (Value.ofTomlEntries origin fields) origin
  have hLay : lay root (name, Value.ofToml origin (.table fields)) =
      root.merge name (.table (Value.ofTomlEntries origin fields) origin) := by
    change root.assign _ (pathOf name) = _
    rw [pathOf_section hName, Value.ofToml, Value.assign]
  rw [hName, hWhole, Option.getD_some, ← hLay] at hSection
  exact ⟨_, hSection, hField.mergeAll hApart hTyped⟩

/-- A file sets the key if it has an entry for it, and leaves it as it is otherwise. -/
theorem Holds.foldl_lay (h : Holds root key content)
    (hKeyed : Toml.Keyed Toml.Value.NamesDiffer entries) (hTyped : IsTyped entries)
    (hQuiet : IsQuiet entries) :
    Holds ((Value.ofTomlEntries origin entries).foldl lay root) key
      ((fileValue? entries key).getD content) := by
  have hApart := hTyped.distinct.apart hKeyed
  have hSections := hTyped.sections key
  have hValues := hKeyed.values
  replace hQuiet := hQuiet key
  clear hKeyed hTyped
  rw [fileValue?]
  induction entries generalizing root with
  | nil =>
      rw [Value.ofTomlEntries]
      exact h
  | cons entry entries ih =>
      obtain ⟨hEntry, hRest⟩ := List.pairwise_cons.mp hApart
      obtain ⟨hValue, hValues⟩ := List.forall_mem_cons.mp hValues
      obtain ⟨hHere, hLater⟩ := List.forall_mem_cons.mp hQuiet
      rw [Value.ofTomlEntries, List.foldl_cons]
      by_cases hName : lowerCase entry.1 = key.sectionName
      · -- No other entry is for the section, so none of those that follow matters.
        rw [valueUnder?_cons_self hName] at hSections ⊢
        obtain ⟨fields, hFields, hDistinct, hScalars⟩ := (hSections entry.2 rfl).exists_table
        rw [hFields, Toml.Value.namesDiffer_table] at hValue
        have hAvoids : ∀ other ∈ Value.ofTomlEntries origin entries,
            key.Avoids (pathOf other.1) := by
          rw [ofTomlEntries_eq_map, List.forall_mem_map]
          intro other hOther
          apply hLater other hOther
          rw [← hName]
          exact (hEntry other hOther).symm
        rw [hFields]
        exact (h.lay_section hName (hDistinct.apart hValue) hScalars).foldl_lay_of_avoids hAvoids
      · rw [valueUnder?_cons_of_ne hName] at hSections ⊢
        exact ih (h.assign (hHere hName) _) hRest hSections hValues hLater

/-- A section with both of its fields is read field by field. -/
theorem readSection_of_at? {α β : Type} {readFirst : String → Value → Except Error α}
    {readSecond : String → Value → Except Error β} {name expected first second : String}
    {value other : Value} {a : α} {b : β} (hFirst : whole.at? first = some value)
    (hSecond : whole.at? second = some other)
    (hReadFirst : readFirst (name ++ "." ++ first) value = .ok a)
    (hReadSecond : readSecond (name ++ "." ++ second) other = .ok b) :
    readSection name expected first second readFirst readSecond whole = .ok (a, b) := by
  cases whole with
  | scalar => cases hFirst
  | list => cases hFirst
  | table entries origin =>
      change entries.lookup first = some value at hFirst
      change entries.lookup second = some other at hSecond
      rw [readSection, hFirst, hSecond, Option.mapM_some, Option.mapM_some, hReadFirst,
        hReadSecond]
      rfl

/-- In its section, a key that takes texts has one. -/
theorem HasField.exists_text (h : HasField whole key content) (hFlag : key.isFlag = false) :
    ∃ text origin, content = .text text ∧
      whole.at? key.fieldName = some (.scalar (.text text) origin) := by
  obtain ⟨hAdmits, origin, hPlaced⟩ := h
  cases content with
  | text text => exact ⟨text, origin, rfl, hPlaced⟩
  | flag flag => exact absurd (hFlag.symm.trans hAdmits) Bool.false_ne_true
  | _ => cases hAdmits

/-- In its section, a key that takes truth values has one. -/
theorem HasField.exists_flag (h : HasField whole key content) (hFlag : key.isFlag = true) :
    ∃ flag origin, content = .flag flag ∧
      whole.at? key.fieldName = some (.scalar (.flag flag) origin) := by
  obtain ⟨hAdmits, origin, hPlaced⟩ := h
  cases content with
  | flag flag => exact ⟨flag, origin, rfl, hPlaced⟩
  | text text =>
      rw [Key.admits, hFlag] at hAdmits
      cases hAdmits
  | _ => cases hAdmits

/-- Settings are read off a table that has both sections. -/
theorem ofValue_of_at? {markers output : Value} {opening closing format : String}
    {lineNumbers : Bool} (hMarkers : root.at? "markers" = some markers)
    (hOutput : root.at? "output" = some output)
    (hReadMarkers : readSection "markers" "MarkersConfig" "begin" "end" readTextAt readTextAt
      markers = .ok (opening, closing))
    (hReadOutput : readSection "output" "OutputConfig" "format" "show_line_numbers" readTextAt
      readFlagAt output = .ok (format, lineNumbers)) :
    ofValue root = .ok ⟨⟨opening, closing⟩, format, lineNumbers⟩ := by
  cases root with
  | scalar => cases hMarkers
  | list => cases hMarkers
  | table entries origin =>
      change entries.lookup "markers" = some markers at hMarkers
      change entries.lookup "output" = some output at hOutput
      simp only [ofValue, Value.asTable, hMarkers, hOutput, Option.mapM_some, hReadMarkers,
        hReadOutput]
      rfl

/-- Where each key has a value that it takes, the settings are these values. -/
theorem ofValue_of_holds {contents : Key → Scalar} (h : ∀ key, Holds root key (contents key)) :
    ∃ settings, ofValue root = .ok settings ∧ ∀ key, settings.get key = contents key := by
  obtain ⟨markers, hMarkers, hOpening⟩ := h .opening
  obtain ⟨_, hSame, hClosing⟩ := h .closing
  obtain rfl := Option.some.inj (hMarkers.symm.trans hSame)
  obtain ⟨output, hOutput, hFormat⟩ := h .format
  obtain ⟨_, hSame, hNumbers⟩ := h .lineNumbers
  obtain rfl := Option.some.inj (hOutput.symm.trans hSame)
  obtain ⟨opening, _, hOpening, hFirst⟩ := hOpening.exists_text rfl
  obtain ⟨closing, _, hClosing, hSecond⟩ := hClosing.exists_text rfl
  obtain ⟨format, _, hFormat, hThird⟩ := hFormat.exists_text rfl
  obtain ⟨numbers, _, hNumbers, hFourth⟩ := hNumbers.exists_flag rfl
  refine ⟨⟨⟨opening, closing⟩, format, numbers⟩, ?_, ?_⟩
  · exact ofValue_of_at? hMarkers hOutput (readSection_of_at? hFirst hSecond rfl rfl)
      (readSection_of_at? hThird hFourth rfl rfl)
  · intro key
    cases key with
    | opening => exact hOpening.symm
    | closing => exact hClosing.symm
    | format => exact hFormat.symm
    | lineNumbers => exact hNumbers.symm

end Holds

end RuleOutline.Settings
