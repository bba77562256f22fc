import RuleOutline.Command
import RuleOutline.Proofs.Settings.Keys

/-! Settings from layers. Files and single values may be added in any order: a key has the single
value that was set last for it, or else what the last file says that says anything, or else what is
built in. -/
namespace RuleOutline.Settings

open Unicode

/-- A step in which settings are put together. -/
inductive Step where
  | file (path : String) (required : Bool)
  | override (name : String) (content : Scalar)

/-- Takes one step. -/
def Loader.take (loader : Loader) : Step → Except Error Loader
  | .file path required => .ok (loader.addFile path required)
  | .override name content => loader.addOverride name content

/-- The settings that the steps come to. -/
def load (files : Files) (steps : List Step) : Except Error Settings := do
  let loader ← steps.foldlM Loader.take .standard
  loader.build files

/-- The key that a path leads to. Capitals do not matter. -/
def keyNamed? (name : String) : Option Key :=
  match readPath name with
  | .ok [.name first, .name second] =>
    [Key.opening, .closing, .format, .lineNumbers].find? fun key =>
      lowerCase first == key.sectionName && lowerCase second == key.fieldName
  | _ => none

/-- The entries of the file that a path leads to, if there is one and it can be read. -/
def entriesAt? (files : Files) (path : String) : Option (List (String × Toml.Value)) := do
  let (content, _) ← locate? files path
  let text ← String.fromUTF8? content
  Toml.read? text

namespace Step

/-- The single value that the step sets for the key. -/
def overrideValue? (key : Key) : Step → Option Scalar
  | file .. => none
  | override name content => if keyNamed? name = some key then some content else none

/-- What the file that the step adds sets the key to. -/
def fileValue? (files : Files) (key : Key) : Step → Option Scalar
  | file path _ => (entriesAt? files path).bind (Settings.fileValue? · key)
  | override .. => none

/-- A file has to be there if it is required. If it is there it can be read, and its sections are
tables with the values that the keys take. A single value is one that its key takes. -/
inductive IsValid (files : Files) : Step → Prop where
  | file {path : String} {required : Bool}
      (hRequired : required = true → (locate? files path).isSome)
      (hFile : (locate? files path).isSome → ∃ entries, entriesAt? files path = some entries ∧
        IsTyped entries) :
      IsValid files (.file path required)
  | override {name : String} {content : Scalar} {key : Key} (hKey : keyNamed? name = some key)
      (hAdmits : key.admits content = true) : IsValid files (.override name content)

/-- The file that the step adds has no other entries that are paths to keys. -/
def IsQuiet (files : Files) : Step → Prop
  | file path _ => ∀ entries ∈ entriesAt? files path, Settings.IsQuiet entries
  | override .. => True

end Step

/-- The value that the key is to have. -/
def chosen (files : Files) (steps : List Step) (key : Key) : Scalar :=
  (steps.filterMap (·.overrideValue? key)).getLast?.getD
    ((steps.filterMap (·.fileValue? files key)).getLast?.getD key.standard)

section Load

variable {files : Files} {steps : List Step} {root : Value} {key : Key} {content : Scalar}

theorem exists_path_of_keyNamed? {name : String} (h : keyNamed? name = some key) :
    ∃ first second, readPath name = .ok [.name first, .name second] ∧
      lowerCase first = key.sectionName ∧ lowerCase second = key.fieldName := by
  unfold keyNamed? at h
  split at h
  next first second hPath =>
    have hNames := List.find?_some h
    rw [Bool.and_eq_true, beq_iff_eq, beq_iff_eq] at hNames
    exact ⟨first, second, hPath, hNames⟩
  next => cases h

theorem Key.fieldName_injective {other : Key} (h : key.fieldName = other.fieldName) :
    key = other := by
  cases key <;> cases other <;> first | rfl | exact absurd h (by decide)

/-- The last of several values is that of the rest, or else that of the first. -/
theorem getD_getLast?_filterMap_cons {α β : Type} (f : α → Option β) (x : α) (xs : List α) (d : β) :
    ((x :: xs).filterMap f).getLast?.getD d = (xs.filterMap f).getLast?.getD ((f x).getD d) := by
  cases hx : f x with
  | none => rw [List.filterMap_cons_none hx, Option.getD_none]
  | some y => rw [List.filterMap_cons_some hx, List.getLast?_cons, Option.getD_some,
      Option.getD_some]

namespace Step

/-- The file that the step adds. -/
def layer? : Step → Option Layer
  | file path required => some ⟨path, required⟩
  | override .. => none

/-- The single value that the step adds. -/
def single? : Step → Option (List PathStep × Scalar)
  | file .. => none
  | override name content =>
    match readPath name with
    | .ok path => some (path, content)
    | .error _ => none

end Step

/-- Steps are taken by adding to the files and to the single values, each in order. -/
theorem foldlM_take (hValid : ∀ step ∈ steps, step.IsValid files) (loader : Loader) :
    steps.foldlM Loader.take loader = .ok
      ⟨loader.layers ++ steps.filterMap (·.layer?),
        loader.overrides ++ steps.filterMap (·.single?)⟩ := by
  induction steps generalizing loader with
  | nil =>
      rw [List.filterMap_nil, List.filterMap_nil, List.append_nil, List.append_nil]
      rfl
  | cons step steps ih =>
      obtain ⟨hStep, hSteps⟩ := List.forall_mem_cons.mp hValid
      cases hStep with
      | @file path required hRequired hFile =>
          have hTail := ih hSteps (loader.addFile path required)
          rw [List.foldlM_cons, Loader.take]
          change steps.foldlM Loader.take (loader.addFile path required) = _
          rw [hTail, Loader.addFile]
          simp [Step.layer?, Step.single?]
      | @override name content key hKey hAdmits =>
          obtain ⟨first, second, hPath, -⟩ := exists_path_of_keyNamed? hKey
          have hAdd : loader.addOverride name content = .ok { loader with
              overrides := loader.overrides ++ [([.name first, .name second], content)] } := by
            rw [Loader.addOverride, hPath]
          have hTail := ih hSteps { loader with
            overrides := loader.overrides ++ [([.name first, .name second], content)] }
          rw [List.foldlM_cons, Loader.take, hAdd]
          exact hTail.trans (by simp [Step.layer?, Step.single?, hPath])

/-- The values in the file that a path leads to. -/
def valuesAt (files : Files) (path : String) : List (String × Value) :=
  match locate? files path, entriesAt? files path with
  | some (_, origin), some entries => Value.ofTomlEntries origin entries
  | _, _ => []

theorem keyed_entriesAt? {path : String} {entries : List (String × Toml.Value)}
    (h : entriesAt? files path = some entries) : Toml.Keyed Toml.Value.NamesDiffer entries := by
  obtain ⟨found, -, h⟩ := Option.bind_eq_some_iff.mp h
  obtain ⟨text, -, hRead⟩ := Option.bind_eq_some_iff.mp h
  exact Toml.keyed_read? hRead

theorem Step.IsValid.read {path : String} {required : Bool}
    (h : IsValid files (.file path required)) :
    Layer.read files ⟨path, required⟩ = .ok (valuesAt files path) := by
  cases h with
  | file hRequired hFile =>
      rw [Layer.read, valuesAt]
      cases hLocated : locate? files path with
      | none =>
          cases required with
          | false => rfl
          | true =>
              rw [hLocated] at hRequired
              cases hRequired rfl
      | some found =>
          obtain ⟨bytes, origin⟩ := found
          obtain ⟨entries, hEntries, -⟩ := hFile (by rw [hLocated]; rfl)
          rw [hEntries]
          rw [entriesAt?, hLocated] at hEntries
          change (String.fromUTF8? bytes).bind Toml.read? = some entries at hEntries
          obtain ⟨text, hText, hRead⟩ := Option.bind_eq_some_iff.mp hEntries
          simp only [hText, hRead]

theorem mapM_read (hValid : ∀ step ∈ steps, step.IsValid files) :
    (steps.filterMap (·.layer?)).mapM (Layer.read files) =
      .ok ((steps.filterMap (·.layer?)).map fun layer => valuesAt files layer.path) := by
  induction steps with
  | nil => rfl
  | cons step steps ih =>
      obtain ⟨hStep, hSteps⟩ := List.forall_mem_cons.mp hValid
      cases step with
      | override name content => exact ih hSteps
      | file path required =>
          have hLayer : (Step.file path required).layer? = some ⟨path, required⟩ := rfl
          rw [List.filterMap_cons_some hLayer, List.mapM_cons, hStep.read, ih hSteps]
          rfl

theorem Holds.foldl_valuesAt {path : String} {required : Bool} (h : Holds root key content)
    (hValid : Step.IsValid files (.file path required))
    (hQuiet : Step.IsQuiet files (.file path required)) :
    Holds ((valuesAt files path).foldl lay root) key
      (((Step.file path required).fileValue? files key).getD content) := by
  rw [valuesAt, Step.fileValue?]
  cases hValid with
  | file hRequired hFile =>
      cases hLocated : locate? files path with
      | none =>
          rw [entriesAt?, hLocated]
          exact h
      | some found =>
          obtain ⟨entries, hEntries, hTyped⟩ := hFile (by rw [hLocated]; rfl)
          rw [hEntries]
          exact h.foldl_lay (keyed_entriesAt? hEntries) hTyped (hQuiet entries hEntries)

/-- After all files the key has what the last of them says. -/
theorem Holds.foldl_layers (h : Holds root key content)
    (hValid : ∀ step ∈ steps, step.IsValid files) (hQuiet : ∀ step ∈ steps, step.IsQuiet files) :
    Holds (((steps.filterMap (·.layer?)).map fun layer => valuesAt files layer.path).foldl
        (fun root entries => entries.foldl lay root) root) key
      ((steps.filterMap (·.fileValue? files key)).getLast?.getD content) := by
  induction steps generalizing root content with
  | nil => exact h
  | cons step steps ih =>
      obtain ⟨hStep, hSteps⟩ := List.forall_mem_cons.mp hValid
      obtain ⟨hHere, hLater⟩ := List.forall_mem_cons.mp hQuiet
      rw [getD_getLast?_filterMap_cons]
      cases step with
      | override name content => exact ih h hSteps hLater
      | file path required => exact ih (h.foldl_valuesAt hStep hHere) hSteps hLater

/-- A single value is set at its key, and nowhere else. -/
theorem Holds.overlay {name : String} {value : Scalar} {other : Key} {path : List PathStep}
    (h : Holds root key content) (hKey : keyNamed? name = some other)
    (hAdmits : other.admits value = true) (hPath : readPath name = .ok path) :
    Holds (Loader.overlay root (path, value)) key
      (((Step.override name value).overrideValue? key).getD content) := by
  obtain ⟨first, second, hSame, hFirst, hSecond⟩ := exists_path_of_keyNamed? hKey
  obtain rfl := Except.ok.inj (hPath.symm.trans hSame)
  rw [Step.overrideValue?, hKey]
  by_cases hOther : other = key
  · subst hOther
    rw [if_pos rfl]
    exact h.assign_self hFirst hSecond hAdmits none
  · have hAvoids : key.Avoids [.name first, .name second] := by
      rintro ⟨-, hField⟩
      exact hOther (Key.fieldName_injective (hSecond.symm.trans hField))
    rw [if_neg (fun hSome => hOther (Option.some.inj hSome))]
    exact h.assign hAvoids _

/-- After all single values the key has the last that was set for it. -/
theorem Holds.foldl_singles (h : Holds root key content)
    (hValid : ∀ step ∈ steps, step.IsValid files) :
    Holds ((steps.filterMap (·.single?)).foldl Loader.overlay root) key
      ((steps.filterMap (·.overrideValue? key)).getLast?.getD content) := by
  induction steps generalizing root content with
  | nil => exact h
  | cons step steps ih =>
      obtain ⟨hStep, hSteps⟩ := List.forall_mem_cons.mp hValid
      rw [getD_getLast?_filterMap_cons]
      cases hStep with
      | file => exact ih h hSteps
      | @override name value other hKey hAdmits =>
          obtain ⟨first, second, hPath, -⟩ := exists_path_of_keyNamed? hKey
          have hSingle : (Step.override name value).single? =
              some ([.name first, .name second], value) := by
            rw [Step.single?, hPath]
          rw [List.filterMap_cons_some hSingle, List.foldl_cons]
          exact ih (h.overlay hKey hAdmits hPath) hSteps

/-- All values, after the files and then the single values have been laid over what is built in. -/
def valuesOf (files : Files) (steps : List Step) : Value :=
  (steps.filterMap (·.single?)).foldl Loader.overlay
    (((steps.filterMap (·.layer?)).map fun layer => valuesAt files layer.path).foldl
      (fun root entries => entries.foldl lay root) standardValue)

theorem exists_load_of_holds (hValid : ∀ step ∈ steps, step.IsValid files)
    {contents : Key → Scalar} (hHolds : ∀ key, Holds (valuesOf files steps) key (contents key)) :
    ∃ settings, load files steps = .ok settings ∧ ∀ key, settings.get key = contents key := by
  obtain ⟨settings, hSettings, hGet⟩ := ofValue_of_holds hHolds
  refine ⟨settings, ?_, hGet⟩
  rw [load, foldlM_take hValid]
  change (Loader.mk ([] ++ steps.filterMap (·.layer?)) ([] ++ steps.filterMap (·.single?))).build
    files = _
  rw [List.nil_append, List.nil_append, Loader.build, Loader.values, mapM_read hValid]
  exact hSettings

/-- Valid steps come to settings, and these are as they are to be. -/
theorem exists_load (hValid : ∀ step ∈ steps, step.IsValid files)
    (hQuiet : ∀ step ∈ steps, step.IsQuiet files) :
    ∃ settings, load files steps = .ok settings ∧
      ∀ key, settings.get key = chosen files steps key :=
  exists_load_of_holds hValid fun key =>
    ((holds_standardValue key).foldl_layers hValid hQuiet).foldl_singles hValid

end Load

section Order

variable {files : Files} {steps other : List Step}

end Order

section Command

variable {files : Files} {path format : Option String} {lineNumbers : Bool}

/-- The steps that a command line asks for. -/
def commandSteps (path format : Option String) (lineNumbers : Bool) : List Step :=
  path.toList.map (.file · true) ++
    (format.toList.map fun text => .override "output.format" (.text text)) ++
    if lineNumbers then [.override "output.show_line_numbers" (.flag true)] else []

theorem outlineSettings_eq_load (files : Files) (path format : Option String) (lineNumbers : Bool) :
    outlineSettings files path format lineNumbers =
      load files (commandSteps path format lineNumbers) := by
  have hBind : ∀ {α β : Type} (x : α) (f : α → Except Error β), (Except.ok x >>= f) = f x :=
    fun _ _ => rfl
  cases path <;> cases format <;> cases lineNumbers <;>
    simp [outlineSettings, load, commandSteps, Loader.take, hBind]

theorem mem_commandSteps {step : Step} (h : step ∈ commandSteps path format lineNumbers) :
    (∃ file ∈ path, step = .file file true) ∨
      (∃ text ∈ format, step = .override "output.format" (.text text)) ∨
        lineNumbers = true ∧ step = .override "output.show_line_numbers" (.flag true) := by
  simpa [commandSteps, eq_comm, or_assoc] using h

/-- What the command line asks for wins over what its file of settings says. -/
theorem outlineSettings_flags (hValid : ∀ file ∈ path, Step.IsValid files (.file file true))
    (hQuiet : ∀ file ∈ path, Step.IsQuiet files (.file file true)) :
    ∃ settings, outlineSettings files path format lineNumbers = .ok settings ∧
      (∀ text ∈ format, settings.format = text) ∧
      (lineNumbers = true → settings.lineNumbers = true) := by
  have hFormat : keyNamed? "output.format" = some .format := by decide +kernel
  have hNumbers : keyNamed? "output.show_line_numbers" = some .lineNumbers := by decide +kernel
  have hSteps : ∀ step ∈ commandSteps path format lineNumbers,
      step.IsValid files ∧ step.IsQuiet files := by
    intro step hStep
    obtain ⟨file, hFile, rfl⟩ | ⟨text, -, rfl⟩ | ⟨-, rfl⟩ := mem_commandSteps hStep
    · exact ⟨hValid file hFile, hQuiet file hFile⟩
    · exact ⟨.override hFormat rfl, trivial⟩
    · exact ⟨.override hNumbers rfl, trivial⟩
  obtain ⟨settings, hLoad, hGet⟩ := exists_load (fun step hStep => (hSteps step hStep).1)
    (fun step hStep => (hSteps step hStep).2)
  refine ⟨settings, (outlineSettings_eq_load ..).trans hLoad, ?_, ?_⟩
  · intro text hText
    have hChosen : Scalar.text settings.format = chosen files _ .format := hGet .format
    obtain rfl := Option.mem_def.mp hText
    cases lineNumbers <;>
      simpa [chosen, commandSteps, Step.overrideValue?, hFormat, hNumbers] using hChosen
  · rintro rfl
    have hChosen : Scalar.flag settings.lineNumbers = chosen files _ .lineNumbers :=
      hGet .lineNumbers
    simpa [chosen, commandSteps, Step.overrideValue?, hFormat, hNumbers] using hChosen

end Command

section Text

variable {files : Files} {path text : String} {entries : List (String × Toml.Value)}

end Text

end RuleOutline.Settings
