import ClassHarvest.Proofs.Yaml.Display
import ClassHarvest.Settings.ProjectFile

/-!
# What the settings of a project are loaded from

A configuration file is a text that is blank or a document that is nothing or a mapping.  Any other file
is refused as a configuration, unless its bytes are no text, the parts of a value make none, or the
document is an empty value of another kind, which counts as nothing.
-/

namespace ClassHarvest.ProjectSettings

open Gathering Yaml

variable {disk : Disk} {path : Path} {bytes : List UInt8} {text : Text} {document : Document}
  {entries : List (Scalar × Value)}

/-! ## Values of a document without too great numbers -/

/-- A value that may be missing and has no too great number. -/
def IsPlain (value : Option Value) : Prop :=
  ∀ given ∈ value, given.IsWritable

theorem isPlain_member? (plain : ∀ entry ∈ entries, entry.2.IsWritable) (name : Text) :
    IsPlain (member? entries name) := by
  intro given isMember
  obtain ⟨entry, found, rfl⟩ := Option.map_eq_some_iff.mp isMember
  exact plain entry (List.mem_of_find?_eq_some found)

theorem isPlain_of_entries (writable : document.IsWritable) {value : Value}
    (isMapping : document.mapping? value = some entries) :
    ∀ entry ∈ entries, entry.1.isWritable ∧ entry.2.IsWritable := by
  have inside : ∀ scalar ∈ (Collection.mapping entries).scalars, scalar.isWritable := by
    unfold Document.mapping? at isMapping
    split at isMapping
    · next found =>
        cases isMapping
        cases value with
        | scalar scalar => cases found
        | collection id => exact writable.collection found
    · cases isMapping
  exact fun entry mem => ⟨inside entry.1 (List.mem_flatMap_of_mem mem List.mem_cons_self),
    fun scalar isScalar => inside scalar
      (List.mem_flatMap_of_mem mem (List.mem_cons_of_mem entry.1 isScalar))⟩

theorem isPlain_entriesOf (writable : document.IsWritable) (value : Option Value) :
    ∀ entry ∈ entriesOf document value, entry.1.isWritable ∧ entry.2.IsWritable := by
  unfold entriesOf
  cases found : value.bind document.mapping? with
  | none => exact fun entry mem => absurd mem List.not_mem_nil
  | some entries =>
      obtain ⟨given, -, isMapping⟩ := Option.bind_eq_some_iff.mp found
      exact isPlain_of_entries writable isMapping

theorem exists_textOf? {value : Option Value} (plain : IsPlain value) :
    ∃ found, textOf? value = .ok found := by
  have shown {scalar : Scalar} (isScalar : value = some (.scalar scalar)) :
      ∃ found, scalar.display.map some = .ok found := by
    obtain ⟨text, displayed⟩ := Scalar.exists_display
      (plain _ isScalar scalar (List.mem_singleton_self scalar))
    exact ⟨some text, by rw [displayed]; rfl⟩
  unfold textOf?
  split
  · split
    · exact shown rfl
    · exact shown rfl
    · exact shown rfl
    · exact shown rfl
    · exact ⟨none, rfl⟩
    · exact ⟨none, rfl⟩
    · exact ⟨none, rfl⟩
  · exact ⟨none, rfl⟩

theorem exists_textsOf (writable : document.IsWritable) (value : Option Value) :
    ∃ texts, textsOf document value = .ok texts := by
  unfold textsOf
  split
  · exact ⟨_, rfl⟩
  · exact ⟨_, rfl⟩
  · next value _ _ =>
      split
      · next items isSequence =>
          have inside : ∀ scalar ∈ (Collection.sequence items).scalars, scalar.isWritable := by
            cases value with
            | scalar scalar => cases isSequence
            | collection id => exact writable.collection isSequence
          have plain : ∀ item ∈ items, IsPlain (some item) :=
            fun item mem given isGiven scalar isScalar =>
              inside scalar (List.mem_flatMap_of_mem (Option.mem_some.mp isGiven ▸ mem) isScalar)
          obtain ⟨texts, all⟩ := exists_mapM_eq_ok_iff.mpr fun item mem =>
            exists_textOf? (plain item mem)
          exact ⟨_, bind_eq_ok_iff.mpr ⟨texts, all, rfl⟩⟩
      · exact ⟨_, rfl⟩
  · exact ⟨_, rfl⟩

theorem exists_suffixesOf (writable : document.IsWritable) (value : Option Value) :
    ∃ suffixes, suffixesOf document value = .ok suffixes := by
  unfold suffixesOf
  split
  · exact ⟨_, rfl⟩
  · obtain ⟨texts, all⟩ := exists_textsOf writable value
    exact ⟨_, bind_eq_ok_iff.mpr ⟨texts, all, rfl⟩⟩

theorem exists_optionsOf (writable : document.IsWritable) (value : Option Value) :
    ∃ options, optionsOf document value = .ok options := by
  have shown : ∀ entry ∈ entriesOf document value,
      ∃ pair, (do return (← entry.1.display, ← document.display entry.2)) =
        (.ok pair : Except LoadError (Text × Text)) := by
    intro entry mem
    have ⟨plainKey, plainValue⟩ := isPlain_entriesOf writable value entry mem
    obtain ⟨key, isKey⟩ := Scalar.exists_display plainKey
    obtain ⟨text, isValue⟩ := writable.exists_display plainValue
    exact ⟨_, bind_eq_ok_iff.mpr ⟨key, isKey, bind_eq_ok_iff.mpr ⟨text, isValue, rfl⟩⟩⟩
  obtain ⟨pairs, all⟩ := exists_mapM_eq_ok_iff.mpr fun entry mem =>
    shown entry (List.mem_of_mem_filter mem)
  exact ⟨_, bind_eq_ok_iff.mpr ⟨pairs, all, rfl⟩⟩

/-- A document without too great numbers says settings. -/
theorem exists_ofEntries (writable : document.IsWritable) {value : Value}
    (isMapping : document.mapping? value = some entries) :
    ∃ settings, ofEntries document entries = .ok settings := by
  have plain (name : Text) : IsPlain (member? entries name) :=
    isPlain_member? (fun entry mem => (isPlain_of_entries writable isMapping entry mem).2) name
  have plainIn (name inner : Text) :
      IsPlain (member? (entriesOf document (member? entries name)) inner) :=
    isPlain_member? (fun entry mem => (isPlain_entriesOf writable _ entry mem).2) inner
  obtain ⟨enabled, isEnabled⟩ := exists_textsOf writable
    (member? (entriesOf document (member? entries "scanners")) "enabled")
  obtain ⟨mode, isMode⟩ := exists_textOf? (plainIn "emit" "mode")
  obtain ⟨directory, isDirectory⟩ := exists_textOf? (plainIn "emit" "output_dir")
  obtain ⟨options, areOptions⟩ := exists_optionsOf writable (member? entries "options")
  obtain ⟨pattern, isPattern⟩ := exists_textOf? (plain "pattern")
  obtain ⟨suffixes, areSuffixes⟩ := exists_suffixesOf writable (member? entries "file_extensions")
  obtain ⟨helpers, areHelpers⟩ := exists_textsOf writable (member? entries "helper_methods")
  obtain ⟨excluded, areExcluded⟩ := exists_textsOf writable (member? entries "exclude_paths")
  unfold ofEntries
  dsimp only
  rw [isEnabled, isMode, isDirectory, areOptions, isPattern, areSuffixes, areHelpers, areExcluded]
  exact ⟨_, rfl⟩

/-! ## Texts -/

/-- A text that is a configuration: it is blank, or a document that is nothing or a mapping. -/
def IsConfigurationText (text : Text) : Prop :=
  text.isBlank ∨ ∃ document, Document.ofText text = .ok document ∧
    (document.root = .scalar .null ∨ (document.mapping? document.root).isSome)

/-- A text that says whether it is a configuration: it is blank, or no document, or a document that is
no empty value other than nothing or a mapping. -/
def IsDecisiveText (text : Text) : Prop :=
  text.isBlank ∨ Document.ofText text = .error .malformed ∨
    ∃ document, Document.ofText text = .ok document ∧
      (isVoid document document.root →
        document.root = .scalar .null ∨ (document.mapping? document.root).isSome)

theorem ofText_of_blank (blank : text.isBlank) : ofText text = .ok {} := by
  rw [ofText, if_pos blank]
  rfl

theorem ofText_of_error {error : LoadError} (notBlank : ¬ text.isBlank)
    (refused : Document.ofText text = .error error) : ofText text = .error (.ofLoadError error) := by
  rw [ofText, if_neg notBlank, refused]
  rfl

theorem ofText_of_document (notBlank : ¬ text.isBlank)
    (loaded : Document.ofText text = .ok document) :
    ofText text = if isVoid document document.root then .ok {} else
      match document.mapping? document.root with
      | some entries => (ofEntries document entries).mapError .ofLoadError
      | none => .error (.config .noMapping) := by
  rw [ofText, if_neg notBlank, loaded]
  rfl

theorem ofLoadError_eq_config_iff {error : LoadError} :
    (∃ refusal, SettingsError.ofLoadError error = .config refusal) ↔ error = .malformed := by
  unfold SettingsError.ofLoadError
  split
  · exact iff_of_true ⟨_, rfl⟩ rfl
  · next other =>
      refine iff_of_false ?_ other
      rintro ⟨_, same⟩
      cases same

/-- A text is taken for settings if it is a configuration and refused as a configuration if it is none,
just if it is decisive. -/
theorem ofText_judges_iff
    (writable : ∀ document, Document.ofText text = .ok document → document.IsWritable) :
    (IsConfigurationText text → ∃ settings, ofText text = .ok settings) ∧
      (¬ IsConfigurationText text → ∃ error, ofText text = .error (.config error)) ↔
    IsDecisiveText text := by
  by_cases blank : text.isBlank
  · exact iff_of_true ⟨fun _ => ⟨_, ofText_of_blank blank⟩, fun other => absurd (.inl blank) other⟩
      (.inl blank)
  cases loaded : Document.ofText text with
  | error error =>
      have noConfiguration : ¬ IsConfigurationText text := by
        rintro (isBlank | ⟨document, isDocument, _⟩)
        · exact blank isBlank
        · rw [loaded] at isDocument
          cases isDocument
      have judged : (∃ refusal, ofText text = .error (.config refusal)) ↔ error = .malformed := by
        rw [ofText_of_error blank loaded]
        simpa using ofLoadError_eq_config_iff
      simp [noConfiguration, judged, IsDecisiveText, blank, loaded]
  | ok document =>
  have isConfiguration : IsConfigurationText text ↔
      document.root = .scalar .null ∨ (document.mapping? document.root).isSome := by
    simp [IsConfigurationText, blank, loaded]
  have isDecisive : IsDecisiveText text ↔ (isVoid document document.root → IsConfigurationText text) := by
    rw [isConfiguration]
    simp [IsDecisiveText, blank, loaded]
  have outcome := ofText_of_document blank loaded
  rw [isDecisive]
  by_cases void : isVoid document document.root
  · rw [if_pos void] at outcome
    simp [outcome, void]
  · rw [if_neg void] at outcome
    refine iff_of_true ⟨?_, ?_⟩ fun isVoid => absurd isVoid void
    · rw [isConfiguration]
      rintro (isNull | isMapping)
      · rw [isNull] at void
        exact absurd rfl void
      · obtain ⟨entries, isMapping⟩ := Option.isSome_iff_exists.mp isMapping
        obtain ⟨settings, said⟩ := exists_ofEntries (writable document loaded) isMapping
        refine ⟨settings, ?_⟩
        rw [outcome, isMapping]
        dsimp only
        rw [said]
        rfl
    · rw [isConfiguration, not_or]
      rintro ⟨-, noMapping⟩
      rw [Option.not_isSome_iff_eq_none] at noMapping
      exact ⟨.noMapping, by rw [outcome, noMapping]⟩

/-! ## Files -/

/-- The content of a file that is a configuration. -/
def IsConfiguration (bytes : List UInt8) : Prop :=
  ∃ text, Utf8.decode bytes = .ok text ∧ IsConfigurationText text.universalNewlines

/-- The content of a file that says whether it is a configuration. -/
def IsDecisive (bytes : List UInt8) : Prop :=
  ∃ text, Utf8.decode bytes = .ok text ∧ IsDecisiveText text.universalNewlines

theorem exists_of_read (content : disk.read path = .ok bytes) : disk.exists path = true := by
  unfold Disk.read at content
  split at content
  · next found =>
      rw [Disk.exists, found]
      rfl
  · cases content
  · cases content

theorem load_of_read (content : disk.read (fileFor disk path) = .ok bytes) :
    load disk path = match Utf8.decode bytes with
      | .error error => .error (.file (.decoding error))
      | .ok text => (ofText text.universalNewlines).map ((fileFor disk path).parent, ·) := by
  unfold load
  dsimp only
  rw [if_pos (exists_of_read content), Disk.readText, content]
  dsimp only
  cases Utf8.decode bytes with
  | error error => rfl
  | ok text =>
      change (do return ((fileFor disk path).parent, ← ofText text.universalNewlines)) =
        (ofText text.universalNewlines).map _
      cases ofText text.universalNewlines <;> rfl

/-- A configuration with a list of helpers. -/
def helpersText : Text := "helper_methods: [AddClass, 12]\n"

/-- The content of a file with this configuration. -/
def helpersContent : List UInt8 :=
  (Utf8.encode helpersText).toOption.getD []

/-- A project with nothing but this file. -/
def helpersDisk : Disk where
  top := .directory [("p", .directory [(configFile, .file ⟨helpersContent, 0⟩)])]
  clock := 1

end ClassHarvest.ProjectSettings
