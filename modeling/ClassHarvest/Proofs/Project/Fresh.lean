import ClassHarvest.Project.Search
import ClassHarvest.Proofs.Cache.Stored
import ClassHarvest.Proofs.CSharp.Units
import ClassHarvest.Proofs.Pattern.Extract
import ClassHarvest.Proofs.Scan.Computation
import ClassHarvest.Proofs.Text.Utf8

/-!
# What is found in a file as it is

The markers and the findings in a file depend on its path, its bytes and the settings alone.  This
module gives them as functions, and shows when a cache keeps them as they are.
-/

namespace ClassHarvest.Project

open CSharp Json Pattern Scan

/-! ## Reading -/

/-- The text of a file with some bytes, if it can be read. -/
def freshText (bytes : List UInt8) : Option Text :=
  match Utf8.decode bytes with
  | .ok text => some text.universalNewlines
  | .error _ => none

/-- The source unit of a file, unless it cannot be read. -/
def freshUnit (path : Text) (bytes : List UInt8) :
    Except Literal.LiteralError (Option SourceUnit) :=
  match freshText bytes with
  | none => .ok none
  | some text => (SourceUnit.read path (Sha256.hexDigest bytes) text).map some

/-- The candidates for the marker in a file. -/
def freshMarkers (path : Text) (bytes : List UInt8) :
    Except Literal.LiteralError (List Marker) :=
  (freshUnit path bytes).map fun unit => (unit.map Marker.candidates).getD []

/-- What a scanner finds in a file that it reads. -/
def freshFindings (scanner : Scanner) (settings : RunSettings) (path : Text)
    (bytes : List UInt8) : Except Failure (List Finding) :=
  match scanner.input with
  | .file =>
    match freshText bytes with
    | none => .ok []
    | some text => (scanner.findingsInFile settings ⟨path, text⟩).mapError .extraction
  | .source =>
    match freshUnit path bytes with
    | .error error => .error (.literal error)
    | .ok none => .ok []
    | .ok (some unit) => (scanner.findingsInUnit settings unit).mapError .extraction

/-! ## Characters that are read -/

theorem freshText_chars {bytes : List UInt8} {text : Text} (read : freshText bytes = some text) :
    ∀ c ∈ text, c.isSurrogate = false ∧ c.val ≠ 13 := by
  unfold freshText at read
  split at read
  · next decoded isDecoded =>
      cases read
      intro c mem
      rcases Text.mem_of_mem_universalNewlines mem with rfl | ⟨inText, noReturn⟩
      · decide
      · exact ⟨Utf8.isSurrogate_of_mem_decode isDecoded c inText, noReturn⟩
  · cases read

/-- What is read from a disk is the text of some bytes. -/
theorem exists_freshText_of_readText {disk : Disk} {path : Path} {text : Text}
    (read : disk.readText path = .ok text) : ∃ bytes, freshText bytes = some text := by
  unfold Disk.readText at read
  cases isBytes : disk.read path with
  | error error =>
      rw [isBytes] at read
      cases read
  | ok bytes =>
      rw [isBytes] at read
      refine ⟨bytes, ?_⟩
      unfold freshText
      dsimp only at read
      split at read
      · cases read
      · next decoded =>
          cases read
          rw [decoded]

theorem joinSurrogates_of_chars {t : Text} (chars : ∀ c ∈ t, c.isSurrogate = false) :
    joinSurrogates t = t := by
  apply joinSurrogates_of_hasSurrogate
  simpa [Text.hasSurrogate] using chars

theorem path_of_freshUnit {path : Text} {bytes : List UInt8} {unit : SourceUnit}
    (read : freshUnit path bytes = .ok (some unit)) : unit.path = path := by
  unfold freshUnit at read
  split at read
  · cases read
  · next text _ =>
      cases isRead : SourceUnit.read path (Sha256.hexDigest bytes) text with
      | error error =>
          rw [isRead] at read
          cases read
      | ok unit' =>
          rw [isRead] at read
          cases read
          exact (SourceUnit.read_eq_ok isRead).1

/-! ## Markers as a cache keeps them -/

/-- The markers in a file have only characters of its text and dots, and bear its path. -/
theorem freshMarkers_all {path : Text} {bytes : List UInt8} {markers : List Marker}
    (fresh : freshMarkers path bytes = .ok markers) : ∀ marker ∈ markers,
      (∀ c ∈ marker.name, c.isSurrogate = false ∧ c.val ≠ 13) ∧
      (∀ c ∈ marker.namespace, c.isSurrogate = false ∧ c.val ≠ 13) ∧
      (∀ c ∈ marker.modifiers, c.isSurrogate = false ∧ c.val ≠ 13) ∧ marker.path = path := by
  unfold freshMarkers freshUnit at fresh
  cases isText : freshText bytes with
  | none =>
      rw [isText] at fresh
      cases fresh
      intro marker mem
      cases mem
  | some text =>
      rw [isText] at fresh
      simp only at fresh
      cases read : SourceUnit.read path (Sha256.hexDigest bytes) text with
      | error error =>
          rw [read] at fresh
          cases fresh
      | ok unit =>
          rw [read] at fresh
          cases fresh
          intro marker mem
          obtain ⟨declaration, isCandidate, rfl⟩ := List.mem_map.mp mem
          have declared := (List.mem_filter.mp isCandidate).1
          obtain ⟨all, path_⟩ := SourceUnit.declarations_all (by decide) (freshText_chars isText)
            read declaration declared
          exact ⟨all.name, all.namespace, all.modifierText, path_⟩

theorem joined_freshMarkers {path : Text} {bytes : List UInt8} {markers : List Marker}
    (fresh : freshMarkers path bytes = .ok markers) (whole : joinSurrogates path = path) :
    markers.map Marker.joined = markers := by
  have each : ∀ marker ∈ markers, marker.joined = id marker := by
    intro marker mem
    obtain ⟨name, space, modifiers, path_⟩ := freshMarkers_all fresh marker mem
    have joinedName := joinSurrogates_of_chars fun c mem => (name c mem).1
    have joinedSpace := joinSurrogates_of_chars fun c mem => (space c mem).1
    have joinedModifiers := joinSurrogates_of_chars fun c mem => (modifiers c mem).1
    unfold Marker.joined
    rw [joinedName, joinedSpace, joinedModifiers, path_, whole, ← path_]
    rfl
  rw [List.map_congr_left each, List.map_id]

/-! ## Findings as a cache keeps them -/

/-- The string literals among the arguments in a unit hold no surrogates. -/
def WholeLiterals (unit : SourceUnit) : Prop :=
  ∀ call ∈ unit.calls, ∀ argument ∈ call.arguments, ∀ value,
    argument.stringValue? = some value → ∀ c ∈ value, c.isSurrogate = false

instance (unit : SourceUnit) : Decidable (WholeLiterals unit) :=
  inferInstanceAs (Decidable (∀ call ∈ unit.calls, ∀ argument ∈ call.arguments,
    ∀ value ∈ argument.stringValue?, ∀ c ∈ value, c.isSurrogate = false))

theorem stringArgument?_whole {call : Call} (whole : ∀ argument ∈ call.arguments, ∀ value,
    argument.stringValue? = some value → ∀ c ∈ value, c.isSurrogate = false) {place : Nat}
    {value : Text} (given : call.stringArgument? place = some value) :
    ∀ c ∈ value, c.isSurrogate = false := by
  obtain ⟨argument, isArgument, isValue⟩ := Option.bind_eq_some_iff.mp given
  exact whole argument (List.mem_of_getElem? isArgument) value isValue

/-- The class names that a call supplies hold no surrogates if its literals hold none. -/
theorem supplied_whole {scanner : Scanner} {settings : RunSettings} {call : Call}
    (whole : ∀ argument ∈ call.arguments, ∀ value,
      argument.stringValue? = some value → ∀ c ∈ value, c.isSurrogate = false)
    {classes : List Text} (supplied : scanner.supplied settings call = .ok (some classes)) :
    ∀ name ∈ classes, ∀ c ∈ name, c.isSurrogate = false := by
  have single {found : Option Text} {place : Nat} (isFound : found = call.stringArgument? place)
      (given : found.map ([·]) = some classes) :
      ∀ name ∈ classes, ∀ c ∈ name, c.isSurrogate = false := by
    obtain ⟨value, isValue, rfl⟩ := Option.map_eq_some_iff.mp given
    intro name mem
    rw [List.mem_singleton.mp mem]
    exact stringArgument?_whole whole (isFound ▸ isValue)
  unfold Scanner.supplied at supplied
  split at supplied
  · exact single rfl (Except.ok.inj supplied)
  · unfold Call.markupLiterals? at supplied
    split at supplied
    · cases supplied
    · next markup isMarkup =>
        cases extracted : settings.pattern.extract markup with
        | error error =>
            rw [extracted] at supplied
            cases supplied
        | ok found =>
            rw [extracted] at supplied
            cases supplied
            intro name mem c inName
            exact stringArgument?_whole whole isMarkup c
              (ClassPattern.mem_of_extract extracted name mem c inName)
  · exact single rfl (Except.ok.inj supplied)
  · cases supplied
  · cases supplied

theorem joined_eq_self {finding : Finding} (category : ∀ c ∈ finding.category, c.isSurrogate = false)
    (path : joinSurrogates finding.path = finding.path)
    (classes : ∀ name ∈ finding.classes, ∀ c ∈ name, c.isSurrogate = false) :
    finding.joined = finding := by
  have each : ∀ name ∈ finding.classes, joinSurrogates name = id name :=
    fun name mem => joinSurrogates_of_chars (classes name mem)
  unfold Finding.joined
  rw [joinSurrogates_of_chars category, path, List.map_congr_left each, List.map_id]

theorem isSurrogate_of_mem_category {scanner : Scanner} (own : scanner ∈ Scanner.builtIn) :
    ∀ c ∈ scanner.category, c.isSurrogate = false := by
  have all : ∀ scanner ∈ Scanner.builtIn, ∀ c ∈ scanner.category, c.isSurrogate = false := by
    decide
  exact all scanner own

/-- A finding bears the category of the scanner and the path of the file. -/
theorem of_mem_freshFindings {scanner : Scanner} {settings : RunSettings} {path : Text}
    {bytes : List UInt8} {found : List Finding}
    (fresh : freshFindings scanner settings path bytes = .ok found) {finding : Finding}
    (mem : finding ∈ found) : finding.category = scanner.category ∧ finding.path = path := by
  unfold freshFindings at fresh
  split at fresh
  · split at fresh
    · cases fresh
      cases mem
    · next text _ =>
        cases searched : scanner.findingsInFile settings ⟨path, text⟩ with
        | error error =>
            rw [searched] at fresh
            cases fresh
        | ok inFile =>
            rw [searched] at fresh
            cases fresh
            obtain ⟨classes, _, rfl⟩ := Scanner.exists_of_mem_findingsInFile searched mem
            exact ⟨rfl, rfl⟩
  · split at fresh
    · cases fresh
    · cases fresh
      cases mem
    · next unit isUnit =>
        cases searched : scanner.findingsInUnit settings unit with
        | error error =>
            rw [searched] at fresh
            cases fresh
        | ok inUnit =>
            rw [searched] at fresh
            cases fresh
            obtain ⟨call, _, classes, _, rfl⟩ := Scanner.exists_of_mem_findingsInUnit searched mem
            exact ⟨rfl, path_of_freshUnit isUnit⟩

/-- A cache keeps the findings in a file as they are if no literal in it holds a surrogate. -/
theorem joined_freshFindings {scanner : Scanner} (own : scanner ∈ Scanner.builtIn)
    {settings : RunSettings} {path : Text} {bytes : List UInt8} {found : List Finding}
    (fresh : freshFindings scanner settings path bytes = .ok found)
    (wholePath : joinSurrogates path = path)
    (whole : scanner.input = .source →
      ∀ unit, freshUnit path bytes = .ok (some unit) → WholeLiterals unit) :
    found.map Finding.joined = found := by
  have category := isSurrogate_of_mem_category own
  have each : ∀ finding ∈ found, finding.joined = id finding := by
    intro finding mem
    unfold freshFindings at fresh
    split at fresh
    · split at fresh
      · cases fresh
        cases mem
      · next text isText =>
          cases searched : scanner.findingsInFile settings ⟨path, text⟩ with
          | error error =>
              rw [searched] at fresh
              cases fresh
          | ok inFile =>
              rw [searched] at fresh
              cases fresh
              obtain ⟨classes, extracted, rfl⟩ := Scanner.exists_of_mem_findingsInFile searched mem
              apply joined_eq_self category wholePath
              intro name isName c inName
              exact (freshText_chars isText c
                (ClassPattern.mem_of_extract extracted name isName c inName)).1
    · next isSource =>
      split at fresh
      · cases fresh
      · cases fresh
        cases mem
      · next unit isUnit =>
          cases searched : scanner.findingsInUnit settings unit with
          | error error =>
              rw [searched] at fresh
              cases fresh
          | ok inUnit =>
              rw [searched] at fresh
              cases fresh
              obtain ⟨call, isCall, classes, supplied, rfl⟩ :=
                Scanner.exists_of_mem_findingsInUnit searched mem
              have samePath : unit.path = path := path_of_freshUnit isUnit
              apply joined_eq_self category
              · exact samePath ▸ wholePath
              · exact supplied_whole (whole isSource unit isUnit call isCall) supplied
  rw [List.map_congr_left each, List.map_id]

/-! ## What findings depend on -/

/-- Settings that say the same of the search for class names. -/
structure SameSearch (settings settings' : RunSettings) : Prop where
  pattern : settings.pattern = settings'.pattern
  extensions : settings.extensions = settings'.extensions
  helpers : settings.helpers = settings'.helpers

theorem SameSearch.eq_of_mode {settings settings' : RunSettings}
    (same : SameSearch settings settings') (mode : settings.mode = settings'.mode) :
    settings = settings' := by
  obtain ⟨pattern, extensions, helpers, _⟩ := settings
  obtain ⟨samePattern, sameExtensions, sameHelpers⟩ := same
  subst samePattern sameExtensions sameHelpers mode
  rfl

/-- The mode has no influence on findings. -/
theorem SameSearch.freshFindings {settings settings' : RunSettings}
    (same : SameSearch settings settings') (scanner : Scanner) (path : Text) (bytes : List UInt8) :
    freshFindings scanner settings path bytes = freshFindings scanner settings' path bytes := by
  obtain ⟨pattern, extensions, helpers, mode⟩ := settings
  obtain ⟨pattern', extensions', helpers', mode'⟩ := settings'
  obtain ⟨samePattern, sameExtensions, sameHelpers⟩ := same
  simp only at samePattern sameExtensions sameHelpers
  subst samePattern sameExtensions sameHelpers
  rfl

end ClassHarvest.Project
