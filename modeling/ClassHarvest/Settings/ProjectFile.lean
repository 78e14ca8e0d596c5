import ClassHarvest.Files.Disk
import ClassHarvest.Settings.Project
import ClassHarvest.Yaml.Value

/-!
# The configuration file of a project

A project may say its settings in a YAML file in its directory.  What has no sense in its place counts
as left out, except that the file as a whole must hold a mapping, or nothing.
-/

namespace ClassHarvest

open Yaml

/-- Why the settings of a project cannot be read. -/
inductive SettingsError where
  /-- The file cannot be read. -/
  | file (error : FileReadError)
  /-- The file is no configuration. -/
  | config (error : ConfigError)
  /-- A value of the file cannot be made of its text. -/
  | value (error : LoadError)
deriving DecidableEq, Repr

/-- The wording of a refusal. -/
def SettingsError.message : SettingsError → Text
  | .file error => error.message
  | .config error => error.message
  | .value error => error.message

/-- The refusal that a refusal of the document becomes. -/
def SettingsError.ofLoadError : LoadError → SettingsError
  | .malformed => .config .unparsable
  | error => .value error

namespace ProjectSettings

/-! ## Values -/

/-- Whether a scalar holds nothing. -/
def isVoidScalar : Scalar → Bool
  | .null => true
  | .bool value => !value
  | .int value => value = 0
  | .float value => value.isZero
  | .text value => value.isEmpty
  | .bytes value => value.isEmpty
  | .timestamp _ => false

/-- Whether a collection holds nothing. -/
def isVoidCollection : Collection → Bool
  | .sequence items => items.isEmpty
  | .mapping entries => entries.isEmpty
  | .set members => members.isEmpty
  | .pairs pairs => pairs.isEmpty

/-- Whether a value holds nothing. -/
def isVoid (document : Document) (value : Value) : Bool :=
  match value with
  | .scalar scalar => isVoidScalar scalar
  | .collection _ => (document.collection? value).any isVoidCollection

/-- The entries that count where a mapping is meant. -/
def entriesOf (document : Document) (value : Option Value) : List (Scalar × Value) :=
  (value.bind document.mapping?).getD []

/-- The value of a name among some entries. -/
def member? (entries : List (Scalar × Value)) (name : Text) : Option Value :=
  (entries.find? fun (key, _) => key.isSameKey (.text name)).map (·.2)

/-- The text that counts where a text is meant: a text, a number or a truth value as a text. -/
def textOf? (value : Option Value) : Except LoadError (Option Text) :=
  match value with
  | some (.scalar scalar) =>
    match scalar with
    | .bool _ | .int _ | .float _ | .text _ => scalar.display.map some
    | .null | .bytes _ | .timestamp _ => return none
  | _ => return none

/-- The texts that count where texts are meant: one text, or those of a sequence. -/
def textsOf (document : Document) (value : Option Value) : Except LoadError (List Text) := do
  match value with
  | some (.scalar (.text text)) => return [text]
  | some (.scalar (.bytes bytes)) => return bytes.map fun byte => Text.ofNat byte.toNat
  | some value =>
    match document.collection? value with
    | some (.sequence items) => return (← items.mapM fun item => textOf? (some item)).filterMap id
    | _ => return []
  | none => return []

/-- The suffixes of files: those in a text with bars between, or those of a sequence. -/
def suffixesOf (document : Document) (value : Option Value) : Except LoadError (List Text) := do
  match value with
  | some (.scalar (.text text)) => return splitExtensions text
  | _ => return ((← textsOf document value).map Text.strip).filter fun suffix => !suffix.isEmpty

/-- Options: the entries that have a value, both sides as texts. -/
def optionsOf (document : Document) (value : Option Value) : Except LoadError Options := do
  let entries := (entriesOf document value).filter fun (_, value) => value ≠ .scalar .null
  return Dictionary.ofPairs (← entries.mapM fun (key, value) => do
    return (← key.display, ← document.display value))

/-! ## Reading -/

/-- The settings that some entries say. -/
def ofEntries (document : Document) (entries : List (Scalar × Value)) :
    Except LoadError ProjectSettings := do
  let scanners := entriesOf document (member? entries "scanners")
  let emit := entriesOf document (member? entries "emit")
  return {
    enabled := ← textsOf document (member? scanners "enabled")
    mode := ← textOf? (member? emit "mode")
    outputDirectory := ← textOf? (member? emit "output_dir")
    options := ← optionsOf document (member? entries "options")
    pattern := ← textOf? (member? entries "pattern")
    extensions := ← suffixesOf document (member? entries "file_extensions")
    helpers := ← textsOf document (member? entries "helper_methods")
    excluded := ← textsOf document (member? entries "exclude_paths") }

/-- The settings that a text says. -/
def ofText (text : Text) : Except SettingsError ProjectSettings := do
  if text.isBlank then return {}
  let document ← (Document.ofText text).mapError .ofLoadError
  if isVoid document document.root then return {}
  match document.mapping? document.root with
  | some entries => (ofEntries document entries).mapError .ofLoadError
  | none => throw (.config .noMapping)

/-- The configuration file for a path: the one in that directory, or the one beside that file. -/
def fileFor (disk : Disk) (path : Path) : Path :=
  let file :=
    if disk.isDirectory path then path.child configFile
    else if path.name = configFile then path
    else path.parent.child configFile
  file.normal

/-- The directory of a project and its settings, by an absolute path into it.  Without a configuration
file nothing is set. -/
def load (disk : Disk) (path : Path) : Except SettingsError (Path × ProjectSettings) := do
  let file := fileFor disk path
  if disk.exists file then
    let text ← (disk.readText file).mapError .file
    return (file.parent, ← ofText text)
  else return (file.parent, {})

end ProjectSettings
end ClassHarvest
