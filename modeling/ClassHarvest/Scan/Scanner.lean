import ClassHarvest.ClassSet
import ClassHarvest.Recognition
import ClassHarvest.Settings.Run

/-!
# Scanners

A scanner reads class names of one category: from the calls of source units, or from the text of
other files.  A scan may be called off while it searches a text.
-/

namespace ClassHarvest.Scan

open CSharp Pattern

/-! ## Scanners -/

/-- What a scanner reads. -/
inductive Input where
  /-- The calls of source units. -/
  | source
  /-- The text of files. -/
  | file
deriving DecidableEq, Repr

/-- Which class names a scanner finds. -/
inductive Subject where
  /-- The values of class attributes that calls build. -/
  | attributes
  /-- The class lists in markup that is given to calls. -/
  | markup
  /-- What is given to helpers. -/
  | helpers
  /-- The class lists in files. -/
  | files
  /-- None. -/
  | nothing
deriving DecidableEq, Repr

/-- What the scanners for a subject read. -/
def Subject.input : Subject → Input
  | .files => .file
  | _ => .source

/-- A scanner. -/
structure Scanner where
  /-- What it finds. -/
  subject : Subject
  /-- The category of its findings. -/
  category : Text
  /-- The method that gives them. -/
  accessor : Text
  /-- What tells it from other scanners. -/
  identity : Text
deriving DecidableEq, Repr

namespace Scanner

/-- What a scanner reads. -/
def input (scanner : Scanner) : Input :=
  scanner.subject.input

/-- The scanner for class attributes. -/
def attributes : Scanner :=
  ⟨.attributes, "attributes", "AttributeClassValues", "cssjit.scanners.attributes.AttributeScanner"⟩

/-- The scanner for markup in calls. -/
def markup : Scanner :=
  ⟨.markup, "markup", "MarkupClassValues", "cssjit.scanners.markup.MarkupScanner"⟩

/-- The scanner for calls of helpers. -/
def helpers : Scanner :=
  ⟨.helpers, "helpers", "CssClassCallValues", "cssjit.scanners.helper_calls.HelperCallScanner"⟩

/-- The scanner for files. -/
def files : Scanner :=
  ⟨.files, "files", "FileClassValues", "cssjit.scanners.files.MarkupFileScanner"⟩

/-- A scanner that finds nothing. -/
def idle : Scanner :=
  ⟨.nothing, [], [], "cssjit.scanners.base.Scanner"⟩

/-- The scanners that come with the program, in the order of their categories. -/
def builtIn : List Scanner := [attributes, markup, helpers, files]

end Scanner

/-- A file that is searched as a whole. -/
structure TextFile where
  /-- Where it is. -/
  path : Text
  /-- What it holds. -/
  text : Text
deriving DecidableEq, Repr

/-! ## Scanning -/

/-- What a scan keeps account of. -/
structure Progress where
  /-- How often the signal to cancel was asked. -/
  asked : Nat := 0
  /-- What was reported. -/
  log : Log := []

/-- A scan, which may fail. -/
abbrev Scanning := ExceptT ExtractError (StateM Progress)

/-- Report something. -/
def report (records : Log) : Scanning Unit :=
  modify fun progress => { progress with log := progress.log ++ records }

/-- The class lists in a text. -/
def find (settings : RunSettings) (signal : Signal) (text : Text) : Scanning (List Text) := do
  match settings.pattern.extractUnder signal (← get).asked text with
  | .error error => throw error
  | .ok (found, asked) =>
    modify fun progress => { progress with asked }
    return found

namespace Scanner

/-- Whether a call has the shape that a scanner reads. -/
def «matches» (scanner : Scanner) (settings : RunSettings) (call : Call) : Bool :=
  match scanner.subject with
  | .attributes => call.isAttribute
  | .markup => call.isMarkup
  | .helpers => call.isHelper settings.helpers
  | .files | .nothing => false

/-- The class names in a call of the shape that a scanner reads. -/
def extract (scanner : Scanner) (settings : RunSettings) (signal : Signal) (call : Call) :
    Scanning (Option (List Text)) :=
  match scanner.subject with
  | .attributes => return call.attributeLiteral?.map ([·])
  | .markup => call.markupLiterals? (find settings signal)
  | .helpers => return call.helperLiteral?.map ([·])
  | .files | .nothing => return none

/-- What is reported of a call that supplies no class names. -/
def skipped (scanner : Scanner) (unit : SourceUnit) (call : Call) : LogRecord where
  level := .trace
  message :=
    let path := if call.path.isEmpty then unit.path else call.path
    scanner.category ++ ": skipping " ++ call.name ++ " call at " ++ path ++ ":" ++
      Text.ofNat call.line ++ " (argument is not a literal)"

/-- The finding of a scanner at a call, if there is one. -/
def scanCall (scanner : Scanner) (settings : RunSettings) (signal : Signal) (unit : SourceUnit)
    (call : Call) : Scanning (Option Finding) := do
  if scanner.matches settings call then
    match ← scanner.extract settings signal call with
    | some classes => return some ⟨scanner.category, unit.path, call.line, classes⟩
    | none =>
      report [scanner.skipped unit call]
      return none
  else return none

/-- The findings of a scanner in a source unit. -/
def scanUnit (scanner : Scanner) (settings : RunSettings) (signal : Signal) (unit : SourceUnit) :
    Scanning (List Finding) := do
  return (← unit.calls.mapM (scanner.scanCall settings signal unit)).filterMap id

/-- Whether a scanner reads a file. -/
def supports (scanner : Scanner) (settings : RunSettings) (path : Text) : Bool :=
  scanner.input = .file && settings.accepts path

/-- The findings of a scanner in a file: one if it reads the file. -/
def scanFile (scanner : Scanner) (settings : RunSettings) (signal : Signal) (file : TextFile) :
    Scanning (List Finding) := do
  if scanner.supports settings file.path then
    return [⟨scanner.category, file.path, 0, ← find settings signal file.text⟩]
  else return []

end Scanner
end ClassHarvest.Scan
