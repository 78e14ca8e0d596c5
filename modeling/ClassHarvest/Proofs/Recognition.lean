import ClassHarvest.Proofs.Gathering
import ClassHarvest.Proofs.Scan.Computation
import Mathlib.Data.Set.Subsingleton

/-!
# Scanners and the recognizer

The scanners for source units and the recognizer decide apart from each other which class names a
call supplies.  They agree: a scanner reads the calls of one shape, and reads from them what the
recognizer reads.
-/

namespace ClassHarvest

open CSharp Pattern Scan

/-! ## Shapes and scanners -/

/-- The scanner that reads the calls of a shape. -/
def CallShape.scanner : CallShape → Scanner
  | .attribute => .attributes
  | .markup => .markup
  | .helper => .helpers

namespace CSharp.Call

variable {helpers : List Text} {call : Call}

theorem length_of_isAttribute (fits : call.isAttribute = true) : call.arguments.length = 3 := by
  simp only [isAttribute, Bool.and_eq_true, beq_iff_eq] at fits
  exact fits.1.2

theorem length_of_isMarkup (fits : call.isMarkup = true) : call.arguments.length = 2 := by
  simp only [isMarkup, Bool.and_eq_true, beq_iff_eq] at fits
  exact fits.1.2

theorem length_of_isHelper (fits : call.isHelper helpers = true) : call.arguments.length = 1 := by
  simp only [isHelper, Bool.and_eq_true, beq_iff_eq] at fits
  exact fits.1.2

/-- The numbers of arguments keep the shapes apart. -/
theorem not_isMarkup_of_isAttribute (fits : call.isAttribute = true) : ¬ call.isMarkup = true := by
  intro other
  have three := length_of_isAttribute fits
  have two := length_of_isMarkup other
  omega

theorem not_isHelper_of_isAttribute (fits : call.isAttribute = true) :
    ¬ call.isHelper helpers = true := by
  intro other
  have three := length_of_isAttribute fits
  have one := length_of_isHelper other
  omega

theorem not_isHelper_of_isMarkup (fits : call.isMarkup = true) :
    ¬ call.isHelper helpers = true := by
  intro other
  have two := length_of_isMarkup fits
  have one := length_of_isHelper other
  omega

end CSharp.Call

namespace CallShape

/-- A scanner reads just the calls of its shape.  It makes no difference that the first shape that
fits counts, since no call has two. -/
theorem matches_scanner_iff (shape : CallShape) (settings : RunSettings) (call : Call) :
    shape.scanner.matches settings call = true ↔ call.shape? settings.helpers = some shape := by
  unfold Call.shape?
  by_cases builds : call.isAttribute = true
  · have noMarkup := Call.not_isMarkup_of_isAttribute builds
    have noHelper := @Call.not_isHelper_of_isAttribute settings.helpers call builds
    cases shape <;> simp [CallShape.scanner, Scanner.matches, Scanner.attributes, Scanner.markup,
      Scanner.helpers, builds, noMarkup, noHelper]
  by_cases hasMarkup : call.isMarkup = true
  · have noHelper := @Call.not_isHelper_of_isMarkup settings.helpers call hasMarkup
    cases shape <;> simp [CallShape.scanner, Scanner.matches, Scanner.attributes, Scanner.markup,
      Scanner.helpers, builds, hasMarkup, noHelper]
  · cases shape <;> simp [CallShape.scanner, Scanner.matches, Scanner.attributes, Scanner.markup,
      Scanner.helpers, builds, hasMarkup]

/-- What a scanner reads from a call of its shape is what the recognizer reads. -/
theorem supplied_scanner {shape : CallShape} {settings : RunSettings} {call : Call}
    (fits : call.shape? settings.helpers = some shape) :
    shape.scanner.supplied settings call =
      call.literals? settings.pattern.extract settings.helpers := by
  unfold Call.literals?
  rw [fits]
  cases shape <;> rfl

end CallShape

/-! ## Findings in calls -/

/-- The class names that the recognizer reads from the calls of a shape, in order. -/
def recognized (settings : RunSettings) (shape : CallShape) (calls : List Call) :
    Except ExtractError (List (List Text)) :=
  (calls.filter fun call => call.shape? settings.helpers = some shape).filterMapM
    (Call.literals? settings.pattern.extract settings.helpers)

namespace Scan.Scanner

/-- The scanner finds something in a call when it is not cancelled. -/
def Contributes (scanner : Scanner) (settings : RunSettings) (unit : SourceUnit) (call : Call) :
    Prop :=
  ∃ progress finding,
    ((scanner.scanCall settings Signal.never unit call).run.run progress).1 = .ok (some finding)

theorem matches_of_contributes {scanner : Scanner} {settings : RunSettings} {unit : SourceUnit}
    {call : Call} (contributes : scanner.Contributes settings unit call) :
    scanner.matches settings call = true := by
  obtain ⟨progress, finding, found⟩ := contributes
  rw [(Computes.scanCall scanner settings unit call).eq_of_never progress] at found
  unfold findingAt at found
  split at found
  · assumption
  · cases found

/-- A scanner of the program that reads calls reads those of some shape. -/
theorem exists_shape {scanner : Scanner} (own : scanner ∈ builtIn) {settings : RunSettings}
    {call : Call} (fits : scanner.matches settings call = true) :
    ∃ shape : CallShape, shape.scanner = scanner := by
  simp only [builtIn, List.mem_cons, List.not_mem_nil, or_false] at own
  rcases own with rfl | rfl | rfl | rfl
  · exact ⟨.attribute, rfl⟩
  · exact ⟨.markup, rfl⟩
  · exact ⟨.helper, rfl⟩
  · cases fits

/-- No call contributes under two categories. -/
theorem contributing_subsingleton (settings : RunSettings) (unit : SourceUnit) (call : Call) :
    {scanner | scanner ∈ builtIn ∧ scanner.Contributes settings unit call}.Subsingleton := by
  rintro scanner ⟨own, contributes⟩ other ⟨own', contributes'⟩
  have fits := matches_of_contributes contributes
  have fits' := matches_of_contributes contributes'
  obtain ⟨shape, rfl⟩ := exists_shape own fits
  obtain ⟨shape', rfl⟩ := exists_shape own' fits'
  rw [CallShape.matches_scanner_iff] at fits fits'
  have same := fits.symm.trans fits'
  rw [Option.some.inj same]

end Scan.Scanner

namespace CallShape

/-- The class names in the findings of a scanner are what the recognizer reads. -/
theorem classes_findingAt (shape : CallShape) (settings : RunSettings) (path : Text)
    (call : Call) :
    Option.map Finding.classes <$> shape.scanner.findingAt settings path call =
      if call.shape? settings.helpers = some shape then
        call.literals? settings.pattern.extract settings.helpers
      else pure none := by
  unfold Scanner.findingAt
  by_cases fits : call.shape? settings.helpers = some shape
  · rw [if_pos ((shape.matches_scanner_iff settings call).mpr fits), if_pos fits,
      supplied_scanner fits]
    cases call.literals? settings.pattern.extract settings.helpers with
    | error error => rfl
    | ok classes => cases classes <;> rfl
  · rw [if_neg fun reads => fits ((shape.matches_scanner_iff settings call).mp reads), if_neg fits]
    rfl

theorem classes_findingsInUnit (shape : CallShape) (settings : RunSettings) (unit : SourceUnit) :
    List.map Finding.classes <$> shape.scanner.findingsInUnit settings unit =
      recognized settings shape unit.calls := by
  have gathered : shape.scanner.findingsInUnit settings unit =
      unit.calls.filterMapM (shape.scanner.findingAt settings unit.path) := by
    rw [Gathering.filterMapM_eq_map]
    rfl
  rw [gathered, Gathering.map_filterMapM, recognized, Gathering.filterMapM_filter]
  simp only [classes_findingAt, decide_eq_true_eq]

theorem classes_findingsInUnits (shape : CallShape) (settings : RunSettings)
    (units : List SourceUnit) :
    (fun found => (List.map (List.map Finding.classes) found).flatten) <$>
        units.mapM (shape.scanner.findingsInUnit settings) =
      recognized settings shape (units.flatMap (·.calls)) := by
  have parts : List.map (List.map Finding.classes) <$>
        units.mapM (shape.scanner.findingsInUnit settings) =
      units.mapM fun unit => recognized settings shape unit.calls := by
    rw [Gathering.map_mapM]
    simp only [classes_findingsInUnit]
  have joined := congrArg (List.flatten <$> ·) parts
  simp only [Functor.map_map] at joined
  rw [joined]
  unfold recognized
  simp only [Gathering.filterMapM_filter]
  exact Gathering.flatten_mapM_filterMapM _ _ units

end CallShape

end ClassHarvest
