import ClassHarvest.Emission.Emitter
import ClassHarvest.Scan.Scanner

/-!
# Generation

From source units and files to generated source text: scan, choose the marker, aggregate, emit.
Nothing is kept between two generations.
-/

namespace ClassHarvest

open CSharp Emission Pattern Scan

/-- What a generation gives. -/
structure Generation where
  /-- The class that receives the accessors. -/
  marker : Option Marker
  /-- What was found, bound to the marker. -/
  classSet : Option ClassSet
  /-- The generated files. -/
  artifacts : List Artifact
  /-- All findings. -/
  findings : List Finding
deriving Repr

namespace Generation

/-- The findings of some scanners in all inputs: by scanner, then by input. -/
def collect (scanners : List Scanner) (units : List SourceUnit) (files : List TextFile)
    (settings : RunSettings) (signal : Signal) : Scanning (List Finding) := do
  let found ← scanners.mapM fun scanner => do
    let inUnits ← units.mapM (scanner.scanUnit settings signal)
    let inFiles ← files.mapM (scanner.scanFile settings signal)
    return inUnits.flatten ++ inFiles.flatten
  return found.flatten

/-- The emitter for some scanners. -/
def emitterFor (scanners : List Scanner) (mode : Mode) : Emitter :=
  Emitter.withAccessors mode (Dictionary.ofPairs
    ((scanners.filter fun scanner => !scanner.accessor.isEmpty).map fun scanner =>
      (scanner.category, scanner.accessor)))

/-- What some findings give under a marker.  Without a marker nothing is generated. -/
def finish (marker : Option Marker) (findings : List Finding) (scanners : List Scanner)
    (emitter : Emitter) : Generation :=
  match marker with
  | none => ⟨none, none, [], findings⟩
  | some marker =>
    let set := ClassSet.aggregate marker findings (scanners.map (·.category))
    ⟨some marker, some set, emitter.emit set, findings⟩

/-- A generation from some units and files, under a signal to cancel. -/
def generate (scanners : List Scanner) (emitter : Emitter) (units : List SourceUnit)
    (files : List TextFile) (settings : RunSettings) (signal : Signal) : Scanning Generation := do
  let findings ← collect scanners units files settings signal
  let candidates := Marker.discover units
  report (Marker.selectionLog candidates)
  let generation := finish (Marker.select candidates) findings scanners emitter
  report (ClassSet.aggregationLog generation.classSet)
  return generation

end Generation
end ClassHarvest
