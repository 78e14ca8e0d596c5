import ClassHarvest.Proofs.ClassSet
import ClassHarvest.Proofs.Recognition

/-!
# Generation by the recognizer

A generation with all scanners of the program is what the recognizer and the class pattern say of the
units and the files: the first candidate is the marker, and each category holds what is read from the
calls of its shape, or from the accepted files, without repetitions.
-/

namespace ClassHarvest.Generation

open CSharp Emission Pattern Scan

/-! ## What is specified -/

/-- The class lists in the accepted files, in order. -/
def written (settings : RunSettings) (files : List TextFile) :
    Except ExtractError (List (List Text)) :=
  (files.filter fun file => settings.accepts file.path).mapM fun file =>
    settings.pattern.extract file.text

/-- The first declaration that may be the marker, by unit and then by its place in the unit. -/
def firstCandidate (units : List SourceUnit) : Option Declaration :=
  (units.flatMap (·.declarations)).find? Marker.isCandidate

/-- The class names of the four categories in their order, without repetitions. -/
def categorized (attributes markup helpers files : List (List Text)) : Dictionary (List Text) := [
  ("attributes", attributes.flatten.eraseDups),
  ("markup", markup.flatten.eraseDups),
  ("helpers", helpers.flatten.eraseDups),
  ("files", files.flatten.eraseDups)]

/-- The class set of a candidate with the class names of some categories. -/
def classSetOf (candidate : Declaration) (categories : Dictionary (List Text)) : ClassSet where
  marker := Marker.ofDeclaration candidate
  «namespace» := ClassSet.resolveNamespace (some candidate.namespace)
  classes := (categories.map (·.2)).flatten.eraseDups
  categories := categories

/-- The class set that the recognizer and the class pattern specify: there is one if there is a
candidate. -/
def specified (settings : RunSettings) (units : List SourceUnit) (files : List TextFile) :
    Except ExtractError (Option ClassSet) := do
  let calls := units.flatMap (·.calls)
  let attributes ← recognized settings .attribute calls
  let markup ← recognized settings .markup calls
  let helpers ← recognized settings .helper calls
  let written ← written settings files
  return (firstCandidate units).map fun candidate =>
    classSetOf candidate (categorized attributes markup helpers written)

/-! ## The marker -/

theorem select_discover (units : List SourceUnit) :
    Marker.select (Marker.discover units) =
      (firstCandidate units).map Marker.ofDeclaration := by
  have listed : Marker.discover units =
      ((units.flatMap (·.declarations)).filter Marker.isCandidate).map Marker.ofDeclaration := by
    unfold Marker.discover
    induction units with
    | nil => rfl
    | cons unit units ih =>
        rw [List.flatMap_cons, List.flatMap_cons, ih, List.filter_append, List.map_append]
        rfl
  rw [Marker.select, listed, List.head?_map, List.head?_filter]
  rfl

/-! ## Findings of each scanner -/

/-- Files have nothing for a scanner of calls. -/
theorem findingsInFiles_scanner (shape : CallShape) (settings : RunSettings)
    (files : List TextFile) :
    List.flatten <$> files.mapM (shape.scanner.findingsInFile settings) = pure [] := by
  have nothing : shape.scanner.findingsInFile settings = fun _ => pure [] := by
    cases shape <;> rfl
  rw [nothing, List.mapM_pure, map_pure]
  simp

/-- Units have nothing for the scanner of files. -/
theorem findingsInUnits_files (settings : RunSettings) (units : List SourceUnit) :
    List.flatten <$> units.mapM (Scanner.files.findingsInUnit settings) = pure [] := by
  have nothing : Scanner.files.findingsInUnit settings = fun _ => pure [] := by
    funext unit
    have none' : Scanner.files.findingAt settings unit.path = fun _ => pure none := rfl
    unfold Scanner.findingsInUnit
    rw [none', List.mapM_pure]
    simp [pure, Except.pure, Except.map]
  rw [nothing, List.mapM_pure, map_pure]
  simp

/-- A scanner of calls finds what the recognizer reads. -/
theorem classes_findingsIn_scanner (shape : CallShape) (settings : RunSettings)
    (units : List SourceUnit) (files : List TextFile) :
    List.map Finding.classes <$> shape.scanner.findingsIn units files settings =
      recognized settings shape (units.flatMap (·.calls)) := by
  have split : shape.scanner.findingsIn units files settings = (do
      let inUnits ← units.mapM (shape.scanner.findingsInUnit settings)
      let inFiles ← List.flatten <$> files.mapM (shape.scanner.findingsInFile settings)
      return inUnits.flatten ++ inFiles) := by
    simp [Scanner.findingsIn]
  rw [split, findingsInFiles_scanner, ← CallShape.classes_findingsInUnits]
  simp [List.map_flatten]

/-- The scanner of files finds what is written in the accepted files. -/
theorem classes_findingsIn_files (settings : RunSettings) (units : List SourceUnit)
    (files : List TextFile) :
    List.map Finding.classes <$> Scanner.files.findingsIn units files settings =
      written settings files := by
  have split : Scanner.files.findingsIn units files settings = (do
      let inUnits ← List.flatten <$> units.mapM (Scanner.files.findingsInUnit settings)
      let inFiles ← files.mapM (Scanner.files.findingsInFile settings)
      return inUnits ++ inFiles.flatten) := by
    simp [Scanner.findingsIn]
  have each (file : TextFile) :
      List.map Finding.classes <$> Scanner.files.findingsInFile settings file =
        if settings.accepts file.path then ([·]) <$> settings.pattern.extract file.text
        else pure [] := by
    unfold Scanner.findingsInFile
    have reads : Scanner.files.supports settings file.path = settings.accepts file.path := by
      simp [Scanner.supports, Scanner.input, Scanner.files, Subject.input]
    rw [reads]
    split
    · cases settings.pattern.extract file.text <;> rfl
    · rfl
  have parts := Gathering.map_mapM (Scanner.files.findingsInFile settings)
    (List.map Finding.classes) files
  simp only [each] at parts
  rw [split, findingsInUnits_files, written, ← Gathering.flatten_mapM_singleton, ← parts]
  simp [List.map_flatten]

/-! ## The class set -/

/-- The categories of a class set, when there are findings of every scanner of the program. -/
theorem categories_aggregate (marker : Marker) {attributes markup helpers files : List Finding}
    (ofAttributes : ∀ finding ∈ attributes, finding.category = Scanner.attributes.category)
    (ofMarkup : ∀ finding ∈ markup, finding.category = Scanner.markup.category)
    (ofHelpers : ∀ finding ∈ helpers, finding.category = Scanner.helpers.category)
    (ofFiles : ∀ finding ∈ files, finding.category = Scanner.files.category) :
    (ClassSet.aggregate marker (attributes ++ (markup ++ (helpers ++ files)))
        (Scanner.builtIn.map (·.category))).categories =
      categorized (attributes.map (·.classes)) (markup.map (·.classes)) (helpers.map (·.classes))
        (files.map (·.classes)) := by
  have known : ∀ finding ∈ attributes ++ (markup ++ (helpers ++ files)),
      finding.category ∈ Scanner.builtIn.map (·.category) := by
    intro finding member
    simp only [List.mem_append] at member
    rcases member with member | member | member | member
    · rw [ofAttributes finding member]
      decide
    · rw [ofMarkup finding member]
      decide
    · rw [ofHelpers finding member]
      decide
    · rw [ofFiles finding member]
      decide
  have apart : (Scanner.builtIn.map (·.category)).Nodup := by decide
  unfold ClassSet.aggregate
  simp only [ClassSet.grouped_eq apart known, ClassSet.groupOf_append,
    ClassSet.groupOf_eq ofAttributes, ClassSet.groupOf_eq ofMarkup, ClassSet.groupOf_eq ofHelpers,
    ClassSet.groupOf_eq ofFiles, ClassSet.union, firstOccurrences_eq_eraseDups]
  simp only [Scanner.builtIn, List.map_cons, List.map_nil, List.nodup_cons, List.mem_cons,
    List.not_mem_nil, or_false, not_or] at apart
  obtain ⟨⟨am, ah, af⟩, ⟨mh, mf⟩, hf, _⟩ := apart
  simp only [Scanner.builtIn, List.map_cons, List.map_nil, am, ah, af, mh, mf, hf, Ne.symm am,
    Ne.symm ah, Ne.symm af, Ne.symm mh, Ne.symm mf, Ne.symm hf, if_true, if_false,
    List.nil_append, List.append_nil]
  rfl

/-- The findings of all scanners of the program follow each other. -/
theorem allFindings_builtIn (units : List SourceUnit) (files : List TextFile)
    (settings : RunSettings) :
    allFindings Scanner.builtIn units files settings = (do
      let attributes ← Scanner.attributes.findingsIn units files settings
      let markup ← Scanner.markup.findingsIn units files settings
      let helpers ← Scanner.helpers.findingsIn units files settings
      let files ← Scanner.files.findingsIn units files settings
      return attributes ++ (markup ++ (helpers ++ files))) := by
  have mapped (outcome : Except ExtractError (List (List Finding))) :
      outcome.map List.flatten = List.flatten <$> outcome := rfl
  rw [allFindings, mapped]
  simp [Scanner.builtIn, List.mapM_cons]

/-- The class set under a candidate, when there are findings of every scanner of the program. -/
theorem aggregate_builtIn (candidate : Declaration) {attributes markup helpers files : List Finding}
    (ofAttributes : ∀ finding ∈ attributes, finding.category = Scanner.attributes.category)
    (ofMarkup : ∀ finding ∈ markup, finding.category = Scanner.markup.category)
    (ofHelpers : ∀ finding ∈ helpers, finding.category = Scanner.helpers.category)
    (ofFiles : ∀ finding ∈ files, finding.category = Scanner.files.category) :
    ClassSet.aggregate (Marker.ofDeclaration candidate)
        (attributes ++ (markup ++ (helpers ++ files))) (Scanner.builtIn.map (·.category)) =
      classSetOf candidate (categorized (attributes.map (·.classes)) (markup.map (·.classes))
        (helpers.map (·.classes)) (files.map (·.classes))) := by
  have categories := categories_aggregate (Marker.ofDeclaration candidate) ofAttributes ofMarkup
    ofHelpers ofFiles
  generalize given : ClassSet.aggregate (Marker.ofDeclaration candidate) _ _ = set at categories ⊢
  have classes : set.classes = (set.categories.map (·.2)).flatten.eraseDups := by
    rw [← given]
    exact firstOccurrences_eq_eraseDups _
  have marker : set.marker = Marker.ofDeclaration candidate := by rw [← given]; rfl
  have space : set.namespace = ClassSet.resolveNamespace (some candidate.namespace) := by
    rw [← given]
    rfl
  obtain ⟨_, _, _, _⟩ := set
  simp only at categories classes marker space
  rw [marker, space, classes, categories]
  rfl

/-- A generation is what is specified. -/
theorem outcome_builtIn (emitter : Emitter) (settings : RunSettings) (units : List SourceUnit)
    (files : List TextFile) :
    (outcome Scanner.builtIn emitter units files settings).map (fun generation =>
        (generation.marker, generation.classSet, generation.artifacts)) =
      (specified settings units files).map fun set =>
        (set.map (·.marker), set, (set.map emitter.emit).getD []) := by
  have attributes := classes_findingsIn_scanner .attribute settings units files
  have markup := classes_findingsIn_scanner .markup settings units files
  have helpers := classes_findingsIn_scanner .helper settings units files
  have written := classes_findingsIn_files settings units files
  unfold outcome specified
  dsimp only
  rw [allFindings_builtIn, ← attributes, ← markup, ← helpers, ← written, select_discover]
  dsimp only [CallShape.scanner]
  cases inAttributes : Scanner.attributes.findingsIn units files settings with
  | error error => rfl
  | ok attributes =>
  cases inMarkup : Scanner.markup.findingsIn units files settings with
  | error error => rfl
  | ok markup =>
  cases inHelpers : Scanner.helpers.findingsIn units files settings with
  | error error => rfl
  | ok helpers =>
  cases inFiles : Scanner.files.findingsIn units files settings with
  | error error => rfl
  | ok files =>
  cases found : firstCandidate units with
  | none => rfl
  | some candidate =>
  have set := aggregate_builtIn candidate
    (fun _ => Scanner.category_of_mem_findingsIn inAttributes)
    (fun _ => Scanner.category_of_mem_findingsIn inMarkup)
    (fun _ => Scanner.category_of_mem_findingsIn inHelpers)
    (fun _ => Scanner.category_of_mem_findingsIn inFiles)
  change Except.ok (some _, some (ClassSet.aggregate _ _ _), emitter.emit (ClassSet.aggregate _ _ _))
    = Except.ok (some _, some _, emitter.emit _)
  rw [set]
  rfl

/-! ## The generation -/

/-- A generation with all scanners of the program, which nothing cancels, gives the class set that is
specified, its marker and its artifacts, and fails just if what is specified does.  No call contributes
to two categories. -/
theorem generate_builtIn (emitter : Emitter) (units : List SourceUnit) (files : List TextFile)
    (settings : RunSettings) (progress : Progress) :
    ((generate Scanner.builtIn emitter units files settings Signal.never).run.run progress).1.map
        (fun generation => (generation.marker, generation.classSet, generation.artifacts)) =
      (specified settings units files).map (fun set =>
        (set.map (·.marker), set, (set.map emitter.emit).getD [])) ∧
    ∀ (unit : SourceUnit) (call : Call), Set.Subsingleton
      {scanner | scanner ∈ Scanner.builtIn ∧ scanner.Contributes settings unit call} := by
  have computed : Computes Signal.never _ _ :=
    computes_generate Scanner.builtIn emitter units files settings
  constructor
  · rw [computed.eq_of_never progress, outcome_builtIn]
  · exact Scanner.contributing_subsingleton settings

end ClassHarvest.Generation
