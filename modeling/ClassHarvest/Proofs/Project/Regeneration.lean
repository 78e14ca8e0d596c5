import ClassHarvest.Proofs.Generation
import ClassHarvest.Proofs.Project.Run

/-!
# A run gives what is generated from the files as they are

Whatever a run recalls, its generation is the one that is made anew from all files of the project.
-/

namespace ClassHarvest.Project

open CSharp Gathering Json Pattern Scan

/-! ## Generating anew -/

/-- The source units of a plan, without the files that cannot be read. -/
def Plan.units (plan : Plan) : Except Literal.LiteralError (List SourceUnit) :=
  (plan.sources.mapM fun file => freshUnit file.path file.content.bytes).map (·.filterMap id)

/-- The files of a plan that are searched as a whole, without those that cannot be read. -/
def Plan.texts (plan : Plan) : List TextFile :=
  plan.wholes.filterMap fun file => (freshText file.content.bytes).map fun text => ⟨file.path, text⟩

/-- What is generated from the files as they are; nothing is recalled. -/
def regenerate (host : Host) (request : Request) (disk : Disk) : Except Failure Generation := do
  let plan ← Plan.of host request disk
  let units ← plan.units.mapError .literal
  let emitter := Generation.emitterFor plan.scanners plan.settings.mode
  let generated : Scanning Generation :=
    Generation.generate plan.scanners emitter units plan.texts plan.settings Signal.never
  (generated.run.run {}).1.mapError .extraction

/-! ## Scanner by scanner -/

/-- A scanner that comes with the program reads calls of some shape, or files. -/
theorem exists_shape_or_files {scanner : Scanner} (own : scanner ∈ Scanner.builtIn) :
    (∃ shape : CallShape, scanner = shape.scanner) ∨ scanner = Scanner.files := by
  simp only [Scanner.builtIn, List.mem_cons, List.not_mem_nil, or_false] at own
  rcases own with rfl | rfl | rfl | rfl
  · exact Or.inl ⟨.attribute, rfl⟩
  · exact Or.inl ⟨.markup, rfl⟩
  · exact Or.inl ⟨.helper, rfl⟩
  · exact Or.inr rfl

variable {settings : RunSettings}

/-- What a scanner of calls finds in files it finds in their units. -/
theorem findingsInUnits_of_fresh (shape : CallShape) {files : List Walk.Found}
    {units : List (Option SourceUnit)} {found : List (List Finding)}
    (read : files.mapM (fun file => freshUnit file.path file.content.bytes) = .ok units)
    (fresh : files.mapM (fun file =>
      freshFindings shape.scanner settings file.path file.content.bytes) = .ok found) :
    ∃ inUnits, (units.filterMap id).mapM (shape.scanner.findingsInUnit settings) = .ok inUnits ∧
      inUnits.flatten = found.flatten := by
  have isSource : shape.scanner.input = .source := by
    cases shape <;> rfl
  induction files generalizing units found with
  | nil =>
      rw [mapM_eq_nil_iff.mp read, mapM_eq_nil_iff.mp fresh]
      exact ⟨[], rfl, rfl⟩
  | cons file files ih =>
      obtain ⟨unit, units, isUnit, readRest, rfl⟩ := mapM_eq_cons_iff.mp read
      obtain ⟨first, found, isFirst, freshRest, rfl⟩ := mapM_eq_cons_iff.mp fresh
      obtain ⟨inUnits, others, same⟩ := ih readRest freshRest
      unfold freshFindings at isFirst
      rw [isSource, isUnit] at isFirst
      cases unit with
      | none =>
          cases isFirst
          exact ⟨inUnits, others, same⟩
      | some unit =>
          refine ⟨first :: inUnits, ?_, ?_⟩
          · exact mapM_eq_cons_iff.mpr
              ⟨first, inUnits, mapError_eq_ok_iff.mp isFirst, others, rfl⟩
          · rw [List.flatten_cons, List.flatten_cons, same]

/-- What the scanner of files finds in files it finds in their texts. -/
theorem findingsInFiles_of_fresh {files : List Walk.Found} {found : List (List Finding)}
    (fresh : files.mapM (fun file =>
      freshFindings Scanner.files settings file.path file.content.bytes) = .ok found) :
    ∃ inFiles, (files.filterMap fun file =>
        (freshText file.content.bytes).map fun text => TextFile.mk file.path text).mapM
          (Scanner.files.findingsInFile settings) = .ok inFiles ∧
      inFiles.flatten = found.flatten := by
  induction files generalizing found with
  | nil =>
      rw [mapM_eq_nil_iff.mp fresh]
      exact ⟨[], rfl, rfl⟩
  | cons file files ih =>
      obtain ⟨first, found, isFirst, freshRest, rfl⟩ := mapM_eq_cons_iff.mp fresh
      obtain ⟨inFiles, others, same⟩ := ih freshRest
      unfold freshFindings at isFirst
      cases isText : freshText file.content.bytes with
      | none =>
          rw [isText] at isFirst
          cases isFirst
          rw [List.filterMap_cons_none (by rw [isText]; rfl)]
          exact ⟨inFiles, others, same⟩
      | some text =>
          rw [isText] at isFirst
          rw [List.filterMap_cons_some (by rw [isText]; rfl)]
          refine ⟨first :: inFiles, ?_, ?_⟩
          · exact mapM_eq_cons_iff.mpr
              ⟨first, inFiles, mapError_eq_ok_iff.mp isFirst, others, rfl⟩
          · rw [List.flatten_cons, List.flatten_cons, same]

theorem exists_of_flatten_eq_nil {α ε : Type} {found : Except ε (List (List α))}
    (nothing : List.flatten <$> found = pure []) :
    ∃ parts, found = .ok parts ∧ parts.flatten = [] := by
  cases found with
  | error error => cases nothing
  | ok parts => exact ⟨parts, rfl, Except.ok.inj nothing⟩

/-- What a scanner finds in the files that it reads it finds in all units and texts. -/
theorem findingsIn_of_fresh {plan : Plan} {scanner : Scanner} (own : scanner ∈ Scanner.builtIn)
    {units : List SourceUnit} (isUnits : plan.units = .ok units) {found : List (List Finding)}
    (fresh : (plan.inputsOf scanner).mapM (fun file =>
      freshFindings scanner plan.settings file.path file.content.bytes) = .ok found) :
    scanner.findingsIn units plan.texts plan.settings = .ok found.flatten := by
  unfold Scanner.findingsIn
  rcases exists_shape_or_files own with ⟨shape, rfl⟩ | rfl
  · have inputs : plan.inputsOf shape.scanner = plan.sources := by
      cases shape <;> rfl
    rw [inputs] at fresh
    cases read : plan.sources.mapM fun file => freshUnit file.path file.content.bytes with
    | error error =>
        rw [Plan.units, read] at isUnits
        cases isUnits
    | ok all =>
        rw [Plan.units, read] at isUnits
        cases isUnits
        obtain ⟨inUnits, inUnitsFound, same⟩ := findingsInUnits_of_fresh shape read fresh
        obtain ⟨inFiles, inFilesFound, nothing⟩ := exists_of_flatten_eq_nil
          (Generation.findingsInFiles_scanner shape plan.settings plan.texts)
        rw [inUnitsFound, inFilesFound, ← same]
        change Except.ok (inUnits.flatten ++ inFiles.flatten) = _
        rw [nothing, List.append_nil]
  · have inputs : plan.inputsOf Scanner.files = plan.wholes := rfl
    rw [inputs] at fresh
    obtain ⟨inFiles, inFilesFound, same⟩ := findingsInFiles_of_fresh fresh
    obtain ⟨inUnits, inUnitsFound, nothing⟩ := exists_of_flatten_eq_nil
      (Generation.findingsInUnits_files plan.settings units)
    rw [inUnitsFound, Plan.texts, inFilesFound, ← same]
    change Except.ok (inUnits.flatten ++ inFiles.flatten) = _
    rw [nothing, List.nil_append]

/-! ## From a search -/

variable {evidence : Evidence} {root : Path} {saved : Records} {disk : Disk} {host : Host}
  {request : Request} {plan : Plan} {markers : List (List Marker)} {answers : List Answer}
  {outcome : Outcome}

/-- The literals in all source files that were seen hold no surrogates. -/
def Evidence.WholeLiterals (evidence : Evidence) : Prop :=
  ∀ path content, evidence.seen path content → FileKind.ofPath path = .source →
    ∀ unit, freshUnit path content.bytes = .ok (some unit) → Project.WholeLiterals unit

/-- Whether it is recalled or not, an answer is what the scanner finds in the file. -/
theorem Search.Answers.fresh {search : Search} {visit : Scanner × FileRecord} {answer : Answer}
    (answered : search.Answers saved visit answer) (backed : search.Backed evidence)
    (distinct : evidence.Distinct) (distinctSettings : evidence.DistinctSettings)
    (explains : evidence.ExplainsAll saved) (own : visit.1 ∈ Scanner.builtIn) (mem : visit.2 ∈ search.manifest.files)
    (whole : visit.1.input = .source → ∀ unit,
      freshUnit visit.2.path (search.bytesOf visit.2) = .ok (some unit) → WholeLiterals unit) :
    freshFindings visit.1 search.settings visit.2.path (search.bytesOf visit.2) =
      .ok answer.findings := by
  cases answered with
  | computed _ _ fresh => exact fresh
  | recalled _ digest held =>
      unfold Search.findingRecord at held
      rw [backed.hashes visit.2 mem] at held
      obtain ⟨found, fresh, same⟩ := (explains _ _ held).freshFindings_eq own distinct distinctSettings
        (backed.seen visit.2 mem) backed.used digest
      have plain := joinSurrogates_eq_self (backed.paths visit.2 mem)
      have joined := joined_freshFindings own fresh plain whole
      rw [joined, or_self] at same
      rw [same]
      exact fresh

/-- Files whose markers are known have units, and those have the markers. -/
theorem exists_units {files : List Walk.Found} {markers : List (List Marker)}
    (found : List.Forall₂ (fun file found => freshMarkers file.path file.content.bytes = .ok found)
      files markers) :
    ∃ units, files.mapM (fun file => freshUnit file.path file.content.bytes) = .ok units ∧
      Marker.discover (units.filterMap id) = markers.flatten := by
  induction found with
  | nil => exact ⟨[], rfl, rfl⟩
  | @cons file found files markers first _ ih =>
      obtain ⟨units, read, same⟩ := ih
      unfold freshMarkers at first
      cases isUnit : freshUnit file.path file.content.bytes with
      | error error =>
          rw [isUnit] at first
          cases first
      | ok unit =>
          rw [isUnit] at first
          cases first
          refine ⟨unit :: units, mapM_eq_cons_iff.mpr ⟨unit, units, isUnit, read, rfl⟩, ?_⟩
          rw [List.flatten_cons, ← same]
          cases unit with
          | none => rfl
          | some unit => rfl

section

variable (isRoot : Path.resolve host.working request.path = root) (orderly : disk.Orderly)
  (ran : Ran host request root saved disk plan markers answers outcome)

include isRoot orderly ran

/-- The markers of a run are those in the units of the source files. -/
theorem Ran.units : ∃ units, plan.units = .ok units ∧ Marker.discover units = markers.flatten := by
  obtain ⟨units, read, same⟩ :=
    exists_units (forall₂_freshMarkers isRoot ran.planned orderly ran.gives)
  refine ⟨units.filterMap id, ?_, same⟩
  rw [Plan.units, read]
  rfl

variable (covers : evidence.Covers host plan) (distinct : evidence.Distinct)
  (kept : Kept evidence root saved disk)

include covers distinct kept

/-- The answers of a run are what the scanners find in the files. -/
theorem Ran.answered (distinctSettings : evidence.DistinctSettings)
    (whole : evidence.WholeLiterals) :
    plan.pairs.mapM (fun pair =>
      freshFindings pair.1 plan.settings pair.2.path pair.2.content.bytes) =
        .ok (answers.map Answer.findings) := by
  have backed := backed_searchOn isRoot ran.planned orderly covers distinct kept
  have found := ran.gives.answers
  unfold Search.AnswersFor at found
  unfold Plan.searchOn at found backed
  rw [Plan.visits_search, List.forall₂_map_left_iff] at found
  rw [mapM_eq_ok_iff_forall₂, List.forall₂_map_right_iff]
  have each := (List.forall₂_and_left _ _).mpr ⟨fun pair mem => Plan.mem_pairs.mp mem, found⟩
  apply each.imp
  rintro ⟨scanner, file⟩ answer ⟨⟨used, isInput⟩, answered⟩
  have isFile := plan.inputsOf_subset scanner isInput
  have bytes := bytesOf_searchOn isRoot ran.planned orderly isFile
  unfold Plan.searchOn at bytes
  have fresh := answered.fresh backed distinct distinctSettings kept.explains (covers.own scanner used)
    (List.mem_map_of_mem isFile)
  dsimp only at fresh
  rw [bytes] at fresh
  apply fresh
  intro isSource unit isUnit
  have isKind : FileKind.ofPath file.path = .source := by
    unfold Plan.inputsOf at isInput
    rw [isSource] at isInput
    simpa using (List.mem_filter.mp isInput).2
  exact whole file.path file.content (covers.seen file isFile) isKind unit isUnit

/-- A run gives what is generated from the files as they are. -/
theorem Ran.regenerate_eq (distinctSettings : evidence.DistinctSettings)
    (whole : evidence.WholeLiterals) :
    regenerate host request disk = .ok outcome.generation := by
  obtain ⟨units, isUnits, sameMarkers⟩ :=
    ran.units isRoot orderly
  obtain ⟨gathered, byScanner, same⟩ := mapM_flatMap_eq_ok_iff.mp
    (ran.answered isRoot orderly covers distinct kept distinctSettings whole)
  have findings : Generation.allFindings plan.scanners units plan.texts plan.settings =
      .ok (answers.flatMap Answer.findings) := by
    have each := (List.forall₂_and_left _ _).mpr ⟨covers.own, mapM_eq_ok_iff_forall₂.mp byScanner⟩
    have inAll : plan.scanners.mapM (fun scanner : Scanner =>
        scanner.findingsIn units plan.texts plan.settings) = .ok (gathered.map List.flatten) := by
      rw [mapM_eq_ok_iff_forall₂, List.forall₂_map_right_iff]
      apply each.imp
      rintro scanner found ⟨own, fresh⟩
      rw [mapM_map] at fresh
      exact findingsIn_of_fresh own isUnits fresh
    unfold Generation.allFindings
    rw [inAll]
    change Except.ok (gathered.map List.flatten).flatten = _
    rw [List.flatMap_def, same, List.flatten_flatten]
  have generated := (@Generation.computes_generate Signal.never plan.scanners
    (Generation.emitterFor plan.scanners plan.settings.mode) units plan.texts
    plan.settings).eq_of_never {}
  unfold Generation.outcome at generated
  rw [findings] at generated
  unfold regenerate
  rw [ran.planned]
  change plan.units.mapError Failure.literal >>= _ = _
  rw [isUnits]
  change Except.mapError _ _ = _
  rw [generated, ran.generation, sameMarkers]
  rfl

end

end ClassHarvest.Project
