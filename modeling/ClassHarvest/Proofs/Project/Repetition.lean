import ClassHarvest.Proofs.Emission.Texts
import ClassHarvest.Proofs.Project.Completion
import ClassHarvest.Proofs.Project.Recomputation

/-!
# A run that finds nothing changed

A run leaves everything but its caches and the generated files as it is.  So the next run finds the
same files, recalls all that the run before has found, and generates the same texts; and these are
there already.
-/

namespace ClassHarvest

open Emission Json Scan

/-! ## Names of generated files -/

theorem Path.suffix_joinNames (above : List Text) (name : Text) :
    name <:+ joinNames (above ++ [name]) := by
  induction above with
  | nil => exact List.suffix_rfl
  | cons first above ih =>
      cases above with
      | nil => exact List.suffix_append _ _
      | cons second above =>
          rw [List.cons_append, List.cons_append, joinNames_cons_cons]
          exact ih.trans (List.suffix_append _ _)

theorem Text.exists_lowerAfter_append (before s t : Text) :
    ∃ front, lowerAfter before (s ++ t) = front ++ lowerAfter (s.reverse ++ before) t := by
  induction s generalizing before with
  | nil => exact ⟨[], rfl⟩
  | cons c s ih =>
      obtain ⟨front, same⟩ := ih (c :: before)
      rw [List.cons_append, lowerAfter, same, List.reverse_cons, List.append_assoc,
        ← List.append_assoc]
      exact ⟨_, rfl⟩

/-- What ends as the names of generated files do is generated. -/
theorem FileKind.ofPath_of_suffix {path : Text} (ends : artifactEnd <:+ path) :
    FileKind.ofPath path = .generated := by
  obtain ⟨front, rfl⟩ := ends
  obtain ⟨front', same⟩ := Text.exists_lowerAfter_append [] front artifactEnd
  have small (before : Text) : Text.lowerAfter before artifactEnd = artifactEnd := rfl
  have isSuffix : (".g.cs" : Text).isSuffixOf (Text.lower (front ++ artifactEnd)) = true := by
    rw [List.isSuffixOf_iff_suffix, Text.lower, same, small]
    have inside : (".g.cs" : Text) <:+ artifactEnd := by decide
    exact inside.trans (List.suffix_append _ _)
  unfold FileKind.ofPath
  rw [if_pos isSuffix]

theorem Emission.suffix_of_isArtifactName {name : Text} (isName : isArtifactName name = true) :
    artifactEnd <:+ name := by
  unfold isArtifactName at isName
  simp only [Bool.or_eq_true, decide_eq_true_eq, Bool.and_eq_true, List.isSuffixOf_iff_suffix] at isName
  rcases isName with rfl | ⟨_, ends⟩
  · decide
  · exact ends

theorem FileKind.ofPath_of_isArtifactName (above : List Text) {name : Text}
    (isName : isArtifactName name = true) :
    FileKind.ofPath (Path.joinNames (above ++ [name])) = .generated :=
  ofPath_of_suffix ((suffix_of_isArtifactName isName).trans (Path.suffix_joinNames above name))

/-- No surrogate is read from a file. -/
theorem Disk.isSurrogate_of_mem_readText {disk : Disk} {path : Path} {text : Text}
    (read : disk.readText path = .ok text) : ∀ c ∈ text, c.isSurrogate = false := by
  obtain ⟨bytes, fresh⟩ := Project.exists_freshText_of_readText read
  exact fun c mem => (Project.freshText_chars fresh c mem).1

namespace Project

variable {evidence : Evidence} {root : Path} {disk disk' kept wrote : Disk} {records : Records}
  {outcome : Outcome}

/-! ## What a run leaves as it is -/

namespace Produced

/-- Outside of its caches and the generated files, a run leaves all files as they are. -/
theorem view_eq_file_iff (produced : Produced evidence root records outcome disk kept wrote disk')
    (orderly : disk.Orderly) {place : List Text} (noCache : place ∉ cachePlaces root)
    (noArtifact : ∀ name, place = outcome.outputDirectory.place ++ [name] →
      isArtifactName name = false) {content : FileContent} :
    disk'.view place = some (.file content) ↔ disk.view place = some (.file content) := by
  have unique := produced.written.unique (produced.leaves.unique orderly.unique)
  rw [(produced.removed.touches unique).view_eq_file_iff, produced.written.touches.view_eq_file_iff,
    produced.leaves.touches.view_eq_file_iff noCache]
  · intro mem
    obtain ⟨artifact, isArtifact, rfl⟩ := List.mem_map.mp mem
    have isName := produced.names artifact isArtifact
    rw [noArtifact _ (Output.place_child_artifact _ isName)] at isName
    cases isName
  · intro mem
    obtain ⟨name, isStale, rfl⟩ := List.mem_map.mp mem
    have isName := ((Output.mem_stale_iff unique).mp isStale).1
    rw [noArtifact name rfl] at isName
    cases isName

/-- A run leaves the configuration of the project as it is. -/
theorem alike (produced : Produced evidence root records outcome disk kept wrote disk')
    (plain : Path.parentName ∉ root.names) (orderly : disk.Orderly) : Alike root disk disk' := by
  have sameFile {path : Path} {name : Text} (isPath : path.names = root.names ++ [name])
      (notParent : name ≠ Path.parentName) (other : isArtifactName name = false) :
      Disk.SameFile path disk disk' := by
    apply Disk.sameFile_of_view
    · rw [isPath, List.mem_append, not_or, List.mem_singleton]
      exact ⟨plain, Ne.symm notParent⟩
    · intro content
      rw [isPath]
      symm
      apply produced.view_eq_file_iff orderly
      · intro mem
        obtain ⟨name', same, _⟩ := exists_of_mem_cachePlaces plain mem
        have lengths := congrArg List.length (List.append_cancel_left same)
        cases lengths
      · intro name' isPlace
        have last := List.cons.inj (List.append_inj' isPlace rfl).2
        exact last.1 ▸ other
  constructor
  · exact sameFile (names_configPath plain) (by decide) (by decide)
  · exact @sameFile (root.child Manifest.ignoreFile) _ rfl (by decide) (by decide)

/-- Among paths that are not those of generated files in the output directory, the next run finds what
the run before has found. -/
theorem filter_files_eq {host host' : Host} {request request' : Request} {plan plan' : Plan}
    (produced : Produced evidence root records outcome disk kept wrote disk')
    (isRoot : Path.resolve host.working request.path = root)
    (isRoot' : Path.resolve host'.working request'.path = root)
    (planned : Plan.of host request disk = .ok plan)
    (planned' : Plan.of host' request' disk' = .ok plan')
    (orderly : disk.Orderly) (orderly' : disk'.Orderly) {p : Text → Bool}
    (spares : ∀ above name, outcome.outputDirectory.place = root.names ++ above →
      isArtifactName name = true → p (Path.joinNames (above ++ [name])) = false) :
    (plan'.files.filter fun file => p file.path) = plan.files.filter fun file => p file.path := by
  have plain : Path.parentName ∉ root.names := isRoot ▸ Path.plain_resolve _ _
  symm
  apply (produced.alike plain orderly).filter_files_eq isRoot isRoot' planned planned' orderly orderly'
  intro names content notRoot notState fits
  symm
  apply produced.view_eq_file_iff orderly
  · intro mem
    obtain ⟨name, same, _⟩ := exists_of_mem_cachePlaces plain mem
    exact notState name [] (List.append_cancel_left same)
  · intro name isPlace
    obtain ⟨above, last, rfl⟩ := (List.eq_nil_or_concat' names).resolve_left notRoot
    rw [← List.append_assoc] at isPlace
    obtain ⟨isDirectory, isLast⟩ := List.append_inj' isPlace rfl
    rw [Bool.eq_false_iff]
    intro isName
    rw [← (List.cons.inj isLast).1] at isName
    rw [spares above last isDirectory.symm isName] at fits
    cases fits

end Produced

/-- No suffix accepts a generated file in a directory of the project. -/
def SparesArtifacts (settings : RunSettings) (root directory : Path) : Prop :=
  ∀ above name, directory.place = root.names ++ above → isArtifactName name = true →
    settings.accepts (Path.joinNames (above ++ [name])) = false

/-! ## What is generated -/

/-- Findings that are explained bear the category of their scanner. -/
theorem Evidence.Explains.category_eq {scanner : Scanner} (own : scanner ∈ Scanner.builtIn)
    {path signature digest : Text} {kept : List Finding}
    (explains : evidence.Explains (findingKeyOf scanner path) ⟨signature, digest, .findings kept⟩)
    {finding : Finding} (mem : finding ∈ kept) : finding.category = scanner.category := by
  generalize isKey : findingKeyOf scanner path = key at explains
  generalize isRecord : (⟨signature, digest, .findings kept⟩ : Record) = record at explains
  cases explains with
  | markers _ _ _ _ => exact absurd isKey.symm (markerKeyOf_ne_findingKeyOf own _ _)
  | findings _ own' _ _ _ fresh same =>
      obtain ⟨rfl, _⟩ := findingKeyOf_inj own own' isKey
      cases isRecord
      rcases same with rfl | rfl
      · exact (of_mem_freshFindings fresh mem).1
      · obtain ⟨before, isFound, rfl⟩ := List.mem_map.mp mem
        change joinSurrogates before.category = _
        rw [(of_mem_freshFindings fresh isFound).1]
        exact joinSurrogates_of_chars (isSurrogate_of_mem_category own)

namespace Execution

variable {run next : Execution}

/-- The findings of a run. -/
def findings (run : Execution) : List Finding :=
  run.answers.flatMap Answer.findings

namespace Founded

theorem generation_eq (founded : run.Founded evidence root) : run.outcome.generation =
    Generation.finish (Marker.select run.markers.flatten) run.findings run.plan.scanners
      (Generation.emitterFor run.plan.scanners run.plan.settings.mode) :=
  founded.ran.generation

/-- Without a marker nothing is generated. -/
theorem generation_of_unmarked (founded : run.Founded evidence root)
    (unmarked : ∀ file ∈ run.plan.sources, freshMarkers file.path file.content.bytes = .ok []) :
    run.outcome.generation = ⟨none, none, [], run.findings⟩ := by
  rw [founded.generation_eq, flatten_markers_eq_nil founded.isRoot founded.ran.planned founded.orderly
    unmarked founded.ran.gives]
  rfl

theorem known (founded : run.Founded evidence root) :
    Generation.Known run.plan.scanners run.findings := by
  intro finding mem
  obtain ⟨answer, isAnswer, inAnswer⟩ := List.mem_flatMap.mp mem
  have answered := founded.answered
  rw [← List.map_snd_zip answered.length_eq.ge] at isAnswer
  obtain ⟨⟨pair, answer⟩, isPair, rfl⟩ := List.mem_map.mp isAnswer
  obtain ⟨isPair, answered⟩ := (List.forall₂_iff_zip.mp answered).2 isPair
  have category : finding.category = pair.1.category := by
    cases answered with
    | recalled _ _ held => exact (founded.kept.explains _ _ held).category_eq (founded.own isPair) inAnswer
    | computed _ _ fresh => exact (of_mem_freshFindings fresh inAnswer).1
  rw [category]
  exact List.mem_map_of_mem (Plan.mem_pairs.mp isPair).1

/-- The marker of a run has no carriage returns in its names. -/
theorem feeds_marker (founded : run.Founded evidence root) :
    ∀ chosen ∈ Marker.select run.markers.flatten,
      Feeds chosen.namespace ∧ Feeds chosen.name ∧ Feeds chosen.modifiers := by
  intro chosen isChosen
  obtain ⟨found, isFound, inFound⟩ := List.mem_flatten.mp (List.mem_of_mem_head? isChosen)
  have fresh :=
    forall₂_freshMarkers founded.isRoot founded.ran.planned founded.orderly founded.ran.gives
  rw [← List.map_snd_zip fresh.length_eq.ge] at isFound
  obtain ⟨⟨file, found⟩, isPair, rfl⟩ := List.mem_map.mp isFound
  obtain ⟨name, space, modifiers, _⟩ :=
    freshMarkers_all ((List.forall₂_iff_zip.mp fresh).2 isPair) chosen inFound
  exact ⟨fun c mem => (space c mem).2, fun c mem => (name c mem).2, fun c mem => (modifiers c mem).2⟩

/-- Generated texts are read as they were written. -/
theorem feeds_artifacts (founded : run.Founded evidence root) :
    ∀ artifact ∈ run.outcome.generation.artifacts, Feeds artifact.text := by
  rw [founded.generation_eq]
  exact fun artifact => Generation.feeds_of_mem_finish founded.covers.own founded.covers.scannersNodup
    founded.known founded.feeds_marker

/-- No two generated files have the same place. -/
theorem nodup_places (founded : run.Founded evidence root) (directory : Path) :
    (run.outcome.generation.artifacts.map (Output.targetPlace directory)).Nodup := by
  have names : (run.outcome.generation.artifacts.map (·.name)).Nodup := by
    rw [founded.generation_eq]
    exact Generation.nodup_names_finish founded.covers.own founded.covers.scannersNodup founded.known
  have isName : ∀ artifact ∈ run.outcome.generation.artifacts,
      isArtifactName artifact.name = true := by
    rw [founded.generation_eq]
    exact fun artifact => Output.isArtifactName_of_mem_finish
  exact Output.nodup_places names isName directory

/-- If class names hold no surrogates, a cache keeps the findings as they are. -/
theorem joined_findings (founded : run.Founded evidence root)
    (whole : ∀ finding ∈ run.findings, ∀ name ∈ finding.classes, ∀ c ∈ name, c.isSurrogate = false) :
    (run.answers.map fun answer => answer.findings.map Finding.joined) =
      run.answers.map Answer.findings := by
  apply List.map_congr_left
  intro answer isAnswer
  have answered := founded.answered
  rw [← List.map_snd_zip answered.length_eq.ge] at isAnswer
  obtain ⟨⟨pair, answer⟩, isPair, rfl⟩ := List.mem_map.mp isAnswer
  obtain ⟨isPair', answered⟩ := (List.forall₂_iff_zip.mp answered).2 isPair
  have isAnswer : answer ∈ run.answers := (List.of_mem_zip isPair).2
  cases answered with
  | recalled _ _ held =>
      have joined := congrFun founded.kept.scans.joined_eq
        (Search.findingKey pair.1 (run.record root pair.2))
      unfold Records.joined at joined
      dsimp only at held
      rw [held] at joined
      exact Payload.findings.inj (Record.mk.inj (Option.some.inj joined)).2.2
  | computed _ _ fresh =>
      have path := joinSurrogates_eq_self
        (founded.backed.paths _ (List.mem_map_of_mem (mem_files isPair')))
      have each : ∀ finding ∈ answer.findings, finding.joined = id finding := by
        intro finding mem
        obtain ⟨category, isPath⟩ := of_mem_freshFindings fresh mem
        apply joined_eq_self
        · rw [category]
          exact isSurrogate_of_mem_category (founded.own isPair')
        · rw [isPath]
          exact path
        · exact whole finding (List.mem_flatMap.mpr ⟨answer, isAnswer, mem⟩)
      dsimp only
      rw [List.map_congr_left each, List.map_id]

end Founded
end Execution

/-! ## What the next run finds -/

namespace Execution

variable {run next : Execution}

/-- The next run finds all as the run before has left it, and is asked for the same. -/
structure Repeats (run next : Execution) (evidence : Evidence) (root : Path) (kept wrote : Disk) :
    Prop where
  first : run.Founded evidence root
  second : next.Founded evidence root
  follows : next.saved = run.records root
  produced : Produced evidence root (run.records root) run.outcome run.disk kept wrote next.disk
  version : run.host.version = next.host.version
  settings : run.plan.settings = next.plan.settings
  scanners : run.plan.scanners = next.plan.scanners
  directory : run.outcome.outputDirectory = next.outcome.outputDirectory
  spares : SparesArtifacts run.plan.settings root run.outcome.outputDirectory

namespace Repeats

theorem filter_files_eq (repeats : run.Repeats next evidence root kept wrote) {p : Text → Bool}
    (spares : ∀ above name, run.outcome.outputDirectory.place = root.names ++ above →
      isArtifactName name = true → p (Path.joinNames (above ++ [name])) = false) :
    (next.plan.files.filter fun file => p file.path) =
      run.plan.files.filter fun file => p file.path :=
  repeats.produced.filter_files_eq repeats.first.isRoot repeats.second.isRoot
    repeats.first.ran.planned repeats.second.ran.planned repeats.first.orderly repeats.second.orderly
    spares

theorem sources_eq (repeats : run.Repeats next evidence root kept wrote) :
    next.plan.sources = run.plan.sources := by
  apply repeats.filter_files_eq (p := fun path => decide (FileKind.ofPath path = .source))
  intro above name _ isName
  rw [FileKind.ofPath_of_isArtifactName above isName]
  rfl

theorem wholes_eq (repeats : run.Repeats next evidence root kept wrote) :
    next.plan.wholes = run.plan.wholes := by
  unfold Plan.wholes
  rw [← repeats.settings]
  exact repeats.filter_files_eq repeats.spares

theorem pairs_eq (repeats : run.Repeats next evidence root kept wrote) :
    next.plan.pairs = run.plan.pairs := by
  unfold Plan.pairs Plan.inputsOf
  rw [← repeats.scanners, repeats.sources_eq, repeats.wholes_eq]

theorem sameSearch (repeats : run.Repeats next evidence root kept wrote) :
    SameSearch run.plan.settings next.plan.settings := by
  rw [repeats.settings]
  exact ⟨rfl, rfl, rfl⟩

theorem hasRead (repeats : run.Repeats next evidence root kept wrote) {pair : Scanner × Walk.Found}
    (mem : pair ∈ next.plan.pairs) : run.plan.hasRead pair = true := by
  rw [repeats.pairs_eq] at mem
  exact Plan.hasRead_iff.mpr ⟨pair.2, mem, rfl, rfl⟩

/-- Nothing is searched anew. -/
theorem computed_eq_zero (repeats : run.Repeats next evidence root kept wrote) :
    next.outcome.computed = 0 := by
  rw [(repeats.first.counts_eq repeats.second repeats.follows repeats.version repeats.sameSearch).1,
    List.countP_eq_zero]
  intro pair mem
  rw [repeats.hasRead mem]
  decide

/-- The same markers are found. -/
theorem markers_eq (repeats : run.Repeats next evidence root kept wrote) :
    next.markers = run.markers := by
  have found := forall₂_freshMarkers repeats.first.isRoot repeats.first.ran.planned
    repeats.first.orderly repeats.first.ran.gives
  have found' := forall₂_freshMarkers repeats.second.isRoot repeats.second.ran.planned
    repeats.second.orderly repeats.second.ran.gives
  rw [repeats.sources_eq] at found'
  refine List.right_unique_forall₂' ?_ found' found
  intro file markers markers' isFound isFound'
  exact Except.ok.inj (isFound.symm.trans isFound')

/-- The findings are those of the run before, as a cache keeps them. -/
theorem findings_eq (repeats : run.Repeats next evidence root kept wrote) :
    next.answers.map Answer.findings =
      run.answers.map fun answer => answer.findings.map Finding.joined := by
  have held : List.Forall₂ (fun pair answer => run.records root (findingKeyOf pair.1 pair.2.path) =
      some (next.findingRecord pair answer.findings)) run.plan.pairs next.answers := by
    rw [← repeats.pairs_eq]
    apply repeats.second.answered.imp
    rintro pair answer ⟨mem, answered⟩
    have recalled := repeats.first.recalled_eq repeats.second repeats.follows repeats.version
      repeats.sameSearch mem answered
    rw [repeats.hasRead mem] at recalled
    cases answered with
    | recalled _ _ held =>
        dsimp only at held
        rw [repeats.second.findingRecord_eq mem, repeats.follows] at held
        exact held
    | computed isComputed _ _ =>
        rw [recalled] at isComputed
        cases isComputed
  let recordedAs (pair : Scanner × Walk.Found) (findings : List Finding) : Prop :=
    ∃ record : Record, run.records root (findingKeyOf pair.1 pair.2.path) = some record ∧
      record.payload = .findings findings
  apply List.right_unique_forall₂' (R := recordedAs)
  · rintro pair findings findings' ⟨record, isRecord, payload⟩ ⟨record', isRecord', payload'⟩
    cases isRecord.symm.trans isRecord'
    cases payload.symm.trans payload'
    rfl
  · rw [List.forall₂_map_right_iff]
    exact held.imp fun pair answer isRecord => ⟨_, isRecord, rfl⟩
  · rw [List.forall₂_map_right_iff]
    exact repeats.first.recorded.imp fun pair answer isRecord => ⟨_, isRecord, rfl⟩

theorem unique (repeats : run.Repeats next evidence root kept wrote) : wrote.Unique :=
  repeats.produced.written.unique (repeats.produced.leaves.unique repeats.first.orderly.unique)

/-- What the run before has generated is there. -/
theorem texts (repeats : run.Repeats next evidence root kept wrote) :
    ∀ artifact ∈ run.outcome.generation.artifacts,
      next.disk.readText (run.outcome.outputDirectory.child artifact.name) = .ok artifact.text := by
  intro artifact mem
  have text := repeats.produced.written.texts (repeats.first.nodup_places _) artifact mem
    (repeats.first.feeds_artifacts artifact mem)
  exact repeats.produced.removed.readText repeats.unique mem (repeats.produced.names artifact mem) text

/-- If there is a marker, then the class names hold no surrogates, since they are in the texts. -/
theorem whole (repeats : run.Repeats next evidence root kept wrote) {chosen : Marker}
    (isChosen : Marker.select run.markers.flatten = some chosen) :
    ∀ finding ∈ run.findings, ∀ name ∈ finding.classes, ∀ c ∈ name, c.isSurrogate = false := by
  intro finding mem name isName c inName
  rw [Bool.eq_false_iff]
  intro surrogate
  obtain ⟨artifact, isArtifact, inText⟩ := @Generation.exists_mem_finish _ _ run.plan.settings.mode
    repeats.first.covers.own repeats.first.covers.scannersNodup repeats.first.known chosen _ mem _
    isName _ inName surrogate
  rw [← isChosen, ← repeats.first.generation_eq] at isArtifact
  rw [Disk.isSurrogate_of_mem_readText (repeats.texts artifact isArtifact) c inText] at surrogate
  cases surrogate

/-- The next run generates the same. -/
theorem artifacts_eq (repeats : run.Repeats next evidence root kept wrote) :
    next.outcome.generation.artifacts = run.outcome.generation.artifacts := by
  rw [repeats.second.generation_eq, repeats.first.generation_eq, repeats.markers_eq,
    ← repeats.scanners, ← repeats.settings]
  cases isChosen : Marker.select run.markers.flatten with
  | none => rfl
  | some chosen =>
      have same : next.findings = run.findings := by
        unfold findings
        rw [List.flatMap_def, List.flatMap_def, repeats.findings_eq,
          repeats.first.joined_findings (repeats.whole isChosen)]
      rw [same]

/-- A run that finds all as the run before has left it searches nothing anew, writes nothing and
removes nothing. -/
theorem idle {kept' wrote' : Disk} (repeats : run.Repeats next evidence root kept wrote)
    (produced : Produced evidence root (next.records root) next.outcome next.disk kept' wrote' disk) :
    next.outcome.computed = 0 ∧ next.outcome.written = [] ∧ next.outcome.removed = [] := by
  have leaves := produced.leaves
  have outside {place : List Text} (mem : place ∈ cachePlaces root) : ¬ Output.IsArtifactPlace place :=
    not_isArtifactPlace_cachePlaces repeats.first.plain mem
  have upToDate : ∀ artifact ∈ next.outcome.generation.artifacts,
      kept'.readText (next.outcome.outputDirectory.child artifact.name) = .ok artifact.text := by
    rw [repeats.artifacts_eq, ← repeats.directory]
    intro artifact mem
    apply Output.readText_of_touches leaves.touches _ (repeats.texts artifact mem)
    exact fun isPlace =>
      outside isPlace (Output.isArtifactPlace_child _ (repeats.produced.names artifact mem))
  obtain ⟨nothing, same⟩ := produced.upToDate upToDate
  refine ⟨repeats.computed_eq_zero, nothing, ?_⟩
  have present : next.disk.view (root.names ++ [Walk.stateDirectory]) = some .directory := by
    apply (repeats.produced.removed.touches repeats.unique).directories
    exact repeats.produced.written.touches.directories _ repeats.produced.present
  have none := Output.Removed.stale_eq_nil repeats.unique repeats.produced.removed
  rw [produced.stale, same, ← repeats.directory, repeats.artifacts_eq,
    Output.stale_eq_nil_of_touches repeats.second.orderly.unique
      (leaves.unique repeats.second.orderly.unique) leaves.touches (leaves.makesNoDirectory present)
      (fun place => outside) none]
  rfl

end Repeats
end Execution
/-! ## Consecutive runs -/

/-- If only calls that are to leave nothing behind come between, then nothing is changed where the caches
are. -/
theorem History.edited {start : Disk} {moments : List Moment}
    (history : History (Edited root) (fun moment => moment.call.persists = false) start moments disk) :
    Edited root start disk := by
  induction history with
  | start => exact fun _ => rfl
  | edit _ edited ih => exact fun rest => (edited rest).trans (ih rest)
  | call _ idle ih =>
      rw [Moment.after_of_not_persists idle]
      exact ih

/-- A run that was not dry, with the caches that it leaves. -/
theorem exists_founded {host : Host} {request : Request} {world after : World} {plan : Plan}
    {saved : Records} (isRoot : Path.resolve host.working request.path = root)
    (orderly : world.disk.Orderly) (distinct : evidence.Distinct)
    (planned : Plan.of host request world.disk = .ok plan) (covers : evidence.Covers host plan)
    (kept : Kept evidence root saved world.disk) (persists : request.dry = false)
    (gives : (Project.run host request).run.run world = (.ok outcome, after)) :
    ∃ markers answers middle wrote,
      let run : Execution := ⟨host, request, world.disk, saved, plan, markers, answers, outcome⟩
      run.Founded evidence root ∧
        Produced evidence root (run.records root) outcome world.disk middle wrote after.disk := by
  have covers' (plan' : Plan) (planned' : Plan.of host request world.disk = .ok plan') :
      evidence.Covers host plan' := by
    cases planned.symm.trans planned'
    exact covers
  obtain ⟨plan', markers, answers, ran, produces⟩ :=
    (ensures_run host request isRoot rfl orderly distinct covers' kept).of_eq_ok gives
  obtain ⟨middle, wrote, produced⟩ := produces persists
  cases planned.symm.trans ran.planned
  exact ⟨markers, answers, middle, wrote, ⟨isRoot, orderly, covers, distinct, kept, ran⟩, produced⟩

/-- A run that generates nothing, and finds no earlier generated files, leaves all that the next run works
on as it is. -/
theorem Produced.sameOutside {evidence : Evidence} {records : Records} {outcome : Outcome}
    {disk disk' middle wrote : Disk}
    (produced : Produced evidence root records outcome disk middle wrote disk')
    (plain : Path.parentName ∉ root.names) (inside : disk.view root.names = some .directory)
    (orderly : disk.Orderly) (nothing : outcome.generation.artifacts = [])
    (clear : ∀ name content, isArtifactName name = true →
      disk.view (outcome.outputDirectory.place ++ [name]) ≠ some (.file content)) :
    SameOutside root disk disk' ∧ disk'.Orderly ∧ (CacheFree root disk → CacheFree root disk') := by
  have same := produced.view_eq plain orderly nothing clear
  have leaves := produced.leaves
  refine ⟨?_, ?_, ?_⟩
  · intro names outside
    rw [same]
    exact leaves.sameOutside plain inside names outside
  · apply orderly_of_view_eq (leaves.orderly plain orderly inside) _ same
    exact produced.removed.unique
  · intro free
    apply free.of_makesOnly plain
    intro names other seen
    exact leaves.makesOnly inside names other (same names ▸ seen)

/-- A project without a marker and without earlier generated files can be run, and the run leaves all that
the next run works on as it is. -/
theorem Plan.Searchable.exists_repeatable_run {host : Host} {request : Request} {world : World}
    {plan : Plan} {saved : Records} {moments : List Moment} (searchable : plan.Searchable)
    (proper : Moment.Proper root ⟨host, .run request, world⟩) (persists : request.dry = false)
    (mem : ⟨host, .run request, world⟩ ∈ moments)
    (planned : Plan.of host request world.disk = .ok plan)
    (distinct : (evidenceOf moments).Distinct) (writable : (evidenceOf moments).Writable)
    (kept : Kept (evidenceOf moments) root saved world.disk) (free : CacheFree root world.disk)
    (uncancelled : ∀ asked, request.signal asked = false)
    (unmarked : ∀ file ∈ plan.sources, freshMarkers file.path file.content.bytes = .ok [])
    (clear : ∀ name content, isArtifactName name = true →
      world.disk.view ((plan.target request root).place ++ [name]) ≠ some (.file content)) :
    ∃ outcome after, (Project.run host request).run.run world = (.ok outcome, after) ∧
      Plan.of host request after.disk = .ok plan ∧ Moment.Proper root ⟨host, .run request, after⟩ ∧
      CacheFree root after.disk ∧ outcome.outputDirectory = plan.target request root := by
  have plain := proper.plain
  have orderly := proper.orderly
  obtain ⟨outcome, after, gives⟩ := searchable.exists_run proper mem planned distinct writable kept
    uncancelled free unmarked
  obtain ⟨markers, answers, middle, wrote, founded, produced⟩ := exists_founded proper.isRoot orderly
    distinct planned (covers_evidenceOf mem proper planned) kept persists gives
  have nothing : outcome.generation.artifacts = [] :=
    congrArg Generation.artifacts (founded.generation_of_unmarked unmarked)
  have target : outcome.outputDirectory = plan.target request root := founded.ran.target
  obtain ⟨outside, orderly', free'⟩ :=
    produced.sameOutside plain (isRoot_view proper.isRoot planned) orderly nothing (target ▸ clear)
  have planned' : Plan.of host request after.disk = .ok plan :=
    outside.plan_eq kept.free (produced.kept plain orderly).free proper.isRoot orderly orderly' planned
  refine ⟨outcome, after, gives, planned', ⟨proper.isRoot, orderly', proper.version, ?_, ?_⟩,
    free' free, target⟩
  · exact fun plan' isPlan => proper.own plan' (planned.trans (planned'.symm.trans isPlan))
  · exact fun plan' isPlan => proper.scannersNodup plan' (planned.trans (planned'.symm.trans isPlan))

/-- A project without a marker and without caches can be run, and run again when that is done; the second
run works on the same. -/
theorem exists_two_runs {host : Host} {request : Request} {world : World} {plan : Plan}
    (proper : Moment.Proper root ⟨host, .run request, world⟩) (persists : request.dry = false)
    (planned : Plan.of host request world.disk = .ok plan)
    (absent : world.disk.view (root.names ++ [Walk.stateDirectory]) = none)
    (free : CacheFree root world.disk) (searchable : plan.Searchable)
    (uncancelled : ∀ asked, request.signal asked = false)
    (unmarked : ∀ file ∈ plan.sources, freshMarkers file.path file.content.bytes = .ok [])
    (clear : ∀ name content, isArtifactName name = true →
      world.disk.view ((plan.target request root).place ++ [name]) ≠ some (.file content))
    (distinct : ∀ moments : List Moment, (∀ moment ∈ moments, moment.plan = .ok plan) →
      (evidenceOf moments).Distinct)
    (writable : ∀ moments : List Moment, (∀ moment ∈ moments, moment.plan = .ok plan) →
      (evidenceOf moments).Writable) :
    ∃ outcome after outcome' after',
      (Project.run host request).run.run world = (.ok outcome, after) ∧
      (Project.run host request).run.run after = (.ok outcome', after') ∧
      Plan.of host request after.disk = .ok plan ∧ after.disk.Orderly ∧
      outcome.outputDirectory = plan.target request root ∧
      outcome'.outputDirectory = plan.target request root := by
  have keptOf (evidence : Evidence) : Kept evidence root Records.empty world.disk :=
    kept_of_absent proper.plain absent
  have calls : ∀ moment ∈ [(⟨host, .run request, world⟩ : Moment)], moment.plan = .ok plan := by
    intro moment mem
    rw [List.mem_singleton.mp mem]
    exact planned
  obtain ⟨outcome, after, gives, planned', proper', free', target⟩ :=
    searchable.exists_repeatable_run proper persists (List.mem_singleton_self _) planned
      (distinct _ calls) (writable _ calls) (keptOf _) free uncancelled unmarked clear
  -- The second run has more evidence, to which the first run is held as well.
  have calls' : ∀ moment ∈ [(⟨host, .run request, world⟩ : Moment), ⟨host, .run request, after⟩],
      moment.plan = .ok plan := by
    intro moment mem
    rcases List.mem_pair.mp mem with rfl | rfl
    · exact planned
    · exact planned'
  obtain ⟨_, _, _, _, _, produced⟩ := exists_founded proper.isRoot proper.orderly (distinct _ calls')
    planned (covers_evidenceOf List.mem_cons_self proper planned) (keptOf _) persists gives
  have kept := produced.kept proper.plain proper.orderly
  have mem : (⟨host, .run request, after⟩ : Moment) ∈
      [⟨host, .run request, world⟩, ⟨host, .run request, after⟩] :=
    List.mem_cons_of_mem _ (List.mem_singleton_self _)
  obtain ⟨outcome', after', gives'⟩ := searchable.exists_run proper' mem planned'
    (distinct _ calls') (writable _ calls') kept uncancelled free' unmarked
  obtain ⟨_, _, _, _, founded, _⟩ := exists_founded proper'.isRoot proper'.orderly (distinct _ calls')
    planned' (covers_evidenceOf mem proper' planned') kept persists gives'
  exact ⟨outcome, after, outcome', after', gives, gives', planned', proper'.orderly, target,
    founded.ran.target⟩

end Project
end ClassHarvest
