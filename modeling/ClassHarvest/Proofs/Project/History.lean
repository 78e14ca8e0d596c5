import ClassHarvest.Proofs.Project.Regeneration

/-!
# Histories of a project

Before a run, files are edited and the program is called, any number of times and in any order.  As
long as nothing but the program writes where its caches are, a run gives what is generated from the
files as they are, whatever happened before.
-/

namespace ClassHarvest.Project

open Json Scan

/-! ## What happens to a project -/

/-- What the program is called for. -/
inductive Call where
  /-- A run. -/
  | run (request : Request)
  /-- The class names are collected. -/
  | collect (request : Request)

/-- What a call asks for. -/
def Call.request : Call → Request
  | .run request => request
  | .collect request => request

/-- Whether a call is to leave something behind. -/
def Call.persists : Call → Bool
  | .run request => !request.dry
  | .collect _ => false

/-- A call of the program, with what it finds. -/
structure Moment where
  /-- What is around it. -/
  host : Host
  /-- The call. -/
  call : Call
  /-- The disk, and what scans have kept account of. -/
  world : World

namespace Moment

/-- What the call works on. -/
def plan (moment : Moment) : Except Failure Plan :=
  Plan.of moment.host moment.call.request moment.world.disk

/-- The disk after the call, whether the call gave something, failed or was called off. -/
def after (moment : Moment) : Disk :=
  match moment.call with
  | .run request => ((run moment.host request).run.run moment.world).2.disk
  | .collect request => ((collect moment.host request).run.run moment.world).2.disk

/-- A call that is to leave nothing behind changes nothing. -/
theorem after_of_not_persists {moment : Moment} (idle : moment.call.persists = false) :
    moment.after = moment.world.disk := by
  obtain ⟨host, call, world⟩ := moment
  cases call with
  | run request =>
      have isDry : request.dry = true := by
        simpa [Call.persists] using idle
      exact (@unchanged_run world request host isDry).after
  | collect request => exact (@unchanged_collect world host request).after

/-- The call is for a project on a disk as disks are, by a version that can be written down, and some
of the scanners that come with the program are enabled. -/
structure Proper (root : Path) (moment : Moment) : Prop where
  isRoot : Path.resolve moment.host.working moment.call.request.path = root
  orderly : moment.world.disk.Orderly
  version : ∀ c ∈ moment.host.version, c.isHighSurrogate = false
  own : ∀ plan, moment.plan = .ok plan → ∀ scanner ∈ plan.scanners, scanner ∈ Scanner.builtIn
  scannersNodup : ∀ plan, moment.plan = .ok plan → plan.scanners.Nodup

theorem Proper.plain {root : Path} {moment : Moment} (proper : moment.Proper root) :
    Path.parentName ∉ root.names :=
  proper.isRoot ▸ Path.plain_resolve _ _

end Moment

/-- Anything is changed, but not where the caches of a project are. -/
def Edited (root : Path) (disk disk' : Disk) : Prop :=
  ∀ rest, disk'.view (root.names ++ Walk.stateDirectory :: rest) =
    disk.view (root.names ++ Walk.stateDirectory :: rest)

/-- Edits and calls of some kinds, the calls in their order, lead from one disk to another. -/
inductive History (edits : Disk → Disk → Prop) (calls : Moment → Prop) (start : Disk) :
    List Moment → Disk → Prop
  | start : History edits calls start [] start
  | edit {moments : List Moment} {disk disk' : Disk} (before : History edits calls start moments disk)
      (edited : edits disk disk') : History edits calls start moments disk'
  | call {moments : List Moment} {moment : Moment}
      (before : History edits calls start moments moment.world.disk) (called : calls moment) :
      History edits calls start (moments ++ [moment]) moment.after

/-- What was seen by some calls. -/
def evidenceOf (moments : List Moment) : Evidence where
  seen path content := ∃ moment ∈ moments, ∃ plan, moment.plan = .ok plan ∧
    ∃ file ∈ plan.files, file.path = path ∧ file.content = content
  settings settings := ∃ moment ∈ moments, ∃ plan, moment.plan = .ok plan ∧
    plan.settings = settings

variable {root : Path} {moments : List Moment} {moment : Moment} {evidence : Evidence}
  {saved : Records} {start disk disk' : Disk}

/-- All calls of a history are of the kind that it is about. -/
theorem History.called {edits : Disk → Disk → Prop} {calls : Moment → Prop}
    (history : History edits calls start moments disk) : ∀ moment ∈ moments, calls moment := by
  induction history with
  | start => simp
  | edit _ _ ih => exact ih
  | call _ called ih =>
      intro moment mem
      rcases List.mem_append.mp mem with earlier | last
      · exact ih moment earlier
      · rw [List.mem_singleton.mp last]
        exact called

theorem covers_evidenceOf (mem : moment ∈ moments) (proper : moment.Proper root) {plan : Plan}
    (planned : moment.plan = .ok plan) : (evidenceOf moments).Covers moment.host plan where
  own := proper.own plan planned
  scannersNodup := proper.scannersNodup plan planned
  used := ⟨moment, mem, plan, planned, rfl⟩
  seen := fun file isFile => ⟨moment, mem, plan, planned, file, isFile, rfl, rfl⟩
  version := proper.version

/-! ## What the caches hold -/

/-- A project without caches keeps nothing. -/
theorem kept_of_absent (plain : Path.parentName ∉ root.names)
    (absent : disk.view (root.names ++ [Walk.stateDirectory]) = none) :
    Kept evidence root Records.empty disk := by
  have nothing (name : Text) (content : FileContent) :
      disk.view (root.names ++ [Walk.stateDirectory, name]) ≠ some (.file content) := by
    intro seen
    rw [List.append_cons] at seen
    rw [Disk.view_eq_directory_of_append (by simp) seen] at absent
    cases absent
  refine ⟨?_, ?_, ?_, Evidence.explainsAll_empty, ?_⟩
  · intro content seen
    rw [absent] at seen
    cases seen
  · apply ScanCache.FileHolds.absent
    rw [place_scans plain]
    exact nothing _
  · intro key record found
    cases found
  · intro content seen
    rw [place_hashes plain] at seen
    exact absurd seen (nothing _ content)

theorem Edited.fileHolds (edited : Edited root disk disk') (plain : Path.parentName ∉ root.names)
    (holds : ScanCache.FileHolds disk (scanCachePath root) saved) :
    ScanCache.FileHolds disk' (scanCachePath root) saved := by
  have names : (scanCachePath root).names = root.names ++ [Walk.stateDirectory, "cache.json"] := by
    simp [scanCachePath, Path.child]
  apply holds.of_view
  · rw [names]
    simpa using ⟨plain, by decide⟩
  · rw [names]
    exact edited _

theorem Edited.trusted {seen : Text → FileContent → Prop} (edited : Edited root disk disk')
    (plain : Path.parentName ∉ root.names)
    (trusted : HashCache.Trusted seen disk (Manifest.cachePath root)) :
    HashCache.Trusted seen disk' (Manifest.cachePath root) := by
  apply trusted.of_view
  intro content seen
  rw [place_hashes plain] at seen ⊢
  exact edited _ ▸ seen

theorem Kept.of_edited (kept : Kept evidence root saved disk) (plain : Path.parentName ∉ root.names)
    (edited : Edited root disk disk') : Kept evidence root saved disk' where
  free := fun content seen => kept.free content (edited [] ▸ seen)
  scans := edited.fileHolds plain kept.scans
  sorted := kept.sorted
  explains := kept.explains
  hashes := edited.trusted plain kept.hashes

/-- However a call ends, the caches hold what the evidence explains. -/
theorem Kept.of_call (kept : Kept evidence root saved moment.world.disk)
    (proper : moment.Proper root) (distinct : evidence.Distinct)
    (covers : ∀ plan, moment.plan = .ok plan → evidence.Covers moment.host plan) :
    ∃ saved', Kept evidence root saved' moment.after := by
  obtain ⟨host, call, world⟩ := moment
  cases call with
  | run request =>
      exact (kept_run host request proper.isRoot proper.orderly distinct covers kept).after
  | collect request =>
      refine ⟨saved, ?_⟩
      rw [Moment.after_of_not_persists rfl]
      exact kept

/-- Whatever happens, the caches hold what the evidence explains. -/
theorem exists_kept (plain : Path.parentName ∉ root.names) (distinct : evidence.Distinct)
    (absent : start.view (root.names ++ [Walk.stateDirectory]) = none)
    (history : History (Edited root) (Moment.Proper root) start moments disk)
    (covers : ∀ moment ∈ moments, ∀ plan, moment.plan = .ok plan →
      evidence.Covers moment.host plan) :
    ∃ saved, Kept evidence root saved disk := by
  induction history with
  | start => exact ⟨_, kept_of_absent plain absent⟩
  | edit before edited ih =>
      obtain ⟨saved, kept⟩ := ih covers
      exact ⟨saved, kept.of_edited plain edited⟩
  | @call moments moment before proper ih =>
      obtain ⟨saved, kept⟩ := ih fun moment mem => covers moment (List.mem_append_left _ mem)
      exact kept.of_call proper distinct
        (covers moment (List.mem_append_right _ (List.mem_singleton.mpr rfl)))

/-! ## Runs after a history -/

/-- A source file that uses one class name. -/
def exampleContent (name : Text) (stamp : Nat) : FileContent where
  bytes := (Utf8.encode ("partial class MonorailCSS\x7bvoid F()\x7bCssClass(\"" ++ name ++
    ("\");\x7d\x7d" : Text))).toOption.getD []
  stamp := stamp

/-- A disk with a project that has one source file. -/
def exampleDisk (content : FileContent) : Disk where
  top := .directory [("p", .directory [("A.cs", .file content)])]
  clock := 5

/-- The program is called in the directory of the project. -/
def exampleHost : Host where
  working := ⟨"/", ["p"]⟩
  version := currentVersion
  time := "2024-01-01T00:00:00Z"

/-- A dry run. -/
def exampleRequest : Request where
  path := ⟨"/", ["p"]⟩
  options := [("pattern_override", "<(?<value>[a-z]*)>")]
  dry := true

theorem orderly_exampleDisk (content : FileContent) : (exampleDisk content).Orderly :=
  Tree.Orderly.ofEntry (by decide) (Tree.Orderly.ofEntry (by decide) (Tree.Orderly.ofFile content))

/-- The versions of the source file. -/
def exampleContents : List FileContent := [exampleContent "a" 1, exampleContent "bc" 2]

/-- What a call works on. -/
theorem map_plan_example : ∀ content ∈ exampleContents,
    (Plan.of exampleHost exampleRequest (exampleDisk content)).map
        (fun plan => (plan.files, plan.scanners, some plan.settings)) =
      .ok ([⟨"A.cs", content⟩], Scanner.builtIn,
        (resolve {} exampleRequest.options none).toOption) := by
  decide +kernel

variable {content : FileContent} {plan : Plan}

theorem eq_of_planned_example (mem : content ∈ exampleContents)
    (planned : Plan.of exampleHost exampleRequest (exampleDisk content) = .ok plan) :
    plan.files = [⟨"A.cs", content⟩] ∧ plan.scanners = Scanner.builtIn ∧
      some plan.settings = (resolve {} exampleRequest.options none).toOption := by
  have same := map_plan_example content mem
  rw [planned] at same
  simpa [Except.map] using same

theorem proper_example {call : Call} (asks : call.request = exampleRequest)
    (mem : content ∈ exampleContents) :
    Moment.Proper ⟨"/", ["p"]⟩ ⟨exampleHost, call, ⟨exampleDisk content, {}⟩⟩ where
  isRoot := by
    rw [asks]
    change Path.resolve exampleHost.working exampleRequest.path = _
    decide
  orderly := orderly_exampleDisk content
  version := by
    change ∀ c ∈ currentVersion, c.isHighSurrogate = false
    decide
  own := by
    intro plan planned
    rw [Moment.plan, asks] at planned
    rw [(eq_of_planned_example mem planned).2.1]
    exact fun _ used => used
  scannersNodup := by
    intro plan planned
    rw [Moment.plan, asks] at planned
    rw [(eq_of_planned_example mem planned).2.1]
    decide

/-- What a call finds in the project. -/
theorem of_seen_example {moments : List Moment} (calls : ∀ moment ∈ moments,
      moment.host = exampleHost ∧ moment.call.request = exampleRequest ∧
        ∃ content ∈ exampleContents, moment.world.disk = exampleDisk content)
    {path : Text} (seen : (evidenceOf moments).seen path content) :
    path = "A.cs" ∧ content ∈ exampleContents := by
  obtain ⟨moment, mem, plan, planned, file, isFile, rfl, rfl⟩ := seen
  obtain ⟨isHost, asks, content, isContent, isDisk⟩ := calls moment mem
  rw [Moment.plan, isHost, asks, isDisk] at planned
  rw [(eq_of_planned_example isContent planned).1, List.mem_singleton] at isFile
  rw [isFile]
  exact ⟨rfl, isContent⟩

theorem of_used_example {moments : List Moment} (calls : ∀ moment ∈ moments,
      moment.host = exampleHost ∧ moment.call.request = exampleRequest ∧
        ∃ content ∈ exampleContents, moment.world.disk = exampleDisk content)
    {settings : RunSettings} (used : (evidenceOf moments).settings settings) :
    some settings = (resolve {} exampleRequest.options none).toOption := by
  obtain ⟨moment, mem, plan, planned, rfl⟩ := used
  obtain ⟨isHost, asks, content, isContent, isDisk⟩ := calls moment mem
  rw [Moment.plan, isHost, asks, isDisk] at planned
  exact (eq_of_planned_example isContent planned).2.2

end ClassHarvest.Project
