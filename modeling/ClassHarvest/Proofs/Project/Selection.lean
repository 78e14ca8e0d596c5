import ClassHarvest.Proofs.Project.Plan
import ClassHarvest.Proofs.Text.Lines

/-!
# What a scan of a project lists

The walk through a project goes past whole directories.  It lists the same files as if it looked at
every file by itself: those that are not left out by their name or their path, and of which no directory
on the way is.
-/

namespace ClassHarvest

namespace Path

/-- The text in front of a name that some names lead to. -/
def lead (names : List Text) : Text :=
  names.flatMap (· ++ [separator])

theorem lead_concat (names : List Text) (name : Text) :
    lead (names ++ [name]) = lead names ++ name ++ [separator] := by
  simp [lead]

theorem joinNames_concat (names : List Text) (name : Text) :
    joinNames (names ++ [name]) = lead names ++ name := by
  induction names with
  | nil => rfl
  | cons first names ih =>
      obtain ⟨next, more, shape⟩ := List.exists_cons_of_ne_nil (l := names ++ [name]) (by simp)
      rw [List.cons_append, shape, joinNames_cons_cons, ← shape, ih]
      simp [lead]

end Path

namespace Walk

variable {rules : IgnoreRules} {above : List Text} {name path : Text}

/-! ## Files by themselves -/

/-- A file is not left out: the rules and the names that are skipped concern neither the file itself nor a
directory that leads to it. -/
structure Kept (rules : IgnoreRules) (above : List Text) (name : Text) : Prop where
  ownName : name ∉ skippedFiles
  ownPath : rules.ignored (Path.joinNames (above ++ [name])) false = false
  directoryNames : ∀ directory ∈ above, directory ∉ skippedDirectories
  directories : ∀ front, front <+: above → front ≠ [] →
    rules.ignored (Path.joinNames front) true = false

/-- A path leads to a file in a tree that is not left out. -/
def Selected (rules : IgnoreRules) (tree : Tree) (path : Text) : Prop :=
  ∃ above name content, path = Path.joinNames (above ++ [name]) ∧
    tree.view (above ++ [name]) = some (.file content) ∧ Kept rules above name

/-! ## The walk -/

theorem reaches_cons {names : List Text} (further : names ≠ []) (before directory : Text) :
    reaches rules before (directory :: names) = true ↔
      entersDirectory rules before directory = true ∧
        reaches rules (before ++ directory ++ [separator]) names = true := by
  obtain ⟨next, rest, rfl⟩ := List.exists_cons_of_ne_nil further
  rw [reaches, Bool.and_eq_true]

theorem listsFile_iff (front : List Text) :
    listsFile rules (Path.lead front) name = true ↔
      name ∉ skippedFiles ∧ rules.ignored (Path.joinNames (front ++ [name])) false = false := by
  rw [listsFile, Path.joinNames_concat]
  simp

theorem entersDirectory_iff (front : List Text) :
    entersDirectory rules (Path.lead front) name = true ↔
      name ∉ skippedDirectories ∧ rules.ignored (Path.joinNames (front ++ [name])) true = false := by
  rw [entersDirectory, Path.joinNames_concat]
  simp

/-- A walk that has come through some directories gets to a file just if nothing from there on is left
out. -/
theorem reaches_lead_iff (front : List Text) :
    reaches rules (Path.lead front) (above ++ [name]) = true ↔
      name ∉ skippedFiles ∧
      rules.ignored (Path.joinNames (front ++ above ++ [name])) false = false ∧
      (∀ directory ∈ above, directory ∉ skippedDirectories) ∧
      ∀ inner, inner <+: above → inner ≠ [] →
        rules.ignored (Path.joinNames (front ++ inner)) true = false := by
  induction above generalizing front with
  | nil =>
      rw [List.nil_append, List.append_nil, reaches, listsFile_iff]
      simp
  | cons directory above ih =>
      rw [List.cons_append, reaches_cons (by simp), entersDirectory_iff, ← Path.lead_concat,
        ih (front ++ [directory]), List.append_cons front directory above]
      constructor
      · rintro ⟨⟨first, entered⟩, listed, path, others, inside⟩
        refine ⟨listed, path, List.forall_mem_cons.mpr ⟨first, others⟩, fun inner isPrefix some => ?_⟩
        obtain ⟨_, rest, rfl⟩ := List.exists_cons_of_ne_nil some
        obtain ⟨rfl, behind⟩ := List.cons_prefix_cons.mp isPrefix
        rw [List.append_cons]
        -- The first directory is the end of the front itself; those behind it are below the front.
        by_cases last : rest = []
        · rw [last, List.append_nil]
          exact entered
        · exact inside rest behind last
      · rintro ⟨listed, path, names, inside⟩
        obtain ⟨first, others⟩ := List.forall_mem_cons.mp names
        refine ⟨⟨first, inside [directory] (by simp) (by simp)⟩, listed, path, others, ?_⟩
        intro inner isPrefix _
        rw [← List.append_cons]
        exact inside (directory :: inner) (List.cons_prefix_cons.mpr ⟨rfl, isPrefix⟩) (by simp)

/-- A walk gets to the files that are not left out. -/
theorem reaches_iff_kept : reaches rules [] (above ++ [name]) = true ↔ Kept rules above name := by
  have walked : reaches rules (Path.lead []) (above ++ [name]) = true ↔ _ := reaches_lead_iff []
  simp only [List.nil_append] at walked
  refine walked.trans ⟨?_, ?_⟩
  · rintro ⟨ownName, ownPath, directoryNames, directories⟩
    exact ⟨ownName, ownPath, directoryNames, directories⟩
  · exact fun kept => ⟨kept.ownName, kept.ownPath, kept.directoryNames, kept.directories⟩

theorem mem_paths_files_iff {tree : Tree} (orderly : tree.Orderly) :
    path ∈ (files rules tree).map Found.path ↔ Selected rules tree path := by
  rw [List.mem_map]
  constructor
  · rintro ⟨found, mem, rfl⟩
    obtain ⟨names, path, seen, reached⟩ := (mem_files_iff orderly).mp mem
    rcases List.eq_nil_or_concat' names with rfl | ⟨above, name, rfl⟩
    · cases reached
    · exact ⟨above, name, found.content, path, seen, reaches_iff_kept.mp reached⟩
  · rintro ⟨above, name, content, rfl, seen, kept⟩
    exact ⟨⟨_, content⟩, (mem_files_iff orderly).mpr
      ⟨above ++ [name], rfl, seen, reaches_iff_kept.mpr kept⟩, rfl⟩

/-- The paths that a walk finds increase. -/
theorem pairwise_paths_files (rules : IgnoreRules) {tree : Tree} (orderly : tree.Orderly) :
    ((files rules tree).map Found.path).Pairwise fun p q => Text.le p q = true ∧ p ≠ q :=
  (List.pairwise_map.mpr (pairwise_files rules tree)).and (nodup_paths_files rules orderly)

end Walk

namespace Manifest

variable {disk : Disk} {root : Path} {lines : List Text}

/-! ## The rules of a project -/

/-- The lines of the ignore file of a project; there are none without the file. -/
inductive IgnoreLines (disk : Disk) (root : Path) : List Text → Prop where
  /-- There is no ignore file. -/
  | absent (noFile : disk.isFile (root.child ignoreFile) = false) : IgnoreLines disk root []
  /-- The ignore file holds the bytes of a text. -/
  | present {bytes : List UInt8} {text : Text}
      (content : disk.read (root.child ignoreFile) = .ok bytes)
      (encoded : Utf8.encode text = .ok bytes) : IgnoreLines disk root text.lines

theorem isFile_of_read {path : Path} {bytes : List UInt8} (content : disk.read path = .ok bytes) :
    disk.isFile path = true := by
  rw [Disk.isFile_iff]
  rw [Disk.read_eq] at content
  split at content
  · next found seen => exact ⟨found, seen⟩
  · cases content
  · cases content

/-- The rules of the ignore file come first. -/
theorem rules_eq_ok (ignoring : IgnoreLines disk root lines) (excluded : List Text) :
    rules disk root excluded = .ok (IgnoreRules.ofLines lines ++ IgnoreRules.ofLines excluded) := by
  unfold rules
  dsimp only
  cases ignoring with
  | absent noFile =>
      rw [noFile]
      rfl
  | present content encoded =>
      rw [isFile_of_read content, Disk.readText, content]
      dsimp only
      rw [Utf8.decode_of_encode encoded]
      simp only [if_true, Except.map, Text.lines_universalNewlines, IgnoreRules.ofLines,
        List.filterMap_append]

/-! ## The manifest -/

/-- A scan lists every file of a project that is not left out exactly once, with the kind of its path and
in strictly increasing order of the paths.  The rules are those of the ignore file, then those of what is
excluded. -/
theorem scan_selects (orderly : disk.Orderly) {entries : List (Text × Tree)}
    (isDirectory : disk.status root = .ok (.directory entries))
    (ignoring : IgnoreLines disk root lines) (given : Text) (excluded : List Text) (persist : Bool) :
    ∃ manifest after log, scan disk given root excluded persist = .ok (manifest, after, log) ∧
      (manifest.files.map FileRecord.path).Pairwise (fun p q => Text.le p q = true ∧ p ≠ q) ∧
      (∀ path, path ∈ manifest.files.map FileRecord.path ↔
        Walk.Selected (IgnoreRules.ofLines lines ++ IgnoreRules.ofLines excluded)
          (.directory entries) path) ∧
      ∀ record ∈ manifest.files, record.kind = .ofPath record.path := by
  have orderlyRoot := orderly.of_status isDirectory
  have isRules := rules_eq_ok ignoring excluded
  generalize IgnoreRules.ofLines lines ++ IgnoreRules.ofLines excluded = rules at isRules ⊢
  have listed : Project.projectFiles disk given root excluded =
      .ok (Walk.files rules (.directory entries)) := by
    rw [Project.projectFiles, isDirectory]
    dsimp only
    rw [isRules]
  have scanned := Project.scan_eq disk given root excluded persist
  rw [listed] at scanned
  cases outcome : scan disk given root excluded persist with
  | error error =>
      rw [outcome] at scanned
      cases scanned
  | ok value =>
      obtain ⟨manifest, after, log⟩ := value
      rw [outcome] at scanned
      simp only [Except.map, Except.ok.injEq, Prod.mk.injEq] at scanned
      have paths : manifest.files.map FileRecord.path =
          (Walk.files rules (.directory entries)).map Walk.Found.path := by
        rw [scanned.1, List.map_map]
        rfl
      refine ⟨manifest, after, log, rfl, ?_, ?_, ?_⟩
      · rw [paths]
        exact Walk.pairwise_paths_files rules orderlyRoot
      · rw [paths]
        exact fun path => Walk.mem_paths_files_iff orderlyRoot
      · rw [scanned.1]
        intro record mem
        obtain ⟨found, -, rfl⟩ := List.mem_map.mp mem
        rfl

/-! ### A file that is taken back in -/

/-- Rules that leave out logs but one, and a directory. -/
def sampleIgnoreText : Text := "*.log\n!keep.log\n/www\n"

/-- The ignore file with these rules. -/
def sampleIgnoreContent : List UInt8 :=
  (Utf8.encode sampleIgnoreText).toOption.getD []

/-- A project with a log of the name that is taken back in, and one more of it in a directory that is left
out. -/
def sampleEntries : List (Text × Tree) := [
  (ignoreFile, .file ⟨sampleIgnoreContent, 0⟩),
  ("debug.log", .file ⟨[], 1⟩),
  ("keep.log", .file ⟨[], 2⟩),
  ("www", .directory [("keep.log", .file ⟨[], 3⟩)])]

/-- A disk with this project. -/
def sampleDisk : Disk where
  top := .directory [("p", .directory sampleEntries)]
  clock := 4

theorem orderly_sampleDisk : sampleDisk.Orderly := by
  refine Tree.Orderly.ofEntry (by decide) (Tree.Orderly.ofDirectory (by decide) (by decide) ?_)
  simp only [sampleEntries, List.forall_mem_cons]
  exact ⟨.ofFile _, .ofFile _, .ofFile _, .ofEntry (by decide) (.ofFile _), by simp⟩

/-- What is taken back in is listed, but not below a directory that is left out. -/
theorem scan_selects_sample : ∃ manifest after log,
    scan sampleDisk "." ⟨"/", ["p"]⟩ ["old/"] true = .ok (manifest, after, log) ∧
      ("keep.log" : Text) ∈ manifest.files.map FileRecord.path ∧
      ("www/keep.log" : Text) ∉ manifest.files.map FileRecord.path := by
  have isDirectory : sampleDisk.status ⟨"/", ["p"]⟩ = .ok (.directory sampleEntries) := rfl
  have content : sampleDisk.read ⟨"/", ["p", ignoreFile]⟩ = .ok sampleIgnoreContent := rfl
  have ignoring : IgnoreLines sampleDisk ⟨"/", ["p"]⟩ sampleIgnoreText.lines :=
    .present content (by decide +kernel)
  obtain ⟨manifest, after, log, scanned, -, selects, -⟩ :=
    scan_selects orderly_sampleDisk isDirectory ignoring "." ["old/"] true
  refine ⟨manifest, after, log, scanned, ?_, ?_⟩
  · refine (selects _).mpr ⟨[], "keep.log", ⟨[], 2⟩, rfl, rfl, by decide, by decide +kernel, by simp, ?_⟩
    exact fun front isPrefix some => absurd (List.prefix_nil.mp isPrefix) some
  · intro mem
    obtain ⟨above, name, content, path, seen, kept⟩ := (selects _).mp mem
    have all := (orderly_sampleDisk.of_status isDirectory).isName_of_view seen
    have sample : ∀ part ∈ (["www"] ++ ["keep.log"] : List Text), Path.IsName part := by decide
    have names : above ++ [name] = ["www"] ++ ["keep.log"] :=
      Path.joinNames_inj all sample path.symm
    have isAbove := List.append_inj_left' names rfl
    have ignored := kept.directories ["www"] (isAbove ▸ List.prefix_refl _) (by simp)
    exact absurd ignored (by decide +kernel)

end Manifest
end ClassHarvest
