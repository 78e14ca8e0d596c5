import ClassHarvest.Files.Walk
import ClassHarvest.Proofs.Files.Names
import ClassHarvest.Proofs.Files.Unique
import Mathlib.Data.List.Nodup

/-!
# What a walk finds

A walk through a tree finds the files that are seen in it and that no rule and no skipped directory
keeps it from.  No two of them have the same path.
-/

namespace ClassHarvest

namespace Tree

/-- What holds of files, and of directories if it holds of all in them, holds of trees. -/
@[elab_as_elim]
theorem inductionOn {motive : Tree → Prop} (tree : Tree) (file : ∀ content, motive (.file content))
    (directory : ∀ entries : List (Text × Tree), (∀ entry ∈ entries, motive entry.2) →
      motive (.directory entries)) : motive tree :=
  @Tree.rec motive (fun entries => ∀ entry ∈ entries, motive entry.2) (fun entry => motive entry.2)
    file directory
    (fun _ mem => absurd mem List.not_mem_nil)
    (fun _ _ first others entry mem => by
      rcases List.mem_cons.mp mem with rfl | mem
      · exact first
      · exact others entry mem)
    (fun _ _ held => held) tree

/-- In every directory the names can be names, and no two are the same. -/
def Orderly (tree : Tree) : Prop :=
  ∀ names entries, tree.get? names = some (.directory entries) →
    (Dictionary.keys entries).Nodup ∧ ∀ name ∈ Dictionary.keys entries, Path.IsName name

namespace Orderly

variable {entries : List (Text × Tree)} {tree : Tree} {name : Text} {names : List Text}

theorem nodup (orderly : (directory entries).Orderly) : (Dictionary.keys entries).Nodup :=
  (orderly [] entries rfl).1

theorem isName (orderly : (directory entries).Orderly) (mem : name ∈ Dictionary.keys entries) :
    Path.IsName name :=
  (orderly [] entries rfl).2 name mem

theorem get?_eq_some_iff (orderly : (directory entries).Orderly) :
    Dictionary.get? name entries = some tree ↔ (name, tree) ∈ entries :=
  Dictionary.get?_eq_some_iff orderly.nodup

theorem of_get? (orderly : tree.Orderly) {inner : Tree} (found : tree.get? names = some inner) :
    inner.Orderly := by
  intro further entries isFound
  apply orderly (names ++ further)
  rw [get?_append, found]
  exact isFound

theorem of_mem (orderly : (directory entries).Orderly) (mem : (name, tree) ∈ entries) :
    tree.Orderly := by
  have found : (directory entries).get? [name] = some tree := by
    rw [get?, orderly.get?_eq_some_iff.mpr mem]
    exact get?_nil tree
  exact orderly.of_get? found

/-- Names that lead somewhere can be names. -/
theorem isName_of_view (orderly : tree.Orderly) {sight : Sight}
    (seen : tree.view names = some sight) : ∀ name ∈ names, Path.IsName name := by
  induction names generalizing tree with
  | nil =>
      intro name mem
      cases mem
  | cons first names ih =>
      cases tree with
      | file content => cases seen
      | directory entries =>
          rw [view_directory_cons] at seen
          obtain ⟨inner, isInner, seen⟩ := Option.bind_eq_some_iff.mp seen
          have mem := orderly.get?_eq_some_iff.mp isInner
          intro name isMember
          rcases List.mem_cons.mp isMember with rfl | isMember
          · exact orderly.isName (List.mem_map.mpr ⟨_, mem, rfl⟩)
          · exact ih (orderly.of_mem mem) seen name isMember

theorem unique (orderly : tree.Orderly) : tree.Unique :=
  fun names entries found => (orderly names entries found).1

theorem ofFile (content : FileContent) : (file content).Orderly := by
  intro names entries found
  cases names with
  | nil => cases found
  | cons name names => cases found

theorem ofDirectory (nodup : (Dictionary.keys entries).Nodup)
    (isName : ∀ name ∈ Dictionary.keys entries, Path.IsName name)
    (inside : ∀ entry ∈ entries, entry.2.Orderly) : (directory entries).Orderly := by
  intro names held found
  cases names with
  | nil =>
      cases found
      exact ⟨nodup, isName⟩
  | cons name names =>
      rw [get?] at found
      cases first : Dictionary.get? name entries with
      | none =>
          rw [first] at found
          cases found
      | some tree =>
          rw [first] at found
          exact inside _ (Dictionary.mem_of_get?_eq_some first) names held found

theorem ofEntry (isName : Path.IsName name) (orderly : tree.Orderly) :
    (directory [(name, tree)]).Orderly :=
  ofDirectory (List.nodup_singleton _) (List.forall_mem_singleton.mpr isName)
    (List.forall_mem_singleton.mpr orderly)

/-- A tree is orderly if its names are used once and everything in it has names that can be names. -/
theorem of_view (unique : tree.Unique)
    (isName : ∀ names sight, tree.view names = some sight → ∀ name ∈ names, Path.IsName name) :
    tree.Orderly := by
  intro names entries found
  refine ⟨unique names entries found, fun name mem => ?_⟩
  obtain ⟨inner, isInner⟩ := Option.isSome_iff_exists.mp (Dictionary.isSome_get?_iff.mpr mem)
  have seen : tree.view (names ++ [name]) = some inner.sight := by
    rw [view, get?_append, found, Option.bind_some, get?, isInner]
    exact congrArg (Option.map sight) (get?_nil inner)
  exact isName _ _ seen name (by simp)

end Orderly
end Tree

/-- Everything on a disk has a name that can be a name, and no other thing has it there. -/
def Disk.Orderly (disk : Disk) : Prop :=
  disk.top.Orderly

theorem Disk.Orderly.unique {disk : Disk} (orderly : disk.Orderly) : disk.Unique :=
  Tree.Orderly.unique orderly

theorem Disk.Orderly.of_status {disk : Disk} (orderly : disk.Orderly) {path : Path} {tree : Tree}
    (found : disk.status path = .ok tree) : tree.Orderly := by
  rw [status] at found
  cases located : disk.locate path with
  | error fault =>
      rw [located] at found
      cases found
  | ok names =>
      rw [located] at found
      simp only [bind, Except.bind] at found
      split at found
      · next inner held =>
          cases found
          exact Tree.Orderly.of_get? orderly held
      · cases found

/-! ## The order of texts -/

namespace Text

theorem le_total (s t : Text) : (le s t || le t s) = true := by
  induction s generalizing t with
  | nil => rfl
  | cons a s ih =>
      cases t with
      | nil => rfl
      | cons b t =>
          rw [le, le]
          rcases Nat.lt_trichotomy a.val b.val with less | same | greater
          · rw [if_pos less]
            rfl
          · rw [if_neg (by omega), if_neg (by omega), if_neg (by omega), if_neg (by omega)]
            exact ih t
          · simp [greater]

theorem le_cons_iff {a b : CodePoint} {s t : Text} :
    le (a :: s) (b :: t) = true ↔ a.val < b.val ∨ a = b ∧ le s t = true := by
  rw [le]
  rcases Nat.lt_trichotomy a.val b.val with less | same | greater
  · simp [less]
  · obtain ⟨n, isLt⟩ := a
    obtain rfl : n = b.val := same
    simp
  · have other : a ≠ b := fun same => absurd (same ▸ greater) (Nat.lt_irrefl _)
    simp [greater, Nat.lt_asymm greater, other]

theorem le_trans {s t u : Text} (first : le s t = true) (second : le t u = true) :
    le s u = true := by
  induction s generalizing t u with
  | nil => rfl
  | cons a s ih =>
      cases t with
      | nil => cases first
      | cons b t =>
          cases u with
          | nil => cases second
          | cons c u =>
              rw [le_cons_iff] at first second ⊢
              rcases first with less | ⟨rfl, first⟩
              · rcases second with less' | ⟨rfl, _⟩
                · exact Or.inl (Nat.lt_trans less less')
                · exact Or.inl less
              · rcases second with less | ⟨rfl, second⟩
                · exact Or.inl less
                · exact Or.inr ⟨rfl, ih first second⟩

theorem le_antisymm {s t : Text} (first : le s t = true) (second : le t s = true) : s = t := by
  induction s generalizing t with
  | nil =>
      cases t with
      | nil => rfl
      | cons b t => cases second
  | cons a s ih =>
      cases t with
      | nil => cases first
      | cons b t =>
          rw [le_cons_iff] at first second
          rcases first with less | ⟨rfl, first⟩
          · rcases second with less' | ⟨rfl, _⟩
            · exact absurd less (Nat.lt_asymm less')
            · exact absurd less (Nat.lt_irrefl _)
          · rcases second with less | ⟨_, second⟩
            · exact absurd less (Nat.lt_irrefl _)
            · rw [ih first second]

theorem pairwise_sort (ts : List Text) : (sort ts).Pairwise fun s t => le s t = true := by
  apply List.pairwise_mergeSort
  · exact fun s t u first second => le_trans first second
  · exact le_total

end Text

namespace Walk

/-- Whether a walk gets to the file that some names lead to from a directory; `above` leads to the
directory. -/
def reaches (rules : IgnoreRules) : Text → List Text → Bool
  | _, [] => false
  | above, [name] => listsFile rules above name
  | above, name :: next :: rest =>
    entersDirectory rules above name && reaches rules (above ++ name ++ [separator]) (next :: rest)

variable {rules : IgnoreRules} {above name : Text} {tree : Tree} {entries : List (Text × Tree)}
  {found : Found}

theorem inEntries_eq_flatMap (rules : IgnoreRules) (above : Text) (entries : List (Text × Tree)) :
    inEntries rules above entries = entries.flatMap fun entry =>
      inTree rules above entry.1 entry.2 := by
  induction entries with
  | nil => rw [inEntries, List.flatMap_nil]
  | cons entry entries ih => rw [inEntries, List.flatMap_cons, ih]

/-- A file is seen behind some names in a tree, and reached there. -/
def SeenIn (rules : IgnoreRules) (above : Text) (tree : Tree) (found : Found) : Prop :=
  ∃ names, found.path = above ++ Path.joinNames names ∧
    tree.view names = some (.file found.content) ∧ reaches rules above names = true

/-- The same for a tree that has a name. -/
def SeenAs (rules : IgnoreRules) (above name : Text) (tree : Tree) (found : Found) : Prop :=
  ∃ names, found.path = above ++ Path.joinNames (name :: names) ∧
    tree.view names = some (.file found.content) ∧ reaches rules above (name :: names) = true

theorem seenIn_directory_iff (orderly : (Tree.directory entries).Orderly) :
    SeenIn rules above (.directory entries) found ↔
      ∃ entry ∈ entries, SeenAs rules above entry.1 entry.2 found := by
  constructor
  · rintro ⟨names, path, seen, reached⟩
    cases names with
    | nil => cases reached
    | cons name names =>
        rw [Tree.view_directory_cons] at seen
        obtain ⟨tree, isTree, seen⟩ := Option.bind_eq_some_iff.mp seen
        exact ⟨(name, tree), orderly.get?_eq_some_iff.mp isTree, names, path, seen, reached⟩
  · rintro ⟨⟨name, tree⟩, isEntry, names, path, seen, reached⟩
    refine ⟨name :: names, path, ?_, reached⟩
    rw [Tree.view_directory_cons, orderly.get?_eq_some_iff.mpr isEntry]
    exact seen

theorem seenAs_directory_iff :
    SeenAs rules above name (.directory entries) found ↔
      entersDirectory rules above name = true ∧
        SeenIn rules (above ++ name ++ [separator]) (.directory entries) found := by
  constructor
  · rintro ⟨names, path, seen, reached⟩
    cases names with
    | nil =>
        rw [Tree.view_nil] at seen
        cases seen
    | cons next names =>
        rw [reaches, Bool.and_eq_true] at reached
        refine ⟨reached.1, next :: names, ?_, seen, reached.2⟩
        rw [path, Path.joinNames_cons_cons]
        simp
  · rintro ⟨entered, names, path, seen, reached⟩
    cases names with
    | nil => cases reached
    | cons next names =>
        refine ⟨next :: names, ?_, seen, ?_⟩
        · rw [path, Path.joinNames_cons_cons]
          simp
        · rw [reaches, entered, reached]
          rfl

theorem mem_inEntries_of (orderly : (Tree.directory entries).Orderly)
    (each : ∀ entry ∈ entries, found ∈ inTree rules above entry.1 entry.2 ↔
      SeenAs rules above entry.1 entry.2 found) :
    found ∈ inEntries rules above entries ↔ SeenIn rules above (.directory entries) found := by
  rw [inEntries_eq_flatMap, List.mem_flatMap, seenIn_directory_iff orderly]
  constructor
  · rintro ⟨entry, isEntry, mem⟩
    exact ⟨entry, isEntry, (each entry isEntry).mp mem⟩
  · rintro ⟨entry, isEntry, seen⟩
    exact ⟨entry, isEntry, (each entry isEntry).mpr seen⟩

/-- What is found in a tree is what is seen in it and reached. -/
theorem mem_inTree_iff (orderly : tree.Orderly) :
    found ∈ inTree rules above name tree ↔ SeenAs rules above name tree found := by
  induction tree using Tree.inductionOn generalizing above name with
  | file content =>
      rw [inTree]
      constructor
      · intro mem
        split at mem
        · next listed =>
            obtain rfl := List.mem_singleton.mp mem
            exact ⟨[], rfl, Tree.view_nil _, listed⟩
        · cases mem
      · rintro ⟨names, path, seen, reached⟩
        cases names with
        | nil =>
            rw [Tree.view_nil] at seen
            cases seen
            rw [reaches] at reached
            rw [if_pos reached, List.mem_singleton]
            obtain ⟨foundPath, foundContent⟩ := found
            exact congrArg (Found.mk · foundContent) path
        | cons next names => cases seen
  | directory entries ih =>
      rw [inTree, seenAs_directory_iff]
      split
      · next entered =>
          rw [mem_inEntries_of orderly fun entry mem => ih entry mem (orderly.of_mem mem)]
          exact ⟨fun seen => ⟨entered, seen⟩, fun seen => seen.2⟩
      · next notEntered =>
          constructor
          · intro mem
            cases mem
          · rintro ⟨entered, _⟩
            exact absurd entered notEntered

/-- Entries with different names lead to different paths. -/
theorem nodup_paths_inEntries_of (orderly : (Tree.directory entries).Orderly)
    (each : ∀ entry ∈ entries, ((inTree rules above entry.1 entry.2).map Found.path).Nodup) :
    ((inEntries rules above entries).map Found.path).Nodup := by
  rw [inEntries_eq_flatMap, List.map_flatMap, List.nodup_flatMap]
  refine ⟨each, ?_⟩
  have different := List.pairwise_map.mp orderly.nodup
  apply different.imp_of_mem
  rintro ⟨name, tree⟩ ⟨name', tree'⟩ mem mem' other path isPath isPath'
  obtain ⟨found, isFound, rfl⟩ := List.mem_map.mp isPath
  obtain ⟨found', isFound', same⟩ := List.mem_map.mp isPath'
  obtain ⟨names, path, seen, _⟩ := (mem_inTree_iff (orderly.of_mem mem)).mp isFound
  obtain ⟨names', path', seen', _⟩ := (mem_inTree_iff (orderly.of_mem mem')).mp isFound'
  have all {name : Text} {tree : Tree} (mem : (name, tree) ∈ entries) {names : List Text}
      {content : FileContent} (seen : tree.view names = some (.file content)) :
      ∀ part ∈ name :: names, Path.IsName part := by
    have inDirectory : (Tree.directory entries).view (name :: names) = some (.file content) := by
      rw [Tree.view_directory_cons, orderly.get?_eq_some_iff.mpr mem]
      exact seen
    exact orderly.isName_of_view inDirectory
  rw [path, path'] at same
  have names_eq := Path.joinNames_inj (all mem' seen') (all mem seen) (List.append_cancel_left same)
  exact other (List.cons.inj names_eq).1.symm

/-- No two files that are found have the same path. -/
theorem nodup_paths_inTree (orderly : tree.Orderly) :
    ((inTree rules above name tree).map Found.path).Nodup := by
  induction tree using Tree.inductionOn generalizing above name with
  | file content =>
      rw [inTree]
      split
      · exact List.nodup_singleton _
      · exact List.nodup_nil
  | directory entries ih =>
      rw [inTree]
      split
      · exact nodup_paths_inEntries_of orderly fun entry mem =>
          ih entry mem (orderly.of_mem mem)
      · exact List.nodup_nil

/-! ## All files -/

theorem mem_files_iff (orderly : tree.Orderly) :
    found ∈ files rules tree ↔ SeenIn rules [] tree found := by
  rw [files, (List.mergeSort_perm _ _).mem_iff]
  cases tree with
  | file content =>
      rw [Tree.entries, inEntries]
      constructor
      · intro mem
        cases mem
      · rintro ⟨names, _, seen, reached⟩
        cases names with
        | nil => cases reached
        | cons name names => cases seen
  | directory entries =>
      apply mem_inEntries_of orderly
      intro entry mem
      exact mem_inTree_iff (orderly.of_mem mem)

theorem nodup_paths_files (rules : IgnoreRules) (orderly : tree.Orderly) :
    ((files rules tree).map Found.path).Nodup := by
  rw [files, ((List.mergeSort_perm _ _).map Found.path).nodup_iff]
  cases tree with
  | file content =>
      rw [Tree.entries, inEntries]
      exact List.nodup_nil
  | directory entries =>
      apply nodup_paths_inEntries_of orderly
      intro entry mem
      exact nodup_paths_inTree (orderly.of_mem mem)

theorem pairwise_files (rules : IgnoreRules) (tree : Tree) :
    (files rules tree).Pairwise fun a b => Text.le a.path b.path = true := by
  apply List.pairwise_mergeSort
  · intro a b c first second
    exact Text.le_trans first second
  · intro a b
    exact Text.le_total a.path b.path

/-- What is found among some paths depends on nothing but what is seen there. -/
theorem filter_files_eq {tree' : Tree} (rules : IgnoreRules) (orderly : tree.Orderly)
    (orderly' : tree'.Orderly) {p : Text → Bool}
    (same : ∀ names content, reaches rules [] names = true → p (Path.joinNames names) = true →
      (tree.view names = some (.file content) ↔ tree'.view names = some (.file content))) :
    ((files rules tree).filter fun found => p found.path) =
      (files rules tree').filter fun found => p found.path := by
  have unique := (nodup_paths_files rules orderly).of_map.filter fun found => p found.path
  have unique' := (nodup_paths_files rules orderly').of_map.filter fun found => p found.path
  have members (found : Found) : found ∈ (files rules tree).filter (fun found => p found.path) ↔
      found ∈ (files rules tree').filter fun found => p found.path := by
    rw [List.mem_filter, List.mem_filter, mem_files_iff orderly, mem_files_iff orderly']
    refine and_congr_left fun fits => exists_congr fun names => ?_
    refine and_congr_right fun path => and_congr_left fun reached => same names _ reached ?_
    rw [List.nil_append] at path
    exact path ▸ fits
  apply List.Perm.eq_of_pairwise _ ((pairwise_files rules tree).filter _)
    ((pairwise_files rules tree').filter _) ((List.perm_ext_iff_of_nodup unique unique').mpr members)
  intro found found' mem mem' first second
  have inOther := List.mem_of_mem_filter ((members found).mp mem)
  exact List.inj_on_of_nodup_map (nodup_paths_files rules orderly') inOther
    (List.mem_of_mem_filter mem') (Text.le_antisymm first second)

/-- Nothing is found in the directory with the caches. -/
theorem not_reaches_state (rules : IgnoreRules) (above name : Text) (names : List Text) :
    reaches rules above (stateDirectory :: name :: names) = false := by
  have skipped : skippedDirectories.contains stateDirectory = true := by decide
  rw [reaches, entersDirectory, skipped]
  rfl

end Walk
end ClassHarvest
