import ClassHarvest.Proofs.Files.Disk

/-!
# Names that are used once

In every directory of a disk no two things have the same name, and no access to the disk changes this.
What a directory holds is then what is seen below it.
-/

namespace ClassHarvest

namespace Tree

/-- No two things in a directory have the same name. -/
def Unique (tree : Tree) : Prop :=
  ∀ names entries, tree.get? names = some (.directory entries) → (Dictionary.keys entries).Nodup

variable {tree new : Tree} {entries : List (Text × Tree)} {name : Text}

theorem unique_file (content : FileContent) : (file content).Unique := by
  intro names entries found
  cases names with
  | nil => cases found
  | cons name names => cases found

theorem unique_empty : (directory []).Unique := by
  intro names entries found
  cases names with
  | nil =>
      cases found
      exact List.nodup_nil
  | cons name names => cases found

theorem Unique.of_get? (unique : tree.Unique) {names : List Text} {inner : Tree}
    (found : tree.get? names = some inner) : inner.Unique := by
  intro more entries isFound
  apply unique (names ++ more)
  rw [get?_append, found]
  exact isFound

theorem unique_directory_iff :
    (directory entries).Unique ↔ (Dictionary.keys entries).Nodup ∧
      ∀ name inner, Dictionary.get? name entries = some inner → inner.Unique := by
  constructor
  · intro unique
    refine ⟨unique [] entries rfl, fun name inner found => ?_⟩
    have isFound : (directory entries).get? [name] = some inner := by
      rw [get?, found]
      exact get?_nil inner
    exact unique.of_get? isFound
  · rintro ⟨nodup, each⟩ names inside found
    cases names with
    | nil =>
        cases found
        exact nodup
    | cons name names =>
        rw [get?] at found
        cases isInner : Dictionary.get? name entries with
        | none =>
            rw [isInner] at found
            cases found
        | some inner =>
            rw [isInner] at found
            exact each name inner isInner names inside found

theorem Unique.put (unique : tree.Unique) (newUnique : new.Unique) (names : List Text) :
    (tree.put names new).Unique := by
  induction names generalizing tree with
  | nil =>
      rw [Tree.put]
      exact newUnique
  | cons name names ih =>
      cases tree with
      | file content => exact unique
      | directory entries =>
          rw [unique_directory_iff] at unique
          rw [Tree.put, unique_directory_iff]
          refine ⟨Dictionary.nodup_keys_put unique.1 _ _, fun other inner found => ?_⟩
          rw [Dictionary.get?_put] at found
          split at found
          · cases found
            apply ih
            cases held : Dictionary.get? name entries with
            | none => exact unique_empty
            | some before => exact unique.2 name before held
          · exact unique.2 other inner found

theorem unique_erase (unique : tree.Unique) (names : List Text) : (tree.erase names).Unique := by
  induction names generalizing tree with
  | nil =>
      rw [erase]
      exact unique
  | cons name names ih =>
      cases tree with
      | file content =>
          cases names <;> exact unique
      | directory entries =>
          have parts := unique_directory_iff.mp unique
          cases names with
          | nil =>
              rw [erase, unique_directory_iff]
              refine ⟨Dictionary.nodup_keys_filter parts.1 _, fun other inner found => ?_⟩
              rw [Dictionary.get?_erase] at found
              split at found
              · cases found
              · exact parts.2 other inner found
          | cons next names =>
              rw [erase]
              · cases held : Dictionary.get? name entries with
                | none => exact unique
                | some before =>
                    dsimp only
                    rw [unique_directory_iff]
                    refine ⟨Dictionary.nodup_keys_put parts.1 _ _, fun other inner found => ?_⟩
                    rw [Dictionary.get?_put] at found
                    split at found
                    · cases found
                      exact ih (parts.2 name before held)
                    · exact parts.2 other inner found
              · simp

end Tree

namespace Disk

variable {disk disk' : Disk} {path : Path} {names : List Text}

/-- In no directory two things have the same name. -/
def Unique (disk : Disk) : Prop :=
  disk.top.Unique

namespace Unique

theorem putFile (unique : disk.Unique) (names : List Text) (bytes : List UInt8) :
    (disk.putFile names bytes).Unique :=
  Tree.Unique.put unique (Tree.unique_file _) names

theorem makeDirectory (unique : disk.Unique) (made : disk.makeDirectory path = .ok disk') :
    disk'.Unique := by
  rw [Disk.makeDirectory] at made
  cases located : disk.locate path with
  | error fault =>
      rw [located] at made
      cases made
  | ok names =>
      rw [located] at made
      simp only [bind, Except.bind] at made
      split at made
      · cases made
      · cases made
        exact Tree.Unique.put unique Tree.unique_empty names

theorem ensureNames (anchor : Text) (names : List Text) (unique : disk.Unique) :
    (disk.ensureNames anchor names).1.Unique := by
  induction names generalizing disk with
  | nil => exact unique
  | cons name above ih =>
      have settled (disk : Disk) (fault : FileFault) (unique : disk.Unique) :
          (if disk.isDirectory ⟨anchor, (name :: above).reverse⟩ then (disk, Except.ok ())
            else (disk, Except.error (FileError.mk fault ⟨anchor, (name :: above).reverse⟩ none))
              ).1.Unique := by
        split
        · exact unique
        · exact unique
      rw [Disk.ensureNames]
      split
      · next made => exact unique.makeDirectory made
      · have around := ih unique
        split
        · next refused =>
            rw [refused] at around
            exact around
        · next ready =>
            rw [ready] at around
            split
            · next made => exact around.makeDirectory made
            · exact settled _ _ around
      · exact settled _ _ unique

theorem ensureDirectory (unique : disk.Unique) (path : Path) :
    (disk.ensureDirectory path).1.Unique :=
  unique.ensureNames path.anchor path.names.reverse

theorem writeText (unique : disk.Unique) (path : Path) (text : Text) :
    (disk.writeText path text).1.Unique := by
  rcases writeText_cases disk path text with same | ⟨names, bytes, _, same⟩
  · rw [same]
    exact unique
  · rw [same]
    exact unique.putFile names bytes

theorem remove (unique : disk.Unique) (path : Path) : (disk.remove path).Unique := by
  rw [Disk.remove]
  cases disk.locate path with
  | error fault => exact unique
  | ok names => exact Tree.unique_erase unique names

theorem replace (unique : disk.Unique) (path target : Path) :
    (disk.replace path target).1.Unique := by
  rw [Disk.replace]
  split
  · next tree names status _ =>
      rw [Disk.status] at status
      cases located : disk.locate path with
      | error fault =>
          rw [located] at status
          cases status
      | ok place =>
          rw [located] at status
          simp only [bind, Except.bind] at status
          split at status
          · next inner found =>
              cases status
              exact Tree.Unique.put (unique.remove path) (Tree.Unique.of_get? unique found) names
          · cases status
  · exact unique
  · exact unique

end Unique

/-! ## What a directory holds -/

theorem nodup_entries (unique : disk.Unique) (path : Path) :
    (Dictionary.keys (disk.entries path)).Nodup := by
  rw [entries, status]
  cases located : disk.locate path with
  | error fault => exact List.nodup_nil
  | ok names =>
      simp only [bind, Except.bind]
      cases held : disk.top.get? names with
      | none => exact List.nodup_nil
      | some tree =>
          cases tree with
          | file content => exact List.nodup_nil
          | directory entries => exact unique names entries held

/-- What is no directory in a directory is a file that is seen below it. -/
theorem mem_entries_iff (unique : disk.Unique) {name : Text} :
    (∃ tree, (name, tree) ∈ disk.entries path ∧ tree.isDirectory = false) ↔
      ∃ names content, disk.locate path = .ok names ∧
        disk.view (names ++ [name]) = some (.file content) := by
  rw [entries, status]
  cases located : disk.locate path with
  | error fault =>
      constructor
      · rintro ⟨tree, mem, _⟩
        cases mem
      · rintro ⟨names, content, absurd, _⟩
        cases absurd
  | ok names =>
      simp only [bind, Except.bind]
      cases held : disk.top.get? names with
      | none =>
          constructor
          · rintro ⟨tree, mem, _⟩
            cases mem
          · rintro ⟨names', content, same, seen⟩
            cases same
            rw [view, Tree.view, Tree.get?_append, held] at seen
            cases seen
      | some tree =>
          cases tree with
          | file found =>
              constructor
              · rintro ⟨tree, mem, _⟩
                cases mem
              · rintro ⟨names', content, same, seen⟩
                cases same
                rw [view, Tree.view, Tree.get?_append, held] at seen
                cases seen
          | directory inside =>
              have nodup := unique names inside held
              constructor
              · rintro ⟨tree, mem, noDirectory⟩
                cases tree with
                | directory more => cases noDirectory
                | file content =>
                    refine ⟨names, content, rfl, ?_⟩
                    rw [view, Tree.view, Tree.get?_append, held, Option.bind_some, Tree.get?,
                      (Dictionary.get?_eq_some_iff nodup).mpr mem]
                    rfl
              · rintro ⟨names', content, same, seen⟩
                cases same
                rw [view, Tree.view, Tree.get?_append, held, Option.bind_some, Tree.get?] at seen
                cases isInside : Dictionary.get? name inside with
                | none =>
                    rw [isInside] at seen
                    cases seen
                | some tree =>
                    rw [isInside] at seen
                    refine ⟨tree, (Dictionary.get?_eq_some_iff nodup).mp isInside, ?_⟩
                    cases tree with
                    | file found => rfl
                    | directory more => simp [Tree.sight] at seen

end Disk
end ClassHarvest
