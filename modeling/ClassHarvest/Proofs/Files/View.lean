import ClassHarvest.Files.Disk
import ClassHarvest.Proofs.Dictionary

/-!
# What is seen on a disk

Seen from outside, a sequence of names leads to a file with its content, to a directory, or to nothing.
Putting a file or an empty directory somewhere, or removing something, changes what is seen there and
nowhere else; and what an access finds depends on nothing but what is seen.
-/

namespace ClassHarvest

/-- What is seen of a file or a directory. -/
inductive Sight where
  /-- A directory. -/
  | directory
  /-- A file. -/
  | file (content : FileContent)
deriving DecidableEq, Repr

namespace Tree

/-- What is seen of a tree. -/
def sight : Tree → Sight
  | .file content => .file content
  | .directory _ => .directory

/-- What is seen where a sequence of names leads to. -/
def view (tree : Tree) (names : List Text) : Option Sight :=
  (tree.get? names).map sight

@[simp]
theorem view_nil (tree : Tree) : tree.view [] = some tree.sight := by
  rw [view, get?_nil, Option.map_some]

@[simp]
theorem view_file_cons (content : FileContent) (name : Text) (names : List Text) :
    (file content).view (name :: names) = none :=
  rfl

theorem view_directory_cons (entries : List (Text × Tree)) (name : Text) (names : List Text) :
    (directory entries).view (name :: names) =
      (Dictionary.get? name entries).bind fun tree => tree.view names := by
  rw [view, get?]
  cases Dictionary.get? name entries <;> rfl

/-- Only a directory leads further. -/
theorem view_eq_directory_of_append {tree : Tree} {names more : List Text} (further : more ≠ [])
    {sight : Sight} (seen : tree.view (names ++ more) = some sight) :
    tree.view names = some .directory := by
  rw [view, get?_append, Option.map_eq_some_iff] at seen
  obtain ⟨found, isFound, _⟩ := seen
  rw [Option.bind_eq_some_iff] at isFound
  obtain ⟨inner, isInner, isFound⟩ := isFound
  rw [view, isInner, Option.map_some]
  cases inner with
  | directory entries => rfl
  | file content =>
      obtain ⟨name, names, rfl⟩ := List.exists_cons_of_ne_nil further
      cases isFound

/-- A file, or a directory that holds nothing. -/
def IsLeaf (tree : Tree) : Prop :=
  ∀ name names, tree.view (name :: names) = none

theorem isLeaf_file (content : FileContent) : (file content).IsLeaf :=
  fun _ _ => rfl

theorem isLeaf_empty : (directory []).IsLeaf :=
  fun _ _ => rfl

/-- What is put into a directory, in the place of a file or of nothing, is seen there.  Nothing else
changes. -/
theorem view_put {tree new : Tree} (leaf : new.IsLeaf) {name : Text} {above : List Text}
    (inside : tree.view above = some .directory)
    (free : tree.view (above ++ [name]) ≠ some .directory) (others : List Text) :
    (tree.put (above ++ [name]) new).view others =
      if others = above ++ [name] then some new.sight else tree.view others := by
  induction above generalizing tree others with
  | nil =>
      cases tree with
      | file content => cases inside
      | directory entries =>
          rw [List.nil_append, put]
          cases others with
          | nil => rfl
          | cons o others =>
              rw [view_directory_cons, Dictionary.get?_put, put, view_directory_cons]
              by_cases same : name = o
              · subst same
                rw [if_pos rfl, Option.bind_some]
                cases others with
                | nil => simp
                | cons p others =>
                    rw [leaf, if_neg (by simp)]
                    rw [List.nil_append, view_directory_cons] at free
                    cases held : Dictionary.get? name entries with
                    | none => rfl
                    | some inner =>
                        cases inner with
                        | file content => rfl
                        | directory inner => exact absurd (by rw [held]; rfl) free
              · rw [if_neg same, if_neg]
                rw [List.cons.injEq]
                exact fun equal => same equal.1.symm
  | cons first above ih =>
      cases tree with
      | file content => cases inside
      | directory entries =>
          rw [List.cons_append, put]
          rw [view_directory_cons, Option.bind_eq_some_iff] at inside
          obtain ⟨inner, held, inside⟩ := inside
          rw [List.cons_append, view_directory_cons, held, Option.bind_some] at free
          cases others with
          | nil => rfl
          | cons o others =>
              rw [view_directory_cons, Dictionary.get?_put, view_directory_cons]
              by_cases same : first = o
              · subst same
                rw [if_pos rfl, Option.bind_some, held, Option.getD_some, ih inside free,
                  Option.bind_some]
                simp
              · rw [if_neg same, if_neg]
                rw [List.cons.injEq]
                exact fun equal => same equal.1.symm

/-- What is removed is no longer seen, with all that it holds.  Nothing else changes. -/
theorem view_erase (tree : Tree) {names : List Text} (below : names ≠ []) (others : List Text) :
    (tree.erase names).view others = if names <+: others then none else tree.view others := by
  induction names generalizing tree others with
  | nil => exact absurd rfl below
  | cons name names ih =>
      cases tree with
      | file content =>
          have same : erase (name :: names) (file content) = file content := by
            cases names <;> rfl
          rw [same]
          cases others with
          | nil => simp
          | cons o others => simp
      | directory entries =>
          cases others with
          | nil =>
              rw [if_neg (by simp)]
              cases names with
              | nil => rfl
              | cons next names =>
                  rw [erase]
                  · cases Dictionary.get? name entries <;> rfl
                  · simp
          | cons o others =>
              simp only [List.cons_prefix_cons, view_directory_cons]
              cases names with
              | nil =>
                  rw [erase, view_directory_cons, Dictionary.get?_erase]
                  by_cases same : o = name
                  · simp [same]
                  · simp [same, Ne.symm same]
              | cons next names =>
                  rw [erase]
                  · cases held : Dictionary.get? name entries with
                    | none =>
                        rw [view_directory_cons]
                        by_cases same : name = o
                        · subst same
                          simp [held]
                        · simp [same]
                    | some inner =>
                        rw [view_directory_cons, Dictionary.get?_put]
                        by_cases same : name = o
                        · subst same
                          rw [if_pos rfl, Option.bind_some, ih inner (by simp), held]
                          simp
                        · simp [same]
                  · simp

end Tree
end ClassHarvest
