import ClassHarvest.Dictionary

/-!
# Trees of files

A directory holds files and directories by name.  What a path leads to is found, put in place or
removed by following its names from the top.
-/

namespace ClassHarvest

/-- What a file holds, and when it was last changed. -/
structure FileContent where
  /-- Its bytes. -/
  bytes : List UInt8
  /-- When it was changed; a later change has a greater stamp. -/
  stamp : Nat
deriving DecidableEq, Repr

/-- A file, or a directory with all that it holds. -/
inductive Tree where
  /-- A file. -/
  | file (content : FileContent)
  /-- A directory. -/
  | directory (entries : List (Text × Tree))
deriving Repr

namespace Tree

instance : Inhabited Tree := ⟨.directory []⟩

/-- Whether a tree is a directory. -/
def isDirectory : Tree → Bool
  | .directory _ => true
  | .file _ => false

/-- What is held by a file. -/
def content? : Tree → Option FileContent
  | .file content => some content
  | .directory _ => none

/-- What a directory holds. -/
def entries : Tree → Dictionary Tree
  | .directory entries => entries
  | .file _ => []

/-- What a sequence of names leads to. -/
def get? : List Text → Tree → Option Tree
  | [], tree => some tree
  | name :: rest, .directory entries =>
    match Dictionary.get? name entries with
    | some tree => get? rest tree
    | none => none
  | _ :: _, .file _ => none

/-- A tree with something put in the place that a sequence of names leads to.  Directories on the way
are made; a file on the way stays as it is. -/
def put : Tree → List Text → Tree → Tree
  | _, [], new => new
  | .directory entries, name :: rest, new =>
    .directory (Dictionary.put name
      (put ((Dictionary.get? name entries).getD (.directory [])) rest new) entries)
  | .file content, _ :: _, _ => .file content

/-- A tree without what a sequence of names leads to. -/
def erase : List Text → Tree → Tree
  | [], tree => tree
  | [name], .directory entries => .directory (Dictionary.erase name entries)
  | name :: rest, .directory entries =>
    match Dictionary.get? name entries with
    | some tree => .directory (Dictionary.put name (erase rest tree) entries)
    | none => .directory entries
  | _ :: _, .file content => .file content

/-! ## Small laws -/

@[simp]
theorem get?_nil (tree : Tree) : get? [] tree = some tree := by
  cases tree <;> rfl

theorem get?_append (names more : List Text) (tree : Tree) :
    get? (names ++ more) tree = (get? names tree).bind (get? more) := by
  induction names generalizing tree with
  | nil => simp
  | cons name rest ih =>
    cases tree with
    | file content => rfl
    | directory entries =>
      simp only [List.cons_append, get?]
      cases Dictionary.get? name entries with
      | none => rfl
      | some tree => exact ih tree

/-- What is put at the end of a way that no file blocks is found there. -/
theorem get?_put_self (tree : Tree) (names : List Text) (all : Tree)
    (open_ : ∀ front back, names = front ++ back → back ≠ [] →
      ∀ found, get? front all = some found → found.isDirectory = true) :
    get? names (put all names tree) = some tree := by
  induction names generalizing all with
  | nil => simp [put]
  | cons name rest ih =>
    cases all with
    | file content =>
      have := open_ [] (name :: rest) rfl (by simp) (.file content) (by simp)
      simp [isDirectory] at this
    | directory entries =>
      simp only [put, get?, Dictionary.get?_put, if_true]
      refine ih _ fun front back split_ notLast found isFound => ?_
      cases held : Dictionary.get? name entries with
      | some inner =>
        simp only [held, Option.getD_some] at isFound
        exact open_ (name :: front) back (by simp [split_]) notLast found (by
          simpa [get?, held] using isFound)
      | none =>
        simp only [held, Option.getD_none] at isFound
        cases front with
        | nil =>
          simp only [get?_nil, Option.some.injEq] at isFound
          subst isFound
          rfl
        | cons first more => simp [get?, Dictionary.get?] at isFound

end Tree
end ClassHarvest
