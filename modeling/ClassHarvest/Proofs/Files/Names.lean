import ClassHarvest.Proofs.Files.Making
import ClassHarvest.Proofs.Text.Join
import Mathlib.Data.List.Induction

/-!
# Paths and their texts

The text of names with separators between them leads back to the names, as long as each can be the name
of something in a directory.
-/

namespace ClassHarvest

namespace Path

/-- A name that something in a directory may have. -/
structure IsName (name : Text) : Prop where
  nonempty : name ≠ []
  whole : separator ∉ name
  notHere : name ≠ here
  notParent : name ≠ parentName
  plain : ∀ c ∈ name, c.isHighSurrogate = false

instance (name : Text) : Decidable (IsName name) :=
  decidable_of_iff (name ≠ [] ∧ separator ∉ name ∧ name ≠ here ∧ name ≠ parentName ∧
      ∀ c ∈ name, c.isHighSurrogate = false)
    ⟨fun ⟨nonempty, whole, notHere, notParent, plain⟩ =>
        ⟨nonempty, whole, notHere, notParent, plain⟩,
      fun isName => ⟨isName.nonempty, isName.whole, isName.notHere, isName.notParent, isName.plain⟩⟩

variable {names names' : List Text}

theorem anchorOf_joinNames (all : ∀ name ∈ names, IsName name) : anchorOf (joinNames names) = [] := by
  cases names with
  | nil => rfl
  | cons name names =>
      have isName := all name List.mem_cons_self
      obtain ⟨c, rest, rfl⟩ := List.exists_cons_of_ne_nil isName.nonempty
      have first : c ≠ separator := by
        intro same
        exact isName.whole (same ▸ List.mem_cons_self)
      have leading : (joinNames ((c :: rest) :: names)).takeWhile (· = separator) = [] := by
        unfold joinNames
        cases names <;> simp [Text.join, first]
      unfold anchorOf
      rw [leading]
      rfl

/-- Names are read back from the text of them. -/
theorem ofText_joinNames (all : ∀ name ∈ names, IsName name) :
    ofText (joinNames names) = ⟨[], names⟩ := by
  have kept : ((joinNames names).splitOn separator).filter
      (fun name => !name.isEmpty && name ≠ here) = names := by
    cases names with
    | nil => rfl
    | cons name names =>
        unfold joinNames
        rw [Text.splitOn_join (by simp) fun name mem => (all name mem).whole]
        apply List.filter_eq_self.mpr
        intro name mem
        have isName := all name mem
        simp [isName.nonempty, isName.notHere]
  unfold ofText
  rw [anchorOf_joinNames all, kept]

theorem joinNames_inj (all : ∀ name ∈ names, IsName name) (all' : ∀ name ∈ names', IsName name)
    (same : joinNames names = joinNames names') : names = names' := by
  have read := congrArg ofText same
  rw [ofText_joinNames all, ofText_joinNames all'] at read
  exact (Path.mk.inj read).2

theorem joinNames_cons_cons (name next : Text) (names : List Text) :
    joinNames (name :: next :: names) = name ++ [separator] ++ joinNames (next :: names) :=
  rfl

theorem plain_joinNames (all : ∀ name ∈ names, IsName name) :
    ∀ c ∈ joinNames names, c.isHighSurrogate = false :=
  Text.forall_mem_join (by decide) fun name mem => (all name mem).plain

/-! ## Where paths lead -/

theorem followParents_concat (above : List Text) (name : Text) :
    followParents (above ++ [name]) =
      if name = parentName then (followParents above).dropLast else followParents above ++ [name] := by
  rw [followParents, followParents, List.foldl_append]
  rfl

/-- Where a path leads, if it leads anywhere. -/
def place (path : Path) : List Text :=
  followParents path.names

theorem followParents_of_plain {names : List Text} (plain : parentName ∉ names) :
    followParents names = names := by
  induction names using List.reverseRecOn with
  | nil => rfl
  | append_singleton above name ih =>
      rw [List.mem_append, not_or, List.mem_singleton] at plain
      rw [followParents_concat, if_neg (Ne.symm plain.2), ih plain.1]

theorem names_eq_concat {path : Path} (named : path.names ≠ []) :
    path.names = path.parent.names ++ [path.name] := by
  rcases List.eq_nil_or_concat' path.names with top | ⟨above, name, below⟩
  · exact absurd top named
  · rw [parent, Path.name, below, List.dropLast_concat, List.getLastD_concat]

theorem place_of_plain {path : Path} (plain : parentName ∉ path.names) : path.place = path.names :=
  followParents_of_plain plain

theorem parentName_not_mem_followParents (names : List Text) :
    parentName ∉ followParents names := by
  induction names using List.reverseRecOn with
  | nil => exact List.not_mem_nil
  | append_singleton names name ih =>
      rw [followParents_concat]
      split
      · exact fun mem => ih (List.dropLast_subset _ mem)
      · next other =>
          rw [List.mem_append, List.mem_singleton, not_or]
          exact ⟨ih, Ne.symm other⟩

theorem plain_resolve (working path : Path) : parentName ∉ (resolve working path).names :=
  parentName_not_mem_followParents _

theorem place_child {directory : Path} {name : Text} (notParent : name ≠ parentName) :
    (directory.child name).place = directory.place ++ [name] := by
  rw [place, child, followParents_concat, if_neg notParent]
  rfl

end Path

namespace Disk

variable {disk : Disk} {path : Path}

/-- A path that does not lead back leads to what is seen there. -/
theorem look_of_view {sight : Sight} (plain : Path.parentName ∉ path.names)
    (seen : disk.view path.names = some sight) : disk.look path = .ok sight := by
  have located : disk.locate path = .ok path.names := by
    apply follow_plain [] plain
    intro front isFront other
    obtain ⟨more, whole⟩ := isFront
    rw [← whole] at seen
    apply view_eq_directory_of_append _ seen
    rintro rfl
    exact other ((List.append_nil front).symm.trans whole)
  exact look_eq_ok_iff.mpr ⟨path.names, located, seen⟩

theorem view_of_look {sight : Sight} (plain : Path.parentName ∉ path.names)
    (seen : disk.look path = .ok sight) : disk.view path.names = some sight := by
  obtain ⟨names, located, isSeen⟩ := look_eq_ok_iff.mp seen
  have same := locate_eq_ok located
  rw [Path.followParents_of_plain plain] at same
  exact same ▸ isSeen

/-- Who gets to a name in a directory gets to the directory. -/
theorem locate_of_child {name : Text} {names : List Text}
    (located : disk.locate (path.child name) = .ok names) : disk.locate path = .ok path.place := by
  rw [locate, Path.child, follow_append] at located
  cases before : disk.locate path with
  | error fault =>
      rw [locate] at before
      rw [before] at located
      cases located
  | ok above => rw [locate_eq_ok before, Path.place]

end Disk
end ClassHarvest
