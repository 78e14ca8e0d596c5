import ClassHarvest.Proofs.Files.Names

/-!
# Directories that are made

Where the directory around it is there, one directory is made at most, and nothing else becomes a
directory.
-/

namespace ClassHarvest.Disk

variable {disk disk' disk'' : Disk} {path : Path} {place names : List Text}

/-- There is no new directory but at one place. -/
def MakesOnly (place : List Text) (disk disk' : Disk) : Prop :=
  ∀ others, others ≠ place → disk'.view others = some .directory →
    disk.view others = some .directory

namespace MakesOnly

theorem of_makesNoDirectory (place : List Text) (none : MakesNoDirectory disk disk') :
    MakesOnly place disk disk' :=
  fun others _ => none others

theorem refl (place : List Text) (disk : Disk) : MakesOnly place disk disk :=
  of_makesNoDirectory place (MakesNoDirectory.refl disk)

theorem trans (first : MakesOnly place disk disk') (second : MakesOnly place disk' disk'') :
    MakesOnly place disk disk'' :=
  fun others other seen => first others other (second others other seen)

/-- If the directory was there before, then there is no new one. -/
theorem makesNoDirectory (makes : MakesOnly place disk disk')
    (present : disk.view place = some .directory) : MakesNoDirectory disk disk' := by
  intro others seen
  by_cases same : others = place
  · rw [same]
    exact present
  · exact makes others same seen

/-- What is neither touched nor made is as it was. -/
theorem view_eq {places : List (List Text)} (makes : MakesOnly place disk disk')
    (touches : Touches places disk disk') (other : names ≠ place) (outside : names ∉ places) :
    disk'.view names = disk.view names := by
  rcases touches.others names outside with same | ⟨_, made⟩
  · exact same
  · rw [made, makes names other made]

/-- A directory is made in one that is there. -/
theorem of_ensureDirectory (plain : Path.parentName ∉ path.names)
    (inside : disk.view path.names.dropLast = some .directory) :
    MakesOnly path.names disk (disk.ensureDirectory path).1 := by
  intro others other seen
  by_cases isFront : others <+: path.names
  · -- On the way to the directory there are directories already.
    apply view_of_prefix inside
    obtain ⟨rest, whole⟩ := isFront
    rcases List.eq_nil_or_concat' rest with rfl | ⟨rest, last, rfl⟩
    · exact absurd (by simpa using whole) other
    · rw [← whole, ← List.append_assoc, List.dropLast_concat]
      exact List.prefix_append _ _
  · rw [← seen]
    symm
    apply view_ensureNames
    rw [List.reverse_reverse]
    rintro front further rfl
    apply isFront
    rw [Path.followParents_of_plain fun mem => plain (further.subset mem)]
    exact further

end MakesOnly
end ClassHarvest.Disk
