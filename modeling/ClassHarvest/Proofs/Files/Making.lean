import ClassHarvest.Proofs.Files.Disk

/-!
# Directories that can be made

If no file stands in the way, a directory can be made, with all that are missing around it.
-/

namespace ClassHarvest.Disk

variable {disk : Disk} {names : List Text}

/-! ## Following plain names -/

/-- Names that lead from directory to directory lead where they say. -/
theorem follow_plain (above : List Text) (plain : Path.parentName ∉ names)
    (directories : ∀ front, front <+: names → front ≠ names →
      disk.view (above ++ front) = some .directory) :
    disk.follow above names = .ok (above ++ names) := by
  induction names generalizing above with
  | nil => rw [follow, List.append_nil]
  | cons name rest ih =>
      rw [List.mem_cons, not_or] at plain
      have inside := directories [] (List.nil_prefix) (by simp)
      rw [List.append_nil] at inside
      rw [follow_cons_of_directory inside, if_neg (Ne.symm plain.1), ih _ plain.2]
      · rw [List.append_assoc, List.singleton_append]
      · intro front isFront other
        rw [List.append_assoc, List.singleton_append]
        exact directories (name :: front) (List.cons_prefix_cons.mpr ⟨rfl, isFront⟩)
          fun same => other (List.cons.inj same).2

/-- Names that lead into no file lead where they say, or to nothing. -/
theorem follow_clear (above : List Text) (plain : Path.parentName ∉ names)
    (clear : ∀ front, front <+: names → front ≠ names → ∀ content,
      disk.view (above ++ front) ≠ some (.file content)) :
    disk.follow above names = .ok (above ++ names) ∨
      disk.follow above names = .error .notFound := by
  induction names generalizing above with
  | nil => exact Or.inl (by rw [follow, List.append_nil])
  | cons name rest ih =>
      rw [List.mem_cons, not_or] at plain
      have here := clear [] (List.nil_prefix) (by simp)
      rw [List.append_nil] at here
      cases seen : disk.view above with
      | none =>
          refine Or.inr ?_
          rw [view, Tree.view, Option.map_eq_none_iff] at seen
          rw [follow, seen, blocked]
      | some sight =>
          cases sight with
          | file content => exact absurd seen (here content)
          | directory =>
              rw [follow_cons_of_directory seen, if_neg (Ne.symm plain.1)]
              have further := ih (above ++ [name]) plain.2 fun front isFront other => by
                rw [List.append_assoc, List.singleton_append]
                exact clear (name :: front) (List.cons_prefix_cons.mpr ⟨rfl, isFront⟩)
                  fun same => other (List.cons.inj same).2
              rwa [List.append_assoc, List.singleton_append] at further

/-! ## Making directories -/

/-- Names that do not lead back, with no file on the way or at the end. -/
structure Open (disk : Disk) (names : List Text) : Prop where
  top : disk.view [] = some .directory
  plain : Path.parentName ∉ names
  clear : ∀ front, front <+: names → ∀ content, disk.view front ≠ some (.file content)

theorem Open.of_prefix {front : List Text} (free : Open disk names) (isFront : front <+: names) :
    Open disk front where
  top := free.top
  plain := fun mem => free.plain (isFront.subset mem)
  clear := fun more isMore => free.clear more (isMore.trans isFront)

/-- Only the directories on the way to a directory are made. -/
theorem view_ensureNames (anchor : Text) (reversed : List Text) (disk : Disk) {others : List Text}
    (outside : ∀ front, front <+: reversed.reverse → others ≠ Path.followParents front) :
    (disk.ensureNames anchor reversed).1.view others = disk.view others := by
  have single {disk disk' : Disk} {path : Path} (made : disk.makeDirectory path = .ok disk')
      (other : others ≠ Path.followParents path.names) : disk'.view others = disk.view others := by
    obtain ⟨names, located, _, view⟩ := makeDirectory_eq_ok made
    rw [view, if_neg]
    rw [locate_eq_ok located]
    exact other
  induction reversed generalizing disk with
  | nil => rfl
  | cons name above ih =>
      have whole := outside _ (List.prefix_refl _)
      have around := ih disk fun front isFront => by
        refine outside front (isFront.trans ?_)
        rw [List.reverse_cons]
        exact List.prefix_append _ _
      rw [ensureNames]
      simp only
      split
      · next made => exact single made whole
      · split
        · next error => rw [error] at around; exact around
        · next ok =>
            rw [ok] at around
            split
            · next made => exact (single made whole).trans around
            · split <;> exact around
      · split <;> rfl

theorem makeDirectory_of_directory {path : Path} (located : disk.locate path = .ok names)
    (seen : disk.view names = some .directory) : disk.makeDirectory path = .error .exists := by
  obtain ⟨tree, found, _⟩ := Option.map_eq_some_iff.mp seen
  rw [makeDirectory, located]
  simp only [bind, Except.bind, found]
  rfl

/-- Where there is no file, a directory is made or is there already. -/
theorem makeDirectory_of_clear {path : Path} (located : disk.locate path = .ok names)
    (clear : ∀ content, disk.view names ≠ some (.file content)) :
    (∃ disk', disk.makeDirectory path = .ok disk' ∧ disk'.view names = some .directory) ∨
      disk.makeDirectory path = .error .exists ∧ disk.isDirectory path = true ∧
        disk.view names = some .directory := by
  cases seen : disk.view names with
  | none =>
      have made : disk.makeDirectory path =
          .ok { disk with top := disk.top.put names (.directory []) } := by
        rw [view, Tree.view, Option.map_eq_none_iff] at seen
        rw [makeDirectory, located]
        simp only [bind, Except.bind, seen]
        rfl
      obtain ⟨place, isPlace, _, view⟩ := makeDirectory_eq_ok made
      rw [located, Except.ok.injEq] at isPlace
      exact Or.inl ⟨_, made, by rw [view, if_pos isPlace]⟩
  | some sight =>
      cases sight with
      | file content => exact absurd seen (clear content)
      | directory =>
          exact Or.inr ⟨makeDirectory_of_directory located seen,
            isDirectory_iff.mpr (look_eq_ok_iff.mpr ⟨_, located, seen⟩), rfl⟩

/-- Every beginning of the names of a directory leads to a directory. -/
theorem view_of_prefix {front : List Text} (seen : disk.view names = some .directory)
    (isFront : front <+: names) : disk.view front = some .directory := by
  obtain ⟨more, rfl⟩ := isFront
  cases more with
  | nil => rwa [List.append_nil] at seen
  | cons name more => exact view_eq_directory_of_append (by simp) seen

/-- With no file in the way a directory is made, or is there already. -/
theorem ensureNames_of_open (anchor : Text) (reversed : List Text)
    (free : Open disk reversed.reverse) :
    ∃ disk', disk.ensureNames anchor reversed = (disk', .ok ()) ∧
      disk'.view reversed.reverse = some .directory := by
  induction reversed generalizing disk with
  | nil => exact ⟨disk, rfl, free.top⟩
  | cons name above ih =>
      have whole : (name :: above).reverse = above.reverse ++ [name] := List.reverse_cons
      have isFront : above.reverse <+: (name :: above).reverse := whole ▸ List.prefix_append _ _
      obtain ⟨made, ensured, inside⟩ := ih (free.of_prefix isFront)
      have grows := grows_ensureNames anchor above disk
      rw [ensured] at grows
      rw [ensureNames]
      simp only
      rcases follow_clear [] free.plain
        (fun front isFront _ content => free.clear front isFront content) with held | missing
      · have located : disk.locate ⟨anchor, (name :: above).reverse⟩ =
            .ok (name :: above).reverse := held
        rcases makeDirectory_of_clear located (free.clear _ (List.prefix_refl _)) with
          ⟨disk', makes, seen⟩ | ⟨makes, there, seen⟩
        · exact ⟨disk', by rw [makes], seen⟩
        · exact ⟨disk, by rw [makes]; simp only [there, if_true], seen⟩
      · have makes : disk.makeDirectory ⟨anchor, (name :: above).reverse⟩ = .error .notFound := by
          rw [makeDirectory, locate, missing]
          rfl
        rw [makes]
        simp only [ensured]
        have stillClear (content : FileContent) :
            made.view (name :: above).reverse ≠ some (.file content) := fun seen =>
          free.clear _ (List.prefix_refl _) content (grows.view_eq_file_iff.mp seen)
        have located : made.locate ⟨anchor, (name :: above).reverse⟩ =
            .ok (name :: above).reverse := by
          refine follow_plain [] free.plain fun front isFront other => ?_
          rw [List.nil_append]
          refine view_of_prefix inside ?_
          rw [whole] at isFront other
          exact (List.prefix_concat_iff.mp isFront).resolve_left other
        rcases makeDirectory_of_clear located stillClear with
          ⟨disk', makes, seen⟩ | ⟨makes, there, seen⟩
        · exact ⟨disk', by rw [makes], seen⟩
        · exact ⟨made, by rw [makes]; simp only [there, if_true], seen⟩

theorem ensureDirectory_of_open {path : Path} (free : Open disk path.names) :
    ∃ disk', disk.ensureDirectory path = (disk', .ok ()) ∧
      disk'.view path.names = some .directory := by
  have made : ∃ disk', disk.ensureNames path.anchor path.names.reverse = (disk', .ok ()) ∧
      disk'.view path.names.reverse.reverse = some .directory :=
    ensureNames_of_open path.anchor path.names.reverse (by rwa [List.reverse_reverse])
  rwa [List.reverse_reverse] at made

/-- A directory that is there already is not made again. -/
theorem ensureDirectory_of_directory {path : Path} (present : disk.look path = .ok .directory) :
    disk.ensureDirectory path = (disk, .ok ()) := by
  obtain ⟨anchor, names⟩ := path
  unfold ensureDirectory
  cases reversed : names.reverse with
  | nil => rfl
  | cons name above =>
      have whole : (name :: above).reverse = names := by
        rw [← reversed, List.reverse_reverse]
      have there : disk.isDirectory ⟨anchor, names⟩ = true := isDirectory_iff.mpr present
      obtain ⟨place, located, seen⟩ := look_eq_ok_iff.mp present
      have makes := makeDirectory_of_directory located seen
      dsimp only
      rw [ensureNames]
      simp only [whole, makes, there, if_true]

end ClassHarvest.Disk
