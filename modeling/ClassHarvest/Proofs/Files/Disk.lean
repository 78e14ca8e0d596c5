import ClassHarvest.Proofs.Files.View
import Mathlib.Data.List.Basic

/-!
# Accesses to a disk

An access follows a path to a place and acts on what is seen there.  Making directories adds directories
where nothing was; writing, moving and removing a file change what is seen at the places of the file and
nowhere else.
-/

namespace ClassHarvest.Disk

variable {disk disk' : Disk} {path : Path} {names : List Text}

/-- What is seen where a sequence of names leads to from the top. -/
def view (disk : Disk) (names : List Text) : Option Sight :=
  disk.top.view names

theorem view_eq_directory_of_append {more : List Text} (further : more ≠ []) {sight : Sight}
    (seen : disk.view (names ++ more) = some sight) : disk.view names = some .directory :=
  Tree.view_eq_directory_of_append further seen

theorem view_dropLast_of_directory (seen : disk.view names = some .directory) :
    disk.view names.dropLast = some .directory := by
  rcases List.eq_nil_or_concat' names with rfl | ⟨above, name, rfl⟩
  · exact seen
  · rw [List.dropLast_concat]
    exact view_eq_directory_of_append (by simp) seen

/-! ## Following a path -/

theorem blocked_eq_none_iff :
    blocked (disk.top.get? names) = none ↔ disk.view names = some .directory := by
  rw [view, Tree.view]
  cases disk.top.get? names with
  | none => simp [blocked]
  | some tree => cases tree <;> simp [blocked, Tree.isDirectory, Tree.sight]

theorem follow_cons_of_directory {above : List Text} (inside : disk.view above = some .directory)
    (name : Text) (rest : List Text) :
    disk.follow above (name :: rest) =
      disk.follow (if name = Path.parentName then above.dropLast else above ++ [name]) rest := by
  rw [follow, blocked_eq_none_iff.mpr inside]
  simp only
  split <;> rfl

theorem view_eq_directory_of_follow {above rest result : List Text} {name : Text}
    (found : disk.follow above (name :: rest) = .ok result) :
    disk.view above = some .directory := by
  rw [follow] at found
  cases free : blocked (disk.top.get? above) with
  | some fault => simp [free] at found
  | none => exact blocked_eq_none_iff.mp free

/-- Where a path leads to does not depend on the disk, if it leads anywhere. -/
theorem follow_eq_ok {above result : List Text} (found : disk.follow above names = .ok result) :
    result = names.foldl
      (fun above name => if name = Path.parentName then above.dropLast else above ++ [name])
      above := by
  induction names generalizing above with
  | nil =>
      rw [follow, Except.ok.injEq] at found
      exact found.symm
  | cons name rest ih =>
      rw [follow_cons_of_directory (view_eq_directory_of_follow found)] at found
      exact ih found

theorem locate_eq_ok (found : disk.locate path = .ok names) :
    names = Path.followParents path.names :=
  follow_eq_ok found

theorem follow_append (above names more : List Text) :
    disk.follow above (names ++ more) = (disk.follow above names).bind (disk.follow · more) := by
  induction names generalizing above with
  | nil => rfl
  | cons name names ih =>
      rw [List.cons_append, follow, follow]
      cases blocked (disk.top.get? above) with
      | some fault => rfl
      | none =>
          dsimp only
          split
          · exact ih _
          · exact ih _

/-- A name in a directory leads into the directory. -/
theorem locate_child (located : disk.locate path = .ok names)
    (inside : disk.view names = some .directory) {name : Text} (notParent : name ≠ Path.parentName) :
    disk.locate (path.child name) = .ok (names ++ [name]) := by
  rw [locate] at located
  rw [locate, Path.child, follow_append, located]
  change disk.follow names [name] = .ok (names ++ [name])
  rw [follow_cons_of_directory inside, if_neg notParent]
  rfl

/-- The place that a path leads to is in a directory, or at the top. -/
theorem follow_dropLast {above result : List Text}
    (start : above = [] ∨ disk.view above.dropLast = some .directory)
    (found : disk.follow above names = .ok result) :
    result = [] ∨ disk.view result.dropLast = some .directory := by
  induction names generalizing above with
  | nil =>
      rw [follow, Except.ok.injEq] at found
      exact found ▸ start
  | cons name rest ih =>
      have inside := view_eq_directory_of_follow found
      rw [follow_cons_of_directory inside] at found
      refine ih ?_ found
      split
      · exact Or.inr (view_dropLast_of_directory (view_dropLast_of_directory inside))
      · rw [List.dropLast_concat]
        exact Or.inr inside

theorem locate_dropLast (found : disk.locate path = .ok names) :
    names = [] ∨ disk.view names.dropLast = some .directory :=
  follow_dropLast (Or.inl rfl) found

/-! ## Looking -/

/-- What is seen at a path. -/
def look (disk : Disk) (path : Path) : Except FileFault Sight := do
  match disk.view (← disk.locate path) with
  | some sight => return sight
  | none => throw .notFound

theorem map_status (disk : Disk) (path : Path) :
    (disk.status path).map Tree.sight = disk.look path := by
  rw [status, look]
  cases disk.locate path with
  | error fault => rfl
  | ok names =>
      simp only [bind, Except.bind, view, Tree.view]
      cases disk.top.get? names <;> rfl

theorem look_eq_ok_iff {sight : Sight} :
    disk.look path = .ok sight ↔
      ∃ names, disk.locate path = .ok names ∧ disk.view names = some sight := by
  rw [look]
  cases disk.locate path with
  | error fault => simp [bind, Except.bind]
  | ok names =>
      simp only [bind, Except.bind, Except.ok.injEq, exists_eq_left']
      cases disk.view names with
      | none => simp [throw, throwThe, MonadExceptOf.throw]
      | some seen => simp [pure, Except.pure]

/-- What is seen at a path if something is, and otherwise nothing. -/
theorem toOption_look_eq_some_iff {sight : Sight} :
    (disk.look path).toOption = some sight ↔ disk.look path = .ok sight := by
  cases disk.look path <;> simp [Except.toOption]

theorem exists_eq (disk : Disk) (path : Path) :
    disk.exists path = (disk.look path).toOption.isSome := by
  rw [Disk.exists, ← map_status]
  cases disk.status path <;> rfl

theorem isDirectory_iff : disk.isDirectory path = true ↔ disk.look path = .ok .directory := by
  rw [isDirectory, ← map_status]
  cases disk.status path with
  | error fault => simp [Except.toOption, Except.map]
  | ok tree => cases tree <;> simp [Except.toOption, Except.map, Tree.sight, Tree.isDirectory]

theorem isFile_iff : disk.isFile path = true ↔ ∃ content, disk.look path = .ok (.file content) := by
  rw [isFile, ← map_status]
  cases disk.status path with
  | error fault => simp [Except.toOption, Except.map]
  | ok tree => cases tree <;> simp [Except.toOption, Except.map, Tree.sight, Tree.isDirectory]

theorem read_eq (disk : Disk) (path : Path) :
    disk.read path = match disk.look path with
      | .ok (.file content) => .ok content.bytes
      | .ok .directory => .error ⟨.isDirectory, path, none⟩
      | .error fault => .error ⟨fault, path, none⟩ := by
  rw [read, ← map_status]
  cases disk.status path with
  | error fault => rfl
  | ok tree => cases tree <;> rfl

theorem readText_congr (same : disk.look path = disk'.look path) :
    disk.readText path = disk'.readText path := by
  rw [readText, readText, read_eq, read_eq, same]

theorem readText_of_file {content : FileContent} (seen : disk.look path = .ok (.file content)) :
    disk.readText path = match Utf8.decode content.bytes with
      | .ok text => .ok text.universalNewlines
      | .error error => .error (.decoding error) := by
  rw [readText, read_eq, seen]
  simp only
  cases Utf8.decode content.bytes <;> rfl

/-! ## Directories that are made -/

/-- There are more directories than before, where nothing was.  Nothing else is different. -/
def Grows (disk disk' : Disk) : Prop :=
  ∀ names, disk'.view names = disk.view names ∨
    disk.view names = none ∧ disk'.view names = some .directory

namespace Grows

theorem refl (disk : Disk) : Grows disk disk :=
  fun _ => Or.inl rfl

theorem trans {disk'' : Disk} (first : Grows disk disk') (second : Grows disk' disk'') :
    Grows disk disk'' := by
  intro names
  rcases first names with same | ⟨absent, made⟩
  · rw [← same]
    exact second names
  · rcases second names with same | ⟨absent', _⟩
    · exact Or.inr ⟨absent, same.trans made⟩
    · rw [made] at absent'
      cases absent'

theorem view_eq_some {sight : Sight} (grows : Grows disk disk')
    (seen : disk.view names = some sight) : disk'.view names = some sight := by
  rcases grows names with same | ⟨absent, _⟩
  · rw [same, seen]
  · rw [absent] at seen
    cases seen

/-- Files are where they were. -/
theorem view_eq_file_iff (grows : Grows disk disk') {content : FileContent} :
    disk'.view names = some (.file content) ↔ disk.view names = some (.file content) := by
  rcases grows names with same | ⟨absent, made⟩
  · rw [same]
  · simp [absent, made]

end Grows

/-- A path goes on leading where it led, as long as directories stay directories. -/
theorem follow_of_directories
    (stay : ∀ names, disk.view names = some .directory → disk'.view names = some .directory)
    {above result : List Text} (found : disk.follow above names = .ok result) :
    disk'.follow above names = .ok result := by
  induction names generalizing above with
  | nil => exact found
  | cons name rest ih =>
      have inside := view_eq_directory_of_follow found
      rw [follow_cons_of_directory inside] at found
      rw [follow_cons_of_directory (stay above inside)]
      exact ih found

theorem makeDirectory_eq_ok (made : disk.makeDirectory path = .ok disk') :
    ∃ names, disk.locate path = .ok names ∧ disk.view names = none ∧
      ∀ others, disk'.view others =
        if others = names then some .directory else disk.view others := by
  rw [makeDirectory] at made
  cases located : disk.locate path with
  | error fault => simp [located, bind, Except.bind] at made
  | ok names =>
      simp only [located, bind, Except.bind] at made
      cases held : disk.top.get? names with
      | some tree => simp [held, throw, throwThe, MonadExceptOf.throw] at made
      | none =>
          simp only [held, pure, Except.pure, Except.ok.injEq] at made
          have absent : disk.view names = none := by rw [view, Tree.view, held, Option.map_none]
          refine ⟨names, rfl, absent, fun others => ?_⟩
          rcases List.eq_nil_or_concat' names with rfl | ⟨above, name, rfl⟩
          · simp [view] at absent
          · have inside := locate_dropLast located
            rw [List.dropLast_concat] at inside
            rw [← made]
            exact Tree.view_put Tree.isLeaf_empty (inside.resolve_left (by simp))
              (by rw [← view, absent]; simp) others

theorem grows_of_makeDirectory (made : disk.makeDirectory path = .ok disk') :
    Grows disk disk' := by
  obtain ⟨names, _, absent, seen⟩ := makeDirectory_eq_ok made
  intro others
  rw [seen]
  by_cases same : others = names
  · subst same
    exact Or.inr ⟨absent, if_pos rfl⟩
  · exact Or.inl (if_neg same)

theorem grows_ensureNames (anchor : Text) (names : List Text) (disk : Disk) :
    Grows disk (disk.ensureNames anchor names).1 := by
  have settled (disk disk' : Disk) (path : Path) (fault : FileFault) (grows : Grows disk disk') :
      Grows disk (if disk'.isDirectory path then (disk', .ok ())
        else (disk', .error ⟨fault, path, none⟩) : Disk × Except FileError Unit).1 := by
    split <;> exact grows
  induction names generalizing disk with
  | nil => exact Grows.refl disk
  | cons name above ih =>
      rw [ensureNames]
      simp only
      split
      · next made => exact grows_of_makeDirectory made
      · have grows := ih disk
        split
        · next error => rw [error] at grows; exact grows
        · next ok =>
            rw [ok] at grows
            split
            · next made => exact grows.trans (grows_of_makeDirectory made)
            · exact settled _ _ _ _ grows
      · exact settled _ _ _ _ (Grows.refl disk)

/-- Making directories only adds directories, also if it fails on the way. -/
theorem grows_ensureDirectory (disk : Disk) (path : Path) :
    Grows disk (disk.ensureDirectory path).1 :=
  grows_ensureNames path.anchor path.names.reverse disk

/-! ## Files that are written -/

theorem writable_eq_ok (found : disk.writable path = .ok names) :
    disk.locate path = .ok names ∧ disk.view names ≠ some .directory := by
  rw [writable] at found
  cases located : disk.locate path with
  | error fault => simp [located, bind, Except.bind] at found
  | ok place =>
      simp only [located, bind, Except.bind] at found
      rw [view, Tree.view]
      split at found
      · cases found
      · next noDirectory =>
          simp only [pure, Except.pure, Except.ok.injEq] at found
          subst found
          refine ⟨rfl, ?_⟩
          cases held : disk.top.get? place with
          | none => simp
          | some tree =>
              cases tree with
              | file content => simp [Tree.sight]
              | directory entries => exact absurd held (noDirectory entries)

theorem writable_of_locate (located : disk.locate path = .ok names)
    (free : disk.view names ≠ some .directory) : disk.writable path = .ok names := by
  rw [writable, located]
  rw [view, Tree.view] at free
  simp only [bind, Except.bind]
  split
  · next entries held => simp [held, Tree.sight] at free
  · rfl

/-- A file that is put somewhere is seen there. -/
theorem view_putFile (found : disk.writable path = .ok names) (bytes : List UInt8)
    (others : List Text) :
    (disk.putFile names bytes).view others =
      if others = names then some (.file ⟨bytes, disk.clock⟩) else disk.view others := by
  obtain ⟨located, free⟩ := writable_eq_ok found
  rcases List.eq_nil_or_concat' names with rfl | ⟨above, name, rfl⟩
  · -- There is a file at the top, and nothing below it.
    rw [view, putFile, Tree.put]
    have top : ∃ content, disk.top = .file content := by
      rw [view] at free
      cases shape : disk.top with
      | file content => exact ⟨content, rfl⟩
      | directory entries =>
          rw [shape] at free
          exact absurd rfl free
    obtain ⟨content, top⟩ := top
    cases others with
    | nil => rfl
    | cons name others => rw [view, top]; rfl
  · have inside := (locate_dropLast located).resolve_left (by simp)
    rw [List.dropLast_concat] at inside
    exact Tree.view_put (Tree.isLeaf_file _) inside free others

theorem directories_putFile (found : disk.writable path = .ok names) (bytes : List UInt8)
    (others : List Text) :
    (disk.putFile names bytes).view others = some .directory ↔
      disk.view others = some .directory := by
  rw [view_putFile found]
  by_cases same : others = names
  · subst same
    simp [(writable_eq_ok found).2]
  · rw [if_neg same]

theorem writeText_eq_ok {text : Text} (written : disk.writeText path text = (disk', .ok ())) :
    ∃ names bytes, disk.writable path = .ok names ∧ Utf8.encode text = .ok bytes ∧
      disk' = disk.putFile names bytes := by
  rw [writeText] at written
  cases found : disk.writable path with
  | error fault => simp [found] at written
  | ok names =>
      simp only [found] at written
      cases encoded : Utf8.encode text with
      | error error => simp [encoded] at written
      | ok bytes =>
          simp only [encoded, Prod.mk.injEq, and_true] at written
          exact ⟨names, bytes, rfl, rfl, written.symm⟩

/-- Whatever becomes of writing a text, at most one file changes. -/
theorem writeText_cases (disk : Disk) (path : Path) (text : Text) :
    (disk.writeText path text).1 = disk ∨
      ∃ names bytes, disk.writable path = .ok names ∧
        (disk.writeText path text).1 = disk.putFile names bytes := by
  rw [writeText]
  cases disk.writable path with
  | error fault => exact Or.inl rfl
  | ok names =>
      simp only
      cases Utf8.encode text with
      | error error => exact Or.inr ⟨names, [], rfl, rfl⟩
      | ok bytes => exact Or.inr ⟨names, bytes, rfl, rfl⟩

theorem view_remove (located : disk.locate path = .ok names) (below : names ≠ [])
    (others : List Text) :
    (disk.remove path).view others = if names <+: others then none else disk.view others := by
  rw [remove, located]
  exact Tree.view_erase disk.top below others

/-! ## Files that are moved -/

theorem look_eq_file {content : FileContent} (seen : disk.look path = .ok (.file content)) :
    ∃ names, disk.locate path = .ok names ∧ disk.top.get? names = some (.file content) := by
  obtain ⟨names, located, seen⟩ := look_eq_ok_iff.mp seen
  rw [view, Tree.view, Option.map_eq_some_iff] at seen
  obtain ⟨tree, held, seen⟩ := seen
  cases tree with
  | directory entries => cases seen
  | file found =>
      cases seen
      exact ⟨names, located, held⟩

/-- Nothing is below a file. -/
theorem view_eq_none_of_file {content : FileContent} {others : List Text}
    (seen : disk.view names = some (.file content)) (below : names <+: others)
    (other : others ≠ names) : disk.view others = none := by
  obtain ⟨more, rfl⟩ := below
  cases behind : disk.view (names ++ more) with
  | none => rfl
  | some sight =>
      have further : more ≠ [] := by
        rintro rfl
        exact other (List.append_nil names)
      rw [view_eq_directory_of_append further behind] at seen
      cases seen

/-- A file that is moved is seen at the new place and no longer at the old one. -/
theorem replace_eq_ok {target : Path} {content : FileContent}
    (top : disk.view [] = some .directory) (seen : disk.look path = .ok (.file content))
    (replaced : disk.replace path target = (disk', .ok ())) :
    ∃ source names, disk.locate path = .ok source ∧ disk.writable target = .ok names ∧
      ∀ others, disk'.view others =
        if others = names then some (.file content)
        else if others = source then none else disk.view others := by
  obtain ⟨source, located, held⟩ := look_eq_file seen
  have sourceSeen : disk.view source = some (.file content) := by
    rw [view, Tree.view, held]
    rfl
  have below : source ≠ [] := by
    rintro rfl
    rw [top] at sourceSeen
    cases sourceSeen
  rw [replace, status, located] at replaced
  simp only [bind, Except.bind, held, pure, Except.pure] at replaced
  cases found : disk.writable target with
  | error fault => simp [found] at replaced
  | ok names =>
      simp only [found, Prod.mk.injEq, and_true] at replaced
      refine ⟨source, names, located, rfl, fun others => ?_⟩
      have removed := view_remove located below
      obtain ⟨targetLocated, free⟩ := writable_eq_ok found
      rcases List.eq_nil_or_concat' names with rfl | ⟨above, name, rfl⟩
      · exact absurd top free
      have inside := (locate_dropLast targetLocated).resolve_left (by simp)
      rw [List.dropLast_concat] at inside
      -- The old place is no directory, so the directory of the new one stays.
      have insideStays : (disk.remove path).view above = some .directory := by
        rw [removed, if_neg, inside]
        intro prefix_
        by_cases same : above = source
        · rw [same, sourceSeen] at inside
          cases inside
        · rw [view_eq_none_of_file sourceSeen prefix_ same] at inside
          cases inside
      have freeStays : (disk.remove path).view (above ++ [name]) ≠ some .directory := by
        rw [removed]
        split
        · simp
        · exact free
      rw [← replaced, view, Tree.view_put (Tree.isLeaf_file content) insideStays freeStays]
      split
      · rfl
      · rw [← view, removed]
        by_cases same : others = source
        · subst same
          simp
        · rw [if_neg same]
          split
          · next prefix_ => exact (view_eq_none_of_file sourceSeen prefix_ same).symm
          · rfl

/-- A file may be moved to where a file may be written. -/
theorem exists_replace {target : Path} {content : FileContent}
    (seen : disk.look path = .ok (.file content)) (found : disk.writable target = .ok names) :
    ∃ disk', disk.replace path target = (disk', .ok ()) := by
  obtain ⟨source, located, held⟩ := look_eq_file seen
  have status : disk.status path = .ok (.file content) := by
    rw [Disk.status, located]
    simp only [bind, Except.bind, held]
    rfl
  rw [replace, status, found]
  exact ⟨_, rfl⟩

theorem replace_eq_error {target : Path} {error : FileError}
    (refused : (disk.replace path target).2 = .error error) :
    (disk.replace path target).1 = disk := by
  rw [replace] at refused ⊢
  split
  · next ok ok' => simp [ok, ok'] at refused
  · rfl
  · rfl

/-! ## Changes at some places -/

/-- Nothing is different but at some places, except that there may be directories where nothing was.
Directories stay. -/
structure Touches (places : List (List Text)) (disk disk' : Disk) : Prop where
  directories : ∀ names, disk.view names = some .directory → disk'.view names = some .directory
  others : ∀ names, names ∉ places → disk'.view names = disk.view names ∨
    disk.view names = none ∧ disk'.view names = some .directory

namespace Touches

variable {places : List (List Text)}

theorem of_grows (grows : Grows disk disk') (places : List (List Text)) :
    Touches places disk disk' :=
  ⟨fun _ seen => grows.view_eq_some seen, fun names _ => grows names⟩

theorem refl (places : List (List Text)) (disk : Disk) : Touches places disk disk :=
  of_grows (Grows.refl disk) places

theorem trans {disk'' : Disk} (first : Touches places disk disk')
    (second : Touches places disk' disk'') : Touches places disk disk'' := by
  refine ⟨fun names seen => second.directories names (first.directories names seen), ?_⟩
  intro names outside
  rcases first.others names outside with same | ⟨absent, made⟩
  · rw [← same]
    exact second.others names outside
  · exact Or.inr ⟨absent, second.directories names made⟩

theorem mono {more : List (List Text)} (touches : Touches places disk disk')
    (subset : places ⊆ more) : Touches more disk disk' :=
  ⟨touches.directories, fun names outside =>
    touches.others names fun mem => outside (subset mem)⟩

theorem view_eq_file_iff (touches : Touches places disk disk') (outside : names ∉ places)
    {content : FileContent} :
    disk'.view names = some (.file content) ↔ disk.view names = some (.file content) := by
  rcases touches.others names outside with same | ⟨absent, made⟩
  · rw [same]
  · simp [absent, made]

theorem locate_eq_ok (touches : Touches places disk disk')
    (located : disk.locate path = .ok names) : disk'.locate path = .ok names :=
  follow_of_directories touches.directories located

/-- A file outside the places is read as before. -/
theorem look_eq_file (touches : Touches places disk disk')
    (outside : Path.followParents path.names ∉ places) {content : FileContent}
    (seen : disk.look path = .ok (.file content)) : disk'.look path = .ok (.file content) := by
  obtain ⟨names, located, seen⟩ := look_eq_ok_iff.mp seen
  have place := Disk.locate_eq_ok located
  rw [← place] at outside
  exact look_eq_ok_iff.mpr
    ⟨names, touches.locate_eq_ok located, (touches.view_eq_file_iff outside).mpr seen⟩

theorem of_putFile (found : disk.writable path = .ok names) (bytes : List UInt8) :
    Touches [names] disk (disk.putFile names bytes) := by
  refine ⟨fun others => (directories_putFile found bytes others).mpr, fun others outside => ?_⟩
  rw [view_putFile found, if_neg (List.mem_singleton.not.mp outside)]
  exact Or.inl rfl

theorem of_writeText (disk : Disk) (path : Path) (text : Text) :
    Touches [Path.followParents path.names] disk (disk.writeText path text).1 := by
  rcases writeText_cases disk path text with same | ⟨names, bytes, found, written⟩
  · rw [same]
    exact refl _ disk
  · rw [written, ← Disk.locate_eq_ok (writable_eq_ok found).1]
    exact of_putFile found bytes

theorem of_replace {content : FileContent} (top : disk.view [] = some .directory)
    (seen : disk.look path = .ok (.file content)) (target : Path) :
    Touches [Path.followParents path.names, Path.followParents target.names] disk
      (disk.replace path target).1 := by
  cases result : (disk.replace path target).2 with
  | error error =>
      rw [replace_eq_error result]
      exact refl _ disk
  | ok _ =>
      obtain ⟨source, names, located, found, view⟩ := replace_eq_ok top seen (Prod.ext rfl result)
      obtain ⟨place, located', seen⟩ := look_eq_ok_iff.mp seen
      rw [located, Except.ok.injEq] at located'
      subst located'
      rw [← Disk.locate_eq_ok located, ← Disk.locate_eq_ok (writable_eq_ok found).1]
      constructor
      · intro others directory
        rw [view, if_neg, if_neg, directory]
        · rintro rfl
          rw [seen] at directory
          cases directory
        · rintro rfl
          exact (writable_eq_ok found).2 directory
      · intro others outside
        simp only [List.mem_cons, List.not_mem_nil, or_false, not_or] at outside
        rw [view, if_neg outside.2, if_neg outside.1]
        exact Or.inl rfl

end Touches

/-- No directory is new. -/
def MakesNoDirectory (disk disk' : Disk) : Prop :=
  ∀ names, disk'.view names = some .directory → disk.view names = some .directory

namespace MakesNoDirectory

theorem refl (disk : Disk) : MakesNoDirectory disk disk :=
  fun _ => id

theorem trans {disk'' : Disk} (first : MakesNoDirectory disk disk')
    (second : MakesNoDirectory disk' disk'') : MakesNoDirectory disk disk'' :=
  fun names seen => first names (second names seen)

theorem of_writeText (disk : Disk) (path : Path) (text : Text) :
    MakesNoDirectory disk (disk.writeText path text).1 := by
  rcases writeText_cases disk path text with same | ⟨names, bytes, found, written⟩
  · rw [same]
    exact refl disk
  · rw [written]
    exact fun others => (directories_putFile found bytes others).mp

theorem of_replace {content : FileContent} (top : disk.view [] = some .directory)
    (seen : disk.look path = .ok (.file content)) (target : Path) :
    MakesNoDirectory disk (disk.replace path target).1 := by
  cases result : (disk.replace path target).2 with
  | error error =>
      rw [replace_eq_error result]
      exact refl disk
  | ok _ =>
      obtain ⟨source, names, _, _, view⟩ := replace_eq_ok top seen (Prod.ext rfl result)
      intro others directory
      rw [view] at directory
      split at directory
      · cases directory
      · split at directory
        · cases directory
        · exact directory

end MakesNoDirectory

/-- What was written to a file is seen there. -/
theorem look_writeText {text : Text} (written : disk.writeText path text = (disk', .ok ())) :
    ∃ bytes, Utf8.encode text = .ok bytes ∧
      disk'.look path = .ok (.file ⟨bytes, disk.clock⟩) := by
  obtain ⟨names, bytes, found, encoded, rfl⟩ := writeText_eq_ok written
  have touches := Touches.of_putFile found bytes
  refine ⟨bytes, encoded, look_eq_ok_iff.mpr
    ⟨names, touches.locate_eq_ok (writable_eq_ok found).1, ?_⟩⟩
  rw [view_putFile found, if_pos rfl]

/-- What was moved to a path is seen there. -/
theorem look_replace {target : Path} {content : FileContent}
    (top : disk.view [] = some .directory) (seen : disk.look path = .ok (.file content))
    (replaced : disk.replace path target = (disk', .ok ())) :
    disk'.look target = .ok (.file content) := by
  have touches := Touches.of_replace top seen target
  obtain ⟨source, names, _, found, view⟩ := replace_eq_ok top seen replaced
  rw [replaced] at touches
  refine look_eq_ok_iff.mpr ⟨names, touches.locate_eq_ok (writable_eq_ok found).1, ?_⟩
  rw [view, if_pos rfl]

theorem view_top (located : disk.locate path = .ok names) (below : path.names ≠ []) :
    disk.view [] = some .directory := by
  obtain ⟨name, rest, shape⟩ := List.exists_cons_of_ne_nil below
  rw [locate, shape] at located
  exact view_eq_directory_of_follow located

end ClassHarvest.Disk
