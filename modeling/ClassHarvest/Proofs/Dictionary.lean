import ClassHarvest.Dictionary

/-!
# Laws of dictionaries

A dictionary whose keys are distinct is the map that `get?` says it is: the order of its pairs does not
matter, and what is done to its pairs one by one is done to the values that are found.
-/

namespace ClassHarvest.Dictionary

variable {α β : Type}

/-! ## What is found -/

theorem mem_of_get?_eq_some {d : Dictionary α} {key : Text} {value : α}
    (found : get? key d = some value) : (key, value) ∈ d := by
  induction d with
  | nil => cases found
  | cons pair d ih =>
      obtain ⟨k, v⟩ := pair
      rw [get?_cons] at found
      split at found
      · next same =>
          cases found
          rw [same]
          exact List.mem_cons_self
      · exact List.mem_cons_of_mem _ (ih found)

theorem get?_eq_none_iff {d : Dictionary α} {key : Text} : get? key d = none ↔ key ∉ d.keys := by
  induction d with
  | nil => simp [keys]
  | cons pair d ih =>
      obtain ⟨k, v⟩ := pair
      rw [get?_cons, keys, List.map_cons, List.mem_cons, not_or, ← keys]
      split
      · next same => simp [same]
      · next other => exact ih.trans (Iff.intro (fun absent => ⟨Ne.symm other, absent⟩) And.right)

theorem isSome_get?_iff {d : Dictionary α} {key : Text} :
    (get? key d).isSome = true ↔ key ∈ d.keys := by
  rw [← Decidable.not_iff_not, Bool.not_eq_true, Option.isSome_eq_false_iff,
    Option.isNone_iff_eq_none, get?_eq_none_iff]

/-- If no key occurs twice, every pair is found. -/
theorem get?_eq_some_iff {d : Dictionary α} (nodup : d.keys.Nodup) {key : Text} {value : α} :
    get? key d = some value ↔ (key, value) ∈ d := by
  refine ⟨mem_of_get?_eq_some, fun mem => ?_⟩
  induction d with
  | nil => cases mem
  | cons pair d ih =>
      obtain ⟨k, v⟩ := pair
      rw [keys, List.map_cons, List.nodup_cons, ← keys] at nodup
      rw [get?_cons]
      rcases List.mem_cons.mp mem with same | mem
      · cases same
        exact if_pos rfl
      · have other : k ≠ key := by
          rintro rfl
          exact nodup.1 (List.mem_map.mpr ⟨_, mem, rfl⟩)
        rw [if_neg other]
        exact ih nodup.2 mem

theorem nodup_keys_perm {d e : Dictionary α} (perm : d.Perm e) (nodup : d.keys.Nodup) :
    e.keys.Nodup :=
  (perm.map fun pair : Text × α => pair.1).nodup nodup

theorem get?_perm {d e : Dictionary α} (perm : d.Perm e) (nodup : d.keys.Nodup) (key : Text) :
    get? key d = get? key e := by
  apply Option.ext
  intro value
  rw [get?_eq_some_iff nodup, get?_eq_some_iff (nodup_keys_perm perm nodup)]
  exact perm.mem_iff

/-! ## What is done to all pairs -/

theorem get?_map (f : α → β) (d : Dictionary α) (key : Text) :
    get? key (d.map fun (k, v) => (k, f v)) = (get? key d).map f := by
  induction d with
  | nil => rfl
  | cons pair d ih =>
      obtain ⟨k, v⟩ := pair
      rw [List.map_cons, get?_cons, get?_cons, ih]
      split <;> rfl

theorem keys_map (f : α → β) (d : Dictionary α) : keys (d.map fun (k, v) => (k, f v)) = d.keys := by
  rw [keys, List.map_map]
  rfl

theorem get?_filter (p : Text → Bool) (d : Dictionary α) (key : Text) :
    get? key (d.filter fun (k, _) => p k) = if p key then get? key d else none := by
  induction d with
  | nil => simp
  | cons pair d ih =>
      obtain ⟨k, v⟩ := pair
      rw [List.filter_cons]
      by_cases same : k = key
      · subst same
        by_cases kept : p k
        · simp [kept, get?_cons]
        · simpa [kept] using ih
      · by_cases kept : p k
        · simpa [kept, get?_cons, same] using ih
        · simpa [kept, get?_cons, same] using ih

theorem get?_erase (name : Text) (d : Dictionary α) (key : Text) :
    get? key (erase name d) = if key = name then none else get? key d := by
  have filtered := get?_filter (fun k => k ≠ name) d key
  by_cases same : key = name
  · rw [if_pos same]
    simpa [erase, same] using filtered
  · rw [if_neg same]
    simpa [erase, same] using filtered

theorem nodup_keys_filter {d : Dictionary α} (nodup : d.keys.Nodup) (p : Text × α → Bool) :
    (keys (d.filter p)).Nodup :=
  nodup.sublist (List.filter_sublist.map _)

theorem get?_filterMap {d : Dictionary α} (nodup : d.keys.Nodup) (f : α → Option β) (key : Text) :
    get? key (d.filterMap fun (k, v) => (f v).map (k, ·)) = (get? key d).bind f := by
  induction d with
  | nil => rfl
  | cons pair d ih =>
      obtain ⟨k, v⟩ := pair
      rw [keys, List.map_cons, List.nodup_cons, ← keys] at nodup
      have others := ih nodup.2
      rw [List.filterMap_cons, get?_cons]
      by_cases same : k = key
      · subst same
        rw [get?_eq_none_iff.mpr nodup.1, Option.bind_none] at others
        cases image : f v with
        | none => simpa [image] using others
        | some w => simp [image, get?_cons]
      · cases image : f v with
        | none => simpa [same, image] using others
        | some w => simpa [same, image, get?_cons] using others

theorem nodup_keys_filterMap {d : Dictionary α} (nodup : d.keys.Nodup) (f : α → Option β) :
    (keys (d.filterMap fun (k, v) => (f v).map (k, ·))).Nodup := by
  refine nodup.sublist ?_
  induction d with
  | nil => exact List.Sublist.refl []
  | cons pair d ih =>
      obtain ⟨k, v⟩ := pair
      rw [keys, List.map_cons, List.nodup_cons, ← keys] at nodup
      cases image : f v with
      | none =>
          rw [List.filterMap_cons_none (by simp [image])]
          exact (ih nodup.2).cons k
      | some w =>
          rw [List.filterMap_cons_some (b := (k, w)) (by simp [image])]
          exact (ih nodup.2).cons_cons k

/-! ## Putting -/

theorem keys_put (key : Text) (value : α) (d : Dictionary α) :
    keys (put key value d) = if key ∈ d.keys then d.keys else d.keys ++ [key] := by
  induction d with
  | nil => rfl
  | cons pair d ih =>
      obtain ⟨k, v⟩ := pair
      rw [put]
      by_cases same : k = key
      · simp [same, keys]
      · rw [if_neg same, keys, List.map_cons, ← keys, ih]
        have other : key ≠ k := Ne.symm same
        by_cases present : key ∈ keys d
        · simp only [keys] at present ⊢
          simp [present]
        · simp only [keys] at present ⊢
          simp [present, other]

theorem nodup_keys_put {d : Dictionary α} (nodup : d.keys.Nodup) (key : Text) (value : α) :
    (keys (put key value d)).Nodup := by
  rw [keys_put]
  split
  · exact nodup
  · next absent =>
      rw [List.nodup_append]
      refine ⟨nodup, by simp, ?_⟩
      intro k mem l last
      rw [List.mem_singleton] at last
      rintro rfl
      exact absent (last ▸ mem)

theorem put_of_not_mem {d : Dictionary α} {key : Text} (absent : key ∉ keys d) (value : α) :
    put key value d = d ++ [(key, value)] := by
  induction d with
  | nil => rfl
  | cons pair d ih =>
      obtain ⟨k, v⟩ := pair
      rw [keys, List.map_cons, List.mem_cons, not_or, ← keys] at absent
      rw [put, if_neg (Ne.symm absent.1), ih absent.2, List.cons_append]

theorem of_mem_put {d : Dictionary α} {key : Text} {value : α} {pair : Text × α}
    (mem : pair ∈ put key value d) : pair = (key, value) ∨ pair ∈ d := by
  induction d with
  | nil => exact Or.inl (List.mem_singleton.mp mem)
  | cons first d ih =>
      obtain ⟨k, v⟩ := first
      rw [put] at mem
      split at mem
      · rcases List.mem_cons.mp mem with same | later
        · exact Or.inl same
        · exact Or.inr (List.mem_cons_of_mem _ later)
      · rcases List.mem_cons.mp mem with rfl | later
        · exact Or.inr List.mem_cons_self
        · exact (ih later).imp_right (List.mem_cons_of_mem _)

theorem of_mem_foldl_put {pairs : List (Text × α)} {d : Dictionary α} {pair : Text × α}
    (mem : pair ∈ pairs.foldl (fun d pair => put pair.1 pair.2 d) d) : pair ∈ pairs ∨ pair ∈ d := by
  induction pairs generalizing d with
  | nil => exact Or.inr mem
  | cons first pairs ih =>
      rcases ih mem with later | before
      · exact Or.inl (List.mem_cons_of_mem _ later)
      · rcases of_mem_put before with rfl | before
        · exact Or.inl List.mem_cons_self
        · exact Or.inr before

/-- Pairs in which no key occurs twice are put down one behind the other. -/
theorem ofPairs_eq_self {pairs : Dictionary α} (nodup : pairs.keys.Nodup) :
    ofPairs pairs = pairs := by
  suffices all : ∀ (d : Dictionary α), (keys (d ++ pairs)).Nodup →
      pairs.foldl (fun d pair => put pair.1 pair.2 d) d = d ++ pairs from all [] nodup
  clear nodup
  induction pairs with
  | nil => simp
  | cons pair pairs ih =>
      intro d nodup
      have absent : pair.1 ∉ keys d := by
        rw [keys, List.map_append, List.nodup_append] at nodup
        exact fun mem => nodup.2.2 _ mem _ (by simp) rfl
      rw [List.foldl_cons, put_of_not_mem absent, ih]
      · simp
      · simpa using nodup

/-- A dictionary that is put into another one goes before it. -/
theorem get?_update (d : Dictionary α) {other : Dictionary α} (nodup : other.keys.Nodup)
    (key : Text) : get? key (d.update other) = (get? key other).or (get? key d) := by
  unfold update
  induction other generalizing d with
  | nil => rfl
  | cons pair other ih =>
      obtain ⟨k, v⟩ := pair
      rw [keys, List.map_cons, List.nodup_cons, ← keys] at nodup
      rw [List.foldl_cons, ih _ nodup.2, get?_put, get?_cons]
      by_cases same : k = key
      · subst same
        rw [get?_eq_none_iff.mpr nodup.1, if_pos rfl, if_pos rfl, Option.none_or, Option.some_or]
      · rw [if_neg same, if_neg same]

theorem sorted_perm (d : Dictionary α) : d.sorted.Perm d :=
  List.mergeSort_perm d _

end ClassHarvest.Dictionary
