import ClassHarvest.Proofs.Dictionary
import ClassHarvest.Proofs.Json.RoundTrip

/-!
# Objects that are read again

The members of an object come back in another order, each as its value comes back, if their names are
distinct and hold no pairs of surrogates.  A value without numbers of too many digits comes back.
-/

namespace ClassHarvest.Json

open Gathering

/-! ## Members in any order -/

/-- An object with some members in any order. -/
def Value.HasMembers (value : Value) (members : Object) : Prop :=
  ∃ given : Object, value = .object given ∧ given.Perm members

theorem hasMembers_object (members : Object) : (Value.object members).HasMembers members :=
  ⟨members, rfl, List.Perm.refl members⟩

theorem Value.HasMembers.object? {value : Value} {members : Object}
    (held : value.HasMembers members) (nodup : members.keys.Nodup) :
    ∃ given, value.object? = some given ∧ (∀ key, given.get? key = members.get? key) ∧
      given.Perm members := by
  obtain ⟨given, rfl, perm⟩ := held
  exact ⟨given, rfl, fun key => (Dictionary.get?_perm perm.symm nodup key).symm, perm⟩

theorem Value.HasMembers.floatFree {value : Value} {members : Object}
    (held : value.HasMembers members) (plain : ∀ member ∈ members, member.2.FloatFree) :
    value.FloatFree := by
  obtain ⟨given, rfl, perm⟩ := held
  exact FloatFree.object fun member mem => plain member (perm.mem_iff.mp mem)

/-! ## Reading objects again -/

/-- Names of which none occurs twice and none holds a pair of surrogates. -/
structure TidyNames (names : List Text) : Prop where
  nodup : names.Nodup
  joined : ∀ name ∈ names, joinSurrogates name = name

theorem keys_of_mapM_rereadOf {members members' : Object}
    (read : members.mapM rereadOf = .ok members') :
    members'.keys = members.keys.map joinSurrogates := by
  induction members generalizing members' with
  | nil =>
      rw [mapM_eq_nil_iff] at read
      rw [read]
      rfl
  | cons member members ih =>
      obtain ⟨member', others, first, behind, rfl⟩ := mapM_eq_cons_iff.mp read
      rw [rereadOf, rereadMember] at first
      cases value : member.2.reread with
      | error n => simp [value, Except.map] at first
      | ok w =>
          simp only [value, Except.map, Except.ok.injEq] at first
          rw [← first]
          exact congrArg (joinSurrogates member.1 :: ·) (ih behind)

theorem map_joinSurrogates {names : List Text} (tidy : TidyNames names) :
    names.map joinSurrogates = names := by
  rw [List.map_congr_left tidy.joined, List.map_id']

/-- An object that is read again has its members, each as it is read again. -/
theorem Value.HasMembers.reread {value w : Value} {members : Object}
    (held : value.HasMembers members) (tidy : TidyNames members.keys)
    (read : value.reread = .ok w) :
    ∃ members', members.mapM rereadOf = .ok members' ∧ w.HasMembers members' := by
  obtain ⟨given, rfl, perm⟩ := held
  rw [reread_object] at read
  cases mapped : (Dictionary.sorted given).mapM rereadOf with
  | error n => simp [mapped, Except.map] at read
  | ok found =>
      simp only [mapped, Except.map, Except.ok.injEq] at read
      obtain ⟨members', mapped', permuted⟩ :=
        mapM_perm ((Dictionary.sorted_perm given).trans perm) mapped
      have names := keys_of_mapM_rereadOf mapped'
      rw [map_joinSurrogates tidy] at names
      have nodup : (Dictionary.keys found).Nodup :=
        Dictionary.nodup_keys_perm permuted.symm (names ▸ tidy.nodup)
      refine ⟨members', mapped', found, ?_, permuted⟩
      rw [← read, Dictionary.ofPairs_eq_self nodup]

theorem rereadOf_eq_ok_iff {name : Text} (joined : joinSurrogates name = name) {value : Value}
    {member : Text × Value} :
    rereadOf (name, value) = .ok member ↔ ∃ w, value.reread = .ok w ∧ member = (name, w) := by
  rw [rereadOf, rereadMember, joined]
  cases value.reread with
  | error n => simp [Except.map]
  | ok w => simp [Except.map, eq_comm]

/-- The members of an object that is read again are found as they are read again. -/
theorem rel_get?_mapM_rereadOf {members members' : Object} (tidy : TidyNames members.keys)
    (mapped : members.mapM rereadOf = .ok members') (key : Text) :
    Option.Rel (fun value w => value.reread = .ok w) (members.get? key) (members'.get? key) := by
  have joined := tidy.joined
  clear tidy
  induction members generalizing members' with
  | nil =>
      rw [mapM_eq_nil_iff] at mapped
      rw [mapped]
      exact Option.Rel.none
  | cons member members ih =>
      obtain ⟨name, value⟩ := member
      obtain ⟨_, others, first, behind, rfl⟩ := mapM_eq_cons_iff.mp mapped
      obtain ⟨w, read, rfl⟩ :=
        (rereadOf_eq_ok_iff (joined name (List.mem_map.mpr ⟨_, List.mem_cons_self, rfl⟩))).mp first
      rw [Dictionary.get?_cons, Dictionary.get?_cons]
      split
      · exact Option.Rel.some read
      · exact ih behind fun name mem => joined name (List.mem_cons_of_mem _ mem)

theorem reread_int_eq_ok {n : Int} {w : Value} (read : (Value.int n).reread = .ok w) :
    w = .int n := by
  rw [Value.reread] at read
  split at read
  · cases read
  · cases read
    rfl

/-- The members of a document of a version, with an object under a name. -/
def versioned (version : Int) (name : Text) (members : Object) : Object :=
  [("version", .int version), (name, .object members)]

/-- A document is read again with its object as that is read again. -/
theorem exists_members_of_reread {version : Int} {name : Text} {members : Object} {w : Value}
    (distinct : TidyNames ["version", name]) (tidy : TidyNames members.keys)
    (read : (Value.object (versioned version name members)).reread = .ok w) :
    ∃ outer inner given, w.object? = some outer ∧ outer.get? "version" = some (.int version) ∧
      outer.get? name = some inner ∧ inner.object? = some given ∧ given.keys.Nodup ∧
      ∀ key, Option.Rel (fun value w => value.reread = .ok w) (members.get? key) (given.get? key) := by
  have names : TidyNames (versioned version name members).keys := distinct
  obtain ⟨_, mapped, read⟩ := (hasMembers_object (versioned version name members)).reread names read
  obtain ⟨_, _, first, behind, rfl⟩ := mapM_eq_cons_iff.mp mapped
  obtain ⟨_, _, second, nothing, rfl⟩ := mapM_eq_cons_iff.mp behind
  rw [mapM_eq_nil_iff] at nothing
  subst nothing
  obtain ⟨_, versionRead, rfl⟩ :=
    (rereadOf_eq_ok_iff (names.joined "version" List.mem_cons_self)).mp first
  obtain ⟨_, objectRead, rfl⟩ :=
    (rereadOf_eq_ok_iff (names.joined name (List.mem_cons_of_mem _ List.mem_cons_self))).mp second
  obtain rfl := reread_int_eq_ok versionRead
  obtain ⟨found, mappedMembers, isObject⟩ := (hasMembers_object members).reread tidy objectRead
  have foundKeys := keys_of_mapM_rereadOf mappedMembers
  rw [map_joinSurrogates tidy] at foundKeys
  have foundNodup : (Dictionary.keys found).Nodup := foundKeys ▸ tidy.nodup
  obtain ⟨given, isGiven, sameInside, perm⟩ := isObject.object? foundNodup
  obtain ⟨outer, isOuter, same, _⟩ := read.object? names.nodup
  have other : (Text.ofString "version") ≠ name := by
    intro equal
    exact (List.nodup_cons.mp names.nodup).1 (equal ▸ List.mem_cons_self)
  refine ⟨outer, _, given, isOuter, ?_, ?_, isGiven,
    Dictionary.nodup_keys_perm perm.symm foundNodup, ?_⟩
  · rw [same, Dictionary.get?_cons, if_pos rfl]
  · rw [same, Dictionary.get?_cons, if_neg other, Dictionary.get?_cons, if_pos rfl]
  · intro key
    rw [sameInside]
    exact rel_get?_mapM_rereadOf tidy mappedMembers key

/-! ## What can be written -/

theorem isSome_write?_iff (n : Int) :
    (Numeral.write? n).isSome = true ↔ (Text.ofNat n.natAbs).length ≤ Numeral.maxDigits := by
  rw [Text.length_ofNat_le_iff (by decide), Numeral.write?, Nat.pow_eq]
  generalize 10 ^ Numeral.maxDigits = limit
  by_cases small : n.natAbs < limit
  · rw [if_pos small]
    exact iff_of_true rfl small
  · rw [if_neg small]
    exact iff_of_false Bool.false_ne_true small

theorem areWritable_iff {items : List Value} :
    areWritable items = true ↔ ∀ item ∈ items, item.isWritable = true := by
  induction items with
  | nil => simp [areWritable]
  | cons item items ih => simp [areWritable, ih]

theorem areWritableMembers_iff {members : List (Text × Value)} :
    areWritableMembers members = true ↔ ∀ member ∈ members, member.2.isWritable = true := by
  induction members with
  | nil => simp [areWritableMembers]
  | cons member members ih =>
      obtain ⟨name, value⟩ := member
      rw [areWritableMembers, Bool.and_eq_true, ih, List.forall_mem_cons]

/-- A value that can be written is read again. -/
theorem exists_reread {value : Value} (writable : value.isWritable = true) :
    ∃ w, value.reread = .ok w := by
  induction value using Value.inductionOn with
  | null => exact ⟨_, rfl⟩
  | bool b => exact ⟨_, rfl⟩
  | float x => exact ⟨_, rfl⟩
  | string t => exact ⟨_, rfl⟩
  | int n =>
      rw [Value.isWritable, isSome_write?_iff] at writable
      exact ⟨.int n, if_neg (Nat.not_lt.mpr writable)⟩
  | array items ih =>
      rw [Value.isWritable, areWritable_iff] at writable
      obtain ⟨found, mapped⟩ := exists_mapM_eq_ok_iff.mpr fun item mem => ih item mem (writable item mem)
      exact ⟨.array found, by rw [reread_array, mapped]; rfl⟩
  | object members ih =>
      rw [Value.isWritable, areWritableMembers_iff] at writable
      obtain ⟨found, mapped⟩ : ∃ found, (Dictionary.sorted members).mapM rereadOf = .ok found := by
        refine exists_mapM_eq_ok_iff.mpr fun member mem => ?_
        have inside := List.mem_mergeSort.mp mem
        obtain ⟨w, read⟩ := ih member inside (writable member inside)
        exact ⟨(joinSurrogates member.1, w), by rw [rereadOf, rereadMember, read]; rfl⟩
      exact ⟨.object (Dictionary.ofPairs found), by rw [reread_object, mapped]; rfl⟩

/-- A document that can be written is read without a refusal. -/
theorem read_write_of_isWritable {value : Value} (plain : value.FloatFree)
    (writable : value.isWritable = true) :
    ∃ w, value.reread = .ok w ∧ read (write value) = .ok w := by
  obtain ⟨w, back⟩ := exists_reread writable
  exact ⟨w, back, by rw [read_write plain, back]; rfl⟩

end ClassHarvest.Json
