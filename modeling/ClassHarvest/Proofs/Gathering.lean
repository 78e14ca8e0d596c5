import Mathlib.Data.List.Forall2

/-!
# Gathering

What the members of a list give is gathered in order.  A member may give nothing, and giving may have
effects.
-/

namespace ClassHarvest.Gathering

variable {m : Type → Type} [Monad m] [LawfulMonad m] {α β γ : Type}

/-- What is there is left of what all members give. -/
theorem filterMapM_eq_map (f : α → m (Option β)) (xs : List α) :
    xs.filterMapM f = (·.filterMap id) <$> xs.mapM f := by
  induction xs with
  | nil => simp
  | cons x xs ih =>
      rw [List.filterMapM_cons, List.mapM_cons, ih, map_bind]
      congr 1
      funext found
      cases found <;> simp

/-- Members that are left out give nothing. -/
theorem filterMapM_filter (p : α → Bool) (f : α → m (Option β)) (xs : List α) :
    (xs.filter p).filterMapM f = xs.filterMapM fun x => if p x then f x else pure none := by
  induction xs with
  | nil => rfl
  | cons x xs ih =>
      by_cases fits : p x = true
      · rw [List.filter_cons_of_pos fits, List.filterMapM_cons, List.filterMapM_cons, ih,
          if_pos fits]
      · rw [List.filter_cons_of_neg fits, List.filterMapM_cons, ih, if_neg fits, pure_bind]

theorem filterMapM_append (f : α → m (Option β)) (xs ys : List α) :
    (xs ++ ys).filterMapM f = do
      let first ← xs.filterMapM f
      let second ← ys.filterMapM f
      return first ++ second := by
  simp [filterMapM_eq_map]

/-- What is gathered may be changed afterwards or member by member. -/
theorem map_filterMapM (f : α → m (Option β)) (g : β → γ) (xs : List α) :
    List.map g <$> xs.filterMapM f = xs.filterMapM fun x => Option.map g <$> f x := by
  induction xs with
  | nil => simp
  | cons x xs ih =>
      rw [List.filterMapM_cons, List.filterMapM_cons, ← ih, map_bind, bind_map_left]
      congr 1
      funext found
      cases found <;> simp

theorem map_mapM (f : α → m β) (g : β → γ) (xs : List α) :
    List.map g <$> xs.mapM f = xs.mapM fun x => g <$> f x := by
  induction xs with
  | nil => simp
  | cons x xs ih =>
      rw [List.mapM_cons, List.mapM_cons, ← ih]
      simp

/-- Gathering may be done part by part. -/
theorem flatten_mapM_filterMapM (f : α → m (Option β)) (parts : γ → List α) (zs : List γ) :
    List.flatten <$> zs.mapM (fun z => (parts z).filterMapM f) =
      (zs.flatMap parts).filterMapM f := by
  induction zs with
  | nil => simp
  | cons z zs ih =>
      rw [List.flatMap_cons, filterMapM_append, ← ih, List.mapM_cons]
      simp

/-- Of members that give one thing or nothing, those that give nothing may be left out. -/
theorem flatten_mapM_singleton (p : α → Bool) (f : α → m β) (xs : List α) :
    List.flatten <$> xs.mapM (fun x => if p x then ([·]) <$> f x else pure []) =
      (xs.filter p).mapM f := by
  induction xs with
  | nil => simp
  | cons x xs ih =>
      by_cases fits : p x = true
      · rw [List.filter_cons_of_pos fits, List.mapM_cons, List.mapM_cons, ← ih, if_pos fits]
        simp
      · rw [List.filter_cons_of_neg fits, List.mapM_cons, ← ih, if_neg fits]
        simp

/-! ## Where something may fail -/

variable {ε : Type}

theorem bind_eq_ok_iff {first : Except ε α} {next : α → Except ε β} {y : β} :
    first >>= next = .ok y ↔ ∃ x, first = .ok x ∧ next x = .ok y := by
  constructor
  · intro given
    cases first with
    | error error => cases given
    | ok x => exact ⟨x, rfl, given⟩
  · rintro ⟨x, rfl, given⟩
    exact given

theorem mapError_eq_ok_iff {ε' : Type} {first : Except ε α} {f : ε → ε'} {x : α} :
    first.mapError f = .ok x ↔ first = .ok x := by
  cases first with
  | error error => simp [Except.mapError]
  | ok y => simp [Except.mapError]

theorem map_eq_error_iff {first : Except ε α} {f : α → β} {error : ε} :
    first.map f = .error error ↔ first = .error error := by
  cases first with
  | error error' => simp [Except.map]
  | ok x => simp [Except.map]

theorem exists_map_eq_ok_iff {first : Except ε α} {f : α → β} :
    (∃ y, first.map f = .ok y) ↔ ∃ x, first = .ok x := by
  cases first with
  | error error => simp [Except.map]
  | ok x => simp [Except.map]

theorem mapM_cons_bind (f : α → Except ε β) (x : α) (xs : List α) :
    (x :: xs).mapM f = (f x).bind fun y => (xs.mapM f).map (y :: ·) := by
  rw [List.mapM_cons]
  cases f x with
  | error error => rfl
  | ok y => cases xs.mapM f <;> rfl

theorem mapM_map (f : α → β) (g : β → Except ε γ) (xs : List α) :
    (xs.map f).mapM g = xs.mapM fun x => g (f x) := by
  induction xs with
  | nil => rfl
  | cons x xs ih => rw [List.map_cons, mapM_cons_bind, mapM_cons_bind, ih]

theorem mapM_eq_nil_iff {f : α → Except ε β} {ys : List β} :
    ([] : List α).mapM f = .ok ys ↔ ys = [] := by
  simp [List.mapM_nil, pure, Except.pure, eq_comm]

theorem mapM_eq_cons_iff {f : α → Except ε β} {x : α} {xs : List α} {ys : List β} :
    (x :: xs).mapM f = .ok ys ↔ ∃ y zs, f x = .ok y ∧ xs.mapM f = .ok zs ∧ ys = y :: zs := by
  rw [mapM_cons_bind]
  cases f x with
  | error error => simp [Except.bind]
  | ok y =>
      cases xs.mapM f with
      | error error => simp [Except.bind, Except.map]
      | ok zs => simp [Except.bind, Except.map, eq_comm]

/-- What is made of the members does not depend on their order. -/
theorem mapM_perm {f : α → Except ε β} {xs xs' : List α} (perm : xs.Perm xs') :
    ∀ {ys : List β}, xs.mapM f = .ok ys → ∃ ys', xs'.mapM f = .ok ys' ∧ ys.Perm ys' := by
  induction perm with
  | nil => exact fun mapped => ⟨_, mapped, List.Perm.refl _⟩
  | cons x _ ih =>
      intro ys mapped
      obtain ⟨y, zs, first, others, rfl⟩ := mapM_eq_cons_iff.mp mapped
      obtain ⟨zs', others', permuted⟩ := ih others
      exact ⟨y :: zs', mapM_eq_cons_iff.mpr ⟨y, zs', first, others', rfl⟩, permuted.cons y⟩
  | swap x x' xs =>
      intro ys mapped
      obtain ⟨y', ys', second, behind, rfl⟩ := mapM_eq_cons_iff.mp mapped
      obtain ⟨y, zs, first, others, rfl⟩ := mapM_eq_cons_iff.mp behind
      exact ⟨y :: y' :: zs, mapM_eq_cons_iff.mpr
        ⟨y, y' :: zs, first, mapM_eq_cons_iff.mpr ⟨y', zs, second, others, rfl⟩, rfl⟩,
        List.Perm.swap y y' zs⟩
  | trans _ _ ih ih' =>
      intro ys mapped
      obtain ⟨ys', mapped', permuted⟩ := ih mapped
      obtain ⟨ys'', mapped'', permuted'⟩ := ih' mapped'
      exact ⟨ys'', mapped'', permuted.trans permuted'⟩

theorem exists_mapM_eq_ok_iff {f : α → Except ε β} {xs : List α} :
    (∃ ys, xs.mapM f = .ok ys) ↔ ∀ x ∈ xs, ∃ y, f x = .ok y := by
  induction xs with
  | nil => exact iff_of_true ⟨[], rfl⟩ (by simp)
  | cons x xs ih =>
      rw [List.forall_mem_cons, ← ih]
      constructor
      · rintro ⟨ys, mapped⟩
        obtain ⟨y, zs, first, others, _⟩ := mapM_eq_cons_iff.mp mapped
        exact ⟨⟨y, first⟩, zs, others⟩
      · rintro ⟨⟨y, first⟩, ys, others⟩
        exact ⟨y :: ys, mapM_eq_cons_iff.mpr ⟨y, ys, first, others, rfl⟩⟩

/-- What is gathered comes from some member. -/
theorem exists_of_mem_mapM {f : α → Except ε β} {xs : List α} {ys : List β}
    (mapped : xs.mapM f = .ok ys) {y : β} (member : y ∈ ys) : ∃ x ∈ xs, f x = .ok y := by
  induction xs generalizing ys with
  | nil =>
      rw [mapM_eq_nil_iff] at mapped
      subst mapped
      cases member
  | cons x xs ih =>
      obtain ⟨first, rest, given, others, rfl⟩ := mapM_eq_cons_iff.mp mapped
      rcases List.mem_cons.mp member with rfl | member
      · exact ⟨x, List.mem_cons_self, given⟩
      · obtain ⟨x', inRest, given⟩ := ih others member
        exact ⟨x', List.mem_cons_of_mem x inRest, given⟩

theorem mapM_eq_ok_iff_forall₂ {f : α → Except ε β} {xs : List α} {ys : List β} :
    xs.mapM f = .ok ys ↔ List.Forall₂ (fun x y => f x = .ok y) xs ys := by
  induction xs generalizing ys with
  | nil => rw [mapM_eq_nil_iff, List.forall₂_nil_left_iff]
  | cons x xs ih =>
      rw [mapM_eq_cons_iff, List.forall₂_cons_left_iff]
      constructor
      · rintro ⟨y, zs, first, others, rfl⟩
        exact ⟨y, zs, first, ih.mp others, rfl⟩
      · rintro ⟨y, zs, first, others, rfl⟩
        exact ⟨y, zs, first, ih.mpr others, rfl⟩

theorem mapM_append_eq_ok_iff {f : α → Except ε β} {xs xs' : List α} {ys : List β} :
    (xs ++ xs').mapM f = .ok ys ↔
      ∃ zs zs', xs.mapM f = .ok zs ∧ xs'.mapM f = .ok zs' ∧ ys = zs ++ zs' := by
  rw [List.mapM_append, bind_eq_ok_iff]
  constructor
  · rintro ⟨zs, first, given⟩
    obtain ⟨zs', second, same⟩ := bind_eq_ok_iff.mp given
    exact ⟨zs, zs', first, second, (Except.ok.inj same).symm⟩
  · rintro ⟨zs, zs', first, second, rfl⟩
    exact ⟨zs, first, bind_eq_ok_iff.mpr ⟨zs', second, rfl⟩⟩

/-- What is gathered from parts is gathered part by part. -/
theorem mapM_flatMap_eq_ok_iff {f : α → Except ε β} {parts : γ → List α} {zs : List γ}
    {ys : List β} :
    (zs.flatMap parts).mapM f = .ok ys ↔
      ∃ gathered, zs.mapM (fun z => (parts z).mapM f) = .ok gathered ∧ ys = gathered.flatten := by
  induction zs generalizing ys with
  | nil =>
      rw [List.flatMap_nil, mapM_eq_nil_iff]
      constructor
      · rintro rfl
        exact ⟨[], rfl, rfl⟩
      · rintro ⟨gathered, inParts, rfl⟩
        rw [mapM_eq_nil_iff.mp inParts]
        rfl
  | cons z zs ih =>
      rw [List.flatMap_cons, mapM_append_eq_ok_iff]
      constructor
      · rintro ⟨first, others, inFirst, inOthers, rfl⟩
        obtain ⟨gathered, inParts, rfl⟩ := ih.mp inOthers
        exact ⟨first :: gathered, mapM_eq_cons_iff.mpr ⟨first, gathered, inFirst, inParts, rfl⟩, rfl⟩
      · rintro ⟨gathered, inParts, rfl⟩
        obtain ⟨first, others, inFirst, inOthers, rfl⟩ := mapM_eq_cons_iff.mp inParts
        exact ⟨first, others.flatten, inFirst, ih.mpr ⟨others, inOthers, rfl⟩, rfl⟩

/-! ## Where something may be missing -/

theorem mapM_eq_some_iff_forall₂ {f : α → Option β} {xs : List α} {ys : List β} :
    xs.mapM f = some ys ↔ List.Forall₂ (fun x y => f x = some y) xs ys := by
  induction xs generalizing ys with
  | nil => simp [eq_comm]
  | cons x xs ih =>
      rw [List.forall₂_cons_left_iff, List.mapM_cons]
      simp only [Option.bind_eq_bind, Option.bind_eq_some_iff, Option.pure_def, Option.some.injEq, ih]
      constructor
      · rintro ⟨y, first, zs, others, rfl⟩
        exact ⟨y, zs, first, others, rfl⟩
      · rintro ⟨y, zs, first, others, rfl⟩
        exact ⟨y, first, zs, others, rfl⟩

/-- What has a property is given by all members of a list just if each of them gives some. -/
theorem exists_forall₂_iff {R : α → β → Prop} {P : β → Prop} {xs : List α} :
    (∃ ys, List.Forall₂ R xs ys ∧ ∀ y ∈ ys, P y) ↔ ∀ x ∈ xs, ∃ y, R x y ∧ P y := by
  induction xs with
  | nil => simp
  | cons x xs ih =>
      rw [List.forall_mem_cons, ← ih]
      constructor
      · rintro ⟨_, all, good⟩
        obtain ⟨y, ys, first, others, rfl⟩ := List.forall₂_cons_left_iff.mp all
        rw [List.forall_mem_cons] at good
        exact ⟨⟨y, first, good.1⟩, ys, others, good.2⟩
      · rintro ⟨⟨y, first, good⟩, ys, others, allGood⟩
        exact ⟨y :: ys, List.Forall₂.cons first others, List.forall_mem_cons.mpr ⟨good, allGood⟩⟩

end ClassHarvest.Gathering
