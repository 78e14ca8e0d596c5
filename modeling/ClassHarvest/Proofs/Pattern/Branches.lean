import ClassHarvest.Proofs.Pattern.Renumbering
import Mathlib.Data.List.Forall2

/-!
# Branches of alternatives

What branches begin with is taken out in front of them, and what is left makes a set if it consists of
single characters.  This is done in the same way when all groups have their numbers moved up.
-/

namespace ClassHarvest.Pattern

/-! ## Leaves -/

/-- A single test, anchor or reference. -/
def Regex.IsLeaf (r : Regex) : Prop :=
  r.sameLeaf r = true

theorem eq_of_sameLeaf {leaf other : Regex} (same : leaf.sameLeaf other = true) :
    other = leaf ∧ leaf.IsLeaf := by
  cases leaf <;> cases other <;> simp_all [Regex.sameLeaf, Regex.IsLeaf]

theorem isLeaf_of_branchItems {branch : List Regex} {items : List SetItem}
    (isSet : branchItems? branch = some items) : ∀ r ∈ branch, r.IsLeaf := by
  unfold branchItems? at isSet
  split at isSet
  · rw [List.forall_mem_singleton]
    exact beq_self_eq_true _
  · rw [List.forall_mem_singleton]
    exact beq_self_eq_true _
  · cases isSet

/-- What is taken out consists of leaves, and every branch is what is left of it behind them. -/
theorem commonStart_spec {bound : Nat} {branches rests : List (List Regex)} {start : List Regex}
    (found : commonStart branches bound = (start, rests)) :
    (∀ leaf ∈ start, leaf.IsLeaf) ∧ branches = rests.map (start ++ ·) := by
  have noStart : (∀ leaf ∈ ([] : List Regex), leaf.IsLeaf) ∧ branches = branches.map ([] ++ ·) :=
    ⟨List.forall_mem_nil _, (List.map_id _).symm⟩
  induction bound generalizing branches start rests with
  | zero =>
      cases found
      exact noStart
  | succ bound ih =>
      unfold commonStart at found
      split at found
      · next leaf others more =>
          generalize isAll : (leaf :: others) :: more = branches at found noStart
          split at found
          · next common =>
              have heads : ∀ branch ∈ branches, leaf :: branch.tail = branch ∧ leaf.IsLeaf := by
                intro branch mem
                have here := List.all_eq_true.mp common branch mem
                cases branch with
                | nil => cases here
                | cons other branch =>
                    obtain ⟨rfl, isLeaf⟩ := eq_of_sameLeaf here
                    exact ⟨rfl, isLeaf⟩
              have isLeaf : leaf.IsLeaf := (heads _ (isAll ▸ List.mem_cons_self)).2
              obtain ⟨start', rests', found'⟩ : ∃ start' rests',
                  commonStart (branches.map List.tail) bound = (start', rests') := ⟨_, _, rfl⟩
              rw [found'] at found
              cases found
              obtain ⟨leaves, same⟩ := ih found' ⟨List.forall_mem_nil _, (List.map_id _).symm⟩
              refine ⟨List.forall_mem_cons.mpr ⟨isLeaf, leaves⟩, ?_⟩
              calc branches = (branches.map List.tail).map (leaf :: ·) := by
                    rw [List.map_map]
                    exact (List.map_id' branches).symm.trans
                      (List.map_congr_left fun branch mem => (heads branch mem).1.symm)
                _ = rests.map (leaf :: start' ++ ·) := by
                    rw [same, List.map_map]
                    rfl
          · cases found
            exact noStart
      · cases found
        exact noStart

theorem isSome_of_mapM {α β : Type} {f : α → Option β} {xs : List α} {ys : List β}
    (all : xs.mapM f = some ys) : ∀ x ∈ xs, ∃ y, f x = some y := by
  induction xs generalizing ys with
  | nil => exact List.forall_mem_nil _
  | cons x xs ih =>
      rw [List.mapM_cons] at all
      obtain ⟨y, found, all⟩ := Option.bind_eq_some_iff.mp all
      obtain ⟨others, foundAll, _⟩ := Option.bind_eq_some_iff.mp all
      exact List.forall_mem_cons.mpr ⟨⟨y, found⟩, ih foundAll⟩

/-- If only leaves are made of branches, there were only leaves in them. -/
theorem isLeaf_of_joinBranches {branches : List (List Regex)} (inhabited : branches ≠ [])
    (leaves : ∀ r ∈ joinBranches branches, r.IsLeaf) :
    ∀ branch ∈ branches, ∀ r ∈ branch, r.IsLeaf := by
  unfold joinBranches at leaves
  split at leaves
  · rw [List.forall_mem_singleton]
    exact leaves
  · next several =>
      obtain ⟨start, rests, found⟩ : ∃ start rests, commonStart branches
          (branches.headD []).length = (start, rests) := ⟨_, _, rfl⟩
      obtain ⟨ofStart, rfl⟩ := commonStart_spec found
      rw [found] at leaves
      dsimp only at leaves
      split at leaves
      · next items isSet =>
          rw [List.forall_mem_map]
          intro rest mem
          obtain ⟨_, isItem⟩ := isSome_of_mapM isSet rest mem
          exact List.forall_mem_append.mpr ⟨ofStart, isLeaf_of_branchItems isItem⟩
      · rw [List.forall_mem_append, List.forall_mem_singleton] at leaves
        match rests with
        | [] => exact absurd rfl inhabited
        | [rest] => exact absurd rfl (several _)
        | _ :: _ :: _ => cases leaves.2

/-! ## Moving up -/

section

variable {amount : Nat}

theorem Moved.sequence {rs rs' : List Regex} (moved : List.Forall₂ (Moved amount) rs rs') :
    Moved amount (.sequence rs) (.sequence rs') := by
  induction moved with
  | nil => exact .empty
  | cons first others ih =>
      cases others with
      | nil => exact first
      | cons _ _ => exact .seq first ih

theorem Moved.alternatives {rs rs' : List Regex} (moved : List.Forall₂ (Moved amount) rs rs') :
    Moved amount (.alternatives rs) (.alternatives rs') := by
  induction moved with
  | nil => exact .empty
  | cons first others ih =>
      cases others with
      | nil => exact first
      | cons _ _ => exact .alt first ih

theorem Moved.sameLeaf {a a' b b' : Regex} (first : Moved amount a a') (second : Moved amount b b') :
    a'.sameLeaf b' = a.sameLeaf b := by
  cases first <;> cases second <;> simp [Regex.sameLeaf]

theorem Moved.branchItems? {branch branch' : List Regex}
    (moved : List.Forall₂ (Moved amount) branch branch') :
    Pattern.branchItems? branch' = Pattern.branchItems? branch := by
  cases moved with
  | nil => rfl
  | cons first others =>
      cases others with
      | nil => cases first <;> rfl
      | cons _ _ => cases first <;> simp [Pattern.branchItems?]

theorem mapM_branchItems? {branches branches' : List (List Regex)}
    (moved : List.Forall₂ (List.Forall₂ (Moved amount)) branches branches') :
    branches'.mapM branchItems? = branches.mapM branchItems? := by
  induction moved with
  | nil => rfl
  | cons first _ ih => rw [List.mapM_cons, List.mapM_cons, ih, Moved.branchItems? first]

theorem all_sameLeaf {branches branches' : List (List Regex)} {leaf leaf' : Regex}
    (isLeaf : Moved amount leaf leaf')
    (moved : List.Forall₂ (List.Forall₂ (Moved amount)) branches branches') :
    branches'.all (fun branch => branch.head?.any leaf'.sameLeaf) =
      branches.all (fun branch => branch.head?.any leaf.sameLeaf) := by
  induction moved with
  | nil => rfl
  | cons first _ ih =>
      rw [List.all_cons, List.all_cons, ih]
      cases first with
      | nil => rfl
      | cons head _ =>
          simp only [List.head?_cons, Option.any_some]
          rw [isLeaf.sameLeaf head]

theorem moved_tails {branches branches' : List (List Regex)}
    (moved : List.Forall₂ (List.Forall₂ (Moved amount)) branches branches') :
    List.Forall₂ (List.Forall₂ (Moved amount)) (branches.map List.tail) (branches'.map List.tail) := by
  rw [List.forall₂_map_left_iff, List.forall₂_map_right_iff]
  refine moved.imp fun _ _ branch => ?_
  cases branch with
  | nil => exact .nil
  | cons _ others => exact others

theorem Moved.commonStart {branches branches' : List (List Regex)}
    (moved : List.Forall₂ (List.Forall₂ (Moved amount)) branches branches') (bound : Nat) :
    List.Forall₂ (Moved amount) (commonStart branches bound).1 (commonStart branches' bound).1 ∧
      List.Forall₂ (List.Forall₂ (Moved amount)) (commonStart branches bound).2
        (commonStart branches' bound).2 := by
  induction bound generalizing branches branches' with
  | zero => exact ⟨.nil, moved⟩
  | succ bound ih =>
      have tails := ih (moved_tails moved)
      cases moved with
      | nil => exact ⟨.nil, .nil⟩
      | cons first others =>
          cases first with
          | nil => exact ⟨.nil, .cons .nil others⟩
          | cons isLeaf behind =>
              have test := all_sameLeaf isLeaf (.cons (.cons isLeaf behind) others)
              rw [Pattern.commonStart, Pattern.commonStart, test]
              split
              · exact ⟨.cons isLeaf tails.1, tails.2⟩
              · exact ⟨.nil, .cons (.cons isLeaf behind) others⟩

/-- The parts that are made of branches have the numbers of their groups moved up as those of the
branches are. -/
theorem Moved.joinBranches {branches branches' : List (List Regex)}
    (moved : List.Forall₂ (List.Forall₂ (Moved amount)) branches branches') :
    List.Forall₂ (Moved amount) (joinBranches branches) (joinBranches branches') := by
  have length : (branches'.headD []).length = (branches.headD []).length := by
    cases moved with
    | nil => rfl
    | cons first _ => exact first.length_eq.symm
  have parts := Moved.commonStart moved (branches.headD []).length
  unfold Pattern.joinBranches
  cases moved with
  | nil => exact .cons (.char _) .nil
  | @cons branch branch' _ _ first others =>
      cases others with
      | nil => exact first
      | cons second others =>
          dsimp only
          rw [length, mapM_branchItems? parts.2]
          split
          · exact List.rel_append parts.1 (.cons (.char _) .nil)
          · refine List.rel_append parts.1 (.cons (Moved.alternatives ?_) .nil)
            rw [List.forall₂_map_left_iff, List.forall₂_map_right_iff]
            exact parts.2.imp fun _ _ => Moved.sequence

end

end ClassHarvest.Pattern
