import Mathlib.Data.List.Basic

/-!
# Lists with marks

A mark that occurs nowhere inside the parts of a list tells where they end, so lists that are made of
parts and marks are made of the same parts.
-/

namespace ClassHarvest

variable {α : Type}

/-- What stands before the first mark, and what behind it, is told by a list that has one. -/
theorem cons_inj_of_not_mem {c : α} {s t s' t' : List α} (outside : c ∉ s)
    (outside' : c ∉ s') (same : s ++ c :: t = s' ++ c :: t') : s = s' ∧ t = t' := by
  induction s generalizing s' with
  | nil =>
      cases s' with
      | nil => exact ⟨rfl, (List.cons.inj same).2⟩
      | cons d s' =>
          have first := (List.cons.inj same).1
          exact absurd (first ▸ List.mem_cons_self) outside'
  | cons d s ih =>
      cases s' with
      | nil =>
          have first := (List.cons.inj same).1
          exact absurd (first ▸ List.mem_cons_self) outside
      | cons d' s' =>
          obtain ⟨rfl, rest⟩ := List.cons.inj same
          obtain ⟨rfl, rfl⟩ := ih (fun mem => outside (List.mem_cons_of_mem _ mem))
            (fun mem => outside' (List.mem_cons_of_mem _ mem)) rest
          exact ⟨rfl, rfl⟩

/-- Parts that are closed by a mark are told by what they make together. -/
theorem flatMap_closed_inj {mark : α} {parts parts' : List (List α)}
    (free : ∀ part ∈ parts, mark ∉ part) (free' : ∀ part ∈ parts', mark ∉ part)
    (same : parts.flatMap (· ++ [mark]) = parts'.flatMap (· ++ [mark])) : parts = parts' := by
  induction parts generalizing parts' with
  | nil =>
      cases parts' with
      | nil => rfl
      | cons part' parts' => simp at same
  | cons part parts ih =>
      cases parts' with
      | nil => simp at same
      | cons part' parts' =>
          rw [List.forall_mem_cons] at free free'
          simp only [List.flatMap_cons, List.append_assoc, List.singleton_append] at same
          obtain ⟨rfl, others⟩ := cons_inj_of_not_mem free.1 free'.1 same
          rw [ih free.2 free'.2 others]

end ClassHarvest
