import ClassHarvest.Text.Basic

/-!
# Texts with separators between them

What is joined consists of the pieces and the separators.  It is cut into the pieces again, as long as
the separator is in none of them.
-/

namespace ClassHarvest.Text

theorem join_cons_cons (separator t u : Text) (ts : List Text) :
    join separator (t :: u :: ts) = t ++ (separator ++ join separator (u :: ts)) :=
  List.append_assoc t separator _

/-- What holds of the characters of the separator and of all pieces holds of all characters. -/
theorem forall_mem_join {P : CodePoint → Prop} {separator : Text} {ts : List Text}
    (separates : ∀ c ∈ separator, P c) (all : ∀ t ∈ ts, ∀ c ∈ t, P c) :
    ∀ c ∈ join separator ts, P c := by
  induction ts with
  | nil => exact List.forall_mem_nil _
  | cons t ts ih =>
      have first := all t List.mem_cons_self
      have others := ih fun u mem => all u (List.mem_cons_of_mem t mem)
      cases ts with
      | nil => exact first
      | cons u ts =>
          rw [join_cons_cons, List.forall_mem_append, List.forall_mem_append]
          exact ⟨first, separates, others⟩

/-! ## Cutting -/

theorem splitOn_of_not_mem {c : CodePoint} {t : Text} (absent : c ∉ t) : t.splitOn c = [t] := by
  induction t with
  | nil => rfl
  | cons d t ih =>
      rw [List.mem_cons, not_or] at absent
      rw [splitOn, if_neg (Ne.symm absent.1), ih absent.2]

theorem splitOn_append_cons {c : CodePoint} {t : Text} (absent : c ∉ t) (rest : Text) :
    (t ++ c :: rest).splitOn c = t :: rest.splitOn c := by
  induction t with
  | nil =>
      rw [List.nil_append, splitOn, if_pos rfl]
  | cons d t ih =>
      rw [List.mem_cons, not_or] at absent
      rw [List.cons_append, splitOn, if_neg (Ne.symm absent.1), ih absent.2]

/-- Cutting a text that was joined gives what was joined. -/
theorem splitOn_join {c : CodePoint} {ts : List Text} (further : ts ≠ [])
    (absent : ∀ t ∈ ts, c ∉ t) : (join [c] ts).splitOn c = ts := by
  induction ts with
  | nil => exact absurd rfl further
  | cons t ts ih =>
      have first := absent t List.mem_cons_self
      cases ts with
      | nil => exact splitOn_of_not_mem first
      | cons u ts =>
          have others := ih (by simp) fun u mem => absent u (List.mem_cons_of_mem t mem)
          rw [join_cons_cons, List.singleton_append, splitOn_append_cons first, others]

end ClassHarvest.Text
