import ClassHarvest.Text.Basic

/-!
# Lines are read back

The lines of a text that is put together from lines, and of a text with other line ends.
-/

namespace ClassHarvest.Text

/-! ## Where a line ends -/

theorem go_of_inside {c : CodePoint} (joins : isLineEnd c = false) (current rest : Text) :
    lines.go current (c :: rest) = lines.go (c :: current) rest := by
  have noReturn : c.val ≠ 13 := by
    intro isReturn
    simp [isLineEnd, isReturn] at joins
  rw [lines.go.eq_def]
  simp only [noReturn, joins, Bool.false_eq_true, if_false]

theorem go_of_end {c : CodePoint} (noReturn : c.val ≠ 13) (isEnd : isLineEnd c = true)
    (current rest : Text) : lines.go current (c :: rest) = current.reverse :: lines rest := by
  rw [lines.go.eq_def]
  simp only [noReturn, isEnd, if_true, if_false]
  rfl

/-- A carriage return takes a line feed behind it with it. -/
theorem go_of_return_feed {c d : CodePoint} (isReturn : c.val = 13) (isFeed : d.val = 10)
    (current rest : Text) : lines.go current (c :: d :: rest) = current.reverse :: lines rest := by
  rw [lines.go.eq_def]
  simp only [isReturn, isFeed, if_true]
  rfl

theorem go_of_return {c d : CodePoint} (isReturn : c.val = 13) (noFeed : d.val ≠ 10)
    (current rest : Text) :
    lines.go current (c :: d :: rest) = current.reverse :: lines (d :: rest) := by
  rw [lines.go.eq_def]
  simp only [isReturn, noFeed, if_true, if_false]
  rfl

theorem go_lineFeed (current rest : Text) :
    lines.go current (('\n' : CodePoint) :: rest) = current.reverse :: lines rest :=
  go_of_end (by decide) (by decide) current rest

/-- What follows a line feed is cut into lines on its own. -/
theorem go_append_lineFeed (current t rest : Text) :
    lines.go current (t ++ ('\n' : CodePoint) :: rest) =
      lines.go current (t ++ [('\n' : CodePoint)]) ++ lines rest := by
  induction length : t.length using Nat.strongRecOn generalizing current t with
  | ind n ih =>
      subst length
      rcases t with _ | ⟨c, t⟩
      · rw [List.nil_append, List.nil_append, go_lineFeed, go_lineFeed]
        rfl
      have shorter := ih t.length (Nat.lt_succ_self _)
      rw [List.cons_append, List.cons_append]
      by_cases isReturn : c.val = 13
      · rcases t with _ | ⟨d, t⟩
        · rw [List.nil_append, List.nil_append, go_of_return_feed isReturn rfl,
            go_of_return_feed isReturn rfl]
          rfl
        rw [List.cons_append, List.cons_append]
        by_cases isFeed : d.val = 10
        · rw [go_of_return_feed isReturn isFeed, go_of_return_feed isReturn isFeed, List.cons_append]
          exact congrArg _ (ih t.length (Nat.lt_succ_of_lt (Nat.lt_succ_self _)) [] t rfl)
        · rw [go_of_return isReturn isFeed, go_of_return isReturn isFeed, List.cons_append]
          exact congrArg _ (shorter [] (d :: t) rfl)
      · cases isEnd : isLineEnd c with
        | true =>
            rw [go_of_end isReturn isEnd, go_of_end isReturn isEnd, List.cons_append]
            exact congrArg _ (shorter [] t rfl)
        | false =>
            rw [go_of_inside isEnd, go_of_inside isEnd]
            exact shorter (c :: current) t rfl

theorem lines_append_lineFeed (t rest : Text) :
    (t ++ ('\n' : CodePoint) :: rest).lines = (t ++ [('\n' : CodePoint)]).lines ++ rest.lines :=
  go_append_lineFeed [] t rest

/-- Lines are the same whatever ends them. -/
theorem lines_universalNewlines (t : Text) : t.universalNewlines.lines = t.lines := by
  suffices all : ∀ current, lines.go current t.universalNewlines = lines.go current t from all []
  induction t using universalNewlines.induct with
  | case1 => exact fun current => rfl
  | case2 c isReturn d rest isFeed ih =>
      intro current
      rw [universalNewlines, if_pos isReturn]
      simp only [if_pos isFeed]
      rw [go_lineFeed, go_of_return_feed isReturn isFeed]
      exact congrArg (current.reverse :: ·) (ih [])
  | case3 c isReturn d rest noFeed ih =>
      intro current
      rw [universalNewlines, if_pos isReturn]
      simp only [if_neg noFeed]
      rw [go_lineFeed, go_of_return isReturn noFeed]
      exact congrArg (current.reverse :: ·) (ih [])
  | case4 c isReturn =>
      intro current
      rw [universalNewlines, if_pos isReturn, go_lineFeed, lines.go.eq_def current [c]]
      simp only [if_pos isReturn]
      rfl
  | case5 c rest noReturn ih =>
      intro current
      rw [universalNewlines.eq_def]
      simp only [if_neg noReturn]
      cases isEnd : isLineEnd c with
      | true =>
          rw [go_of_end noReturn isEnd, go_of_end noReturn isEnd]
          exact congrArg (current.reverse :: ·) (ih [])
      | false =>
          rw [go_of_inside isEnd, go_of_inside isEnd]
          exact ih (c :: current)

theorem go_line {line : Text} (joins : ∀ c ∈ line, isLineEnd c = false) (current rest : Text) :
    lines.go current (line ++ ('\n' : CodePoint) :: rest) = (current.reverse ++ line) :: lines rest := by
  induction line generalizing current with
  | nil => rw [List.nil_append, go_lineFeed, List.append_nil]
  | cons c line ih =>
      rw [List.cons_append, go_of_inside (joins c List.mem_cons_self),
        ih (fun d mem => joins d (List.mem_cons_of_mem _ mem)), List.reverse_cons, List.append_assoc]
      rfl

/-- A text without line ends is one line. -/
theorem lines_line {line : Text} (joins : ∀ c ∈ line, isLineEnd c = false) (rest : Text) :
    (line ++ ('\n' : CodePoint) :: rest).lines = line :: rest.lines :=
  go_line joins [] rest

end ClassHarvest.Text
