import ClassHarvest.Proofs.Pattern.Branches

/-!
# Alternatives without a match

Where the first of two branches never matches, the alternatives match as the second branch does, also
after what both branches begin with was taken out in front of them.
-/

namespace ClassHarvest.Pattern

variable {text : Array CodePoint} {flags : Flags}

/-! ## Searching -/

/-- The same place of a match, with the numbers of its groups moved up. -/
structure Match.Moved (amount : Nat) (found found' : Match) : Prop where
  /-- Where it begins. -/
  start : found'.start = found.start
  /-- Where it ends. -/
  stop : found'.stop = found.stop
  /-- What the groups matched. -/
  marks : found.marks.Moved amount found'.marks

section

variable {amount : Nat} {r r' : Regex}

theorem same_search (moved : Moved amount r r') (advance : Bool) (start bound : Nat) :
    Option.Rel (Match.Moved amount) (r.search flags text advance start bound)
      (r'.search flags text advance start bound) := by
  have tried (advance : Bool) (start : Nat) : Option.Rel (Match.Moved amount)
      (Regex.search.tryAt r flags text advance start)
      (Regex.search.tryAt r' flags text advance start) := by
    have begins : Cursor.Moved amount ⟨start, []⟩ ⟨start, []⟩ := ⟨rfl, .nil⟩
    have continues : Continues amount (SameAnswer amount)
        (fun cursor => if advance && cursor.position == start then none else some cursor)
        (fun cursor => if advance && cursor.position == start then none else some cursor) := by
      intro next next' moved
      dsimp only
      rw [moved.position]
      split
      · exact .none
      · exact .some moved
    have answer := moved.run text flags (choice_sameAnswer amount) begins continues
    unfold Regex.search.tryAt
    generalize r.run text flags _ _ = found, r'.run text flags _ _ = found' at answer ⊢
    cases answer with
    | none => exact .none
    | some moved => exact .some ⟨rfl, moved.position, moved.marks⟩
  induction bound generalizing advance start with
  | zero => exact tried advance start
  | succ bound ih =>
      have here := tried advance start
      unfold Regex.search
      generalize Regex.search.tryAt r flags text advance start = found,
        Regex.search.tryAt r' flags text advance start = found' at here
      cases here with
      | none => exact ih false (start + 1)
      | some moved => exact .some moved

/-- An expression finds the same matches under other numbers. -/
theorem Moved.matchesFrom (moved : Moved amount r r') (bound : Nat) (advance : Bool) (start : Nat) :
    List.Forall₂ (Match.Moved amount) (r.matchesFrom flags text bound advance start)
      (r'.matchesFrom flags text bound advance start) := by
  induction bound generalizing advance start with
  | zero => exact .nil
  | succ bound ih =>
      rw [Regex.matchesFrom, Regex.matchesFrom]
      split
      · exact .nil
      · have next : Option.Rel (Match.Moved amount)
            (r.search flags text advance start (text.size - start))
            (r'.search flags text advance start (text.size - start)) :=
          same_search moved advance start (text.size - start)
        generalize r.search flags text advance start _ = found,
          r'.search flags text advance start _ = found' at next
        cases next with
        | none => exact .nil
        | some moved =>
            dsimp only
            rw [moved.start, moved.stop]
            exact .cons moved (ih _ _)

theorem search_congr (same : ∀ start ≤ text.size, ∀ k,
    r.run text flags ⟨start, []⟩ k = r'.run text flags ⟨start, []⟩ k) (advance : Bool)
    (start bound : Nat) (inside : start + bound ≤ text.size) :
    r.search flags text advance start bound = r'.search flags text advance start bound := by
  have tried (advance : Bool) (start : Nat) (inside : start ≤ text.size) :
      Regex.search.tryAt r flags text advance start =
        Regex.search.tryAt r' flags text advance start := by
    rw [Regex.search.tryAt, same start inside]
    rfl
  induction bound generalizing advance start with
  | zero => exact tried advance start inside
  | succ bound ih =>
      rw [Regex.search, Regex.search, tried advance start (by omega), ih false (start + 1) (by omega)]

theorem matchesFrom_congr (same : ∀ start ≤ text.size, ∀ k,
    r.run text flags ⟨start, []⟩ k = r'.run text flags ⟨start, []⟩ k) (bound : Nat) (advance : Bool)
    (start : Nat) : r.matchesFrom flags text bound advance start =
      r'.matchesFrom flags text bound advance start := by
  induction bound generalizing advance start with
  | zero => rfl
  | succ bound ih =>
      rw [Regex.matchesFrom, Regex.matchesFrom]
      split
      · rfl
      · rw [search_congr same _ _ _ (by omega)]
        split
        · rfl
        · rw [ih]

/-- Where there is no match at all, none begins anywhere. -/
theorem run_eq_none_of_allMatches (none' : r.allMatches flags text = []) {start : Nat}
    (inside : start ≤ text.size) : r.run text flags ⟨start, []⟩ some = none := by
  have searched : r.search flags text false 0 text.size = none := by
    rw [Regex.allMatches, Regex.matchesFrom, if_neg (by omega)] at none'
    split at none'
    · assumption
    · cases none'
  have all (bound first : Nat) (searched : r.search flags text false first bound = none)
      (behind : first ≤ start) (before : start ≤ first + bound) :
      r.run text flags ⟨start, []⟩ some = none := by
    have tried (isNone : Regex.search.tryAt r flags text false first = none) :
        r.run text flags ⟨first, []⟩ some = none := by
      simpa [Regex.search.tryAt] using isNone
    induction bound generalizing first with
    | zero =>
        obtain rfl : start = first := by omega
        exact tried searched
    | succ bound ih =>
        rw [Regex.search] at searched
        split at searched
        · cases searched
        · next isNone =>
            rcases Nat.eq_or_lt_of_le behind with rfl | behind
            · exact tried isNone
            · refine ih (first + 1) searched behind (by omega) ?_
              intro isNone'
              simpa [Regex.search.tryAt] using isNone'
  exact all text.size 0 searched (Nat.zero_le _) (by omega)

/-- What does not match at all does not match in front of anything. -/
theorem Moved.run_eq_none (moved : Moved 0 r r) {start : Nat}
    (fails : r.run text flags ⟨start, []⟩ some = none) (k : Continuation) :
    r.run text flags ⟨start, []⟩ k = none := by
  have begins : Cursor.Moved 0 ⟨start, []⟩ ⟨start, []⟩ := ⟨rfl, .nil⟩
  have continues : Continues 0 (fun a a' => a.isSome = true → a'.isSome = true) k some :=
    fun _ _ _ _ => rfl
  have answered := moved.run text flags choice_isSome begins continues
  rw [fails] at answered
  exact Option.not_isSome_iff_eq_none.mp fun found => nomatch answered found

end

/-! ## What branches begin with -/

/-- A leaf leads to one place at most. -/
theorem run_leaf {leaf : Regex} (isLeaf : leaf.IsLeaf) (cursor : Cursor) :
    (∀ k, leaf.run text flags cursor k = none) ∨
      ∃ next, ∀ k, leaf.run text flags cursor k = k next := by
  cases leaf with
  | char test =>
      simp only [Regex.run]
      split
      · exact .inr ⟨_, fun _ => rfl⟩
      · exact .inl fun _ => rfl
  | anchor condition =>
      simp only [Regex.run]
      split
      · exact .inr ⟨_, fun _ => rfl⟩
      · exact .inl fun _ => rfl
  | backReference index =>
      simp only [Regex.run]
      split
      · split
        · exact .inr ⟨_, fun _ => rfl⟩
        · exact .inl fun _ => rfl
      · exact .inl fun _ => rfl
  | _ => cases isLeaf

theorem run_sequence_cons (r : Regex) (rs : List Regex) (cursor : Cursor) (k : Continuation) :
    (Regex.sequence (r :: rs)).run text flags cursor k =
      r.run text flags cursor fun next => (Regex.sequence rs).run text flags next k := by
  cases rs with
  | nil => rfl
  | cons =>
      rw [Regex.sequence, Regex.run]
      exact List.cons_ne_nil _ _

/-- Behind leaves that two branches begin with, the second one decides if the first one fails. -/
theorem run_leaves_alt {start : List Regex} (leaves : ∀ leaf ∈ start, leaf.IsLeaf) (xs ys : List Regex)
    {cursor : Cursor} (fails : ∀ k, (Regex.sequence (start ++ xs)).run text flags cursor k = none)
    (k : Continuation) :
    (Regex.sequence (start ++ [.alt (.sequence xs) (.sequence ys)])).run text flags cursor k =
      (Regex.sequence (start ++ ys)).run text flags cursor k := by
  induction start generalizing cursor with
  | nil =>
      rw [List.nil_append] at fails ⊢
      rw [List.nil_append, Regex.sequence, run_alt, fails, Option.none_or]
  | cons leaf start ih =>
      rw [List.forall_mem_cons] at leaves
      simp only [List.cons_append, run_sequence_cons] at fails ⊢
      rcases run_leaf leaves.1 cursor with stops | ⟨next, goesOn⟩
      · rw [stops, stops]
      · rw [goesOn, goesOn]
        exact ih leaves.2 fun k => (goesOn _).symm.trans (fails k)

/-- Where the first of two branches never matches, both together match as the second one does.  The
first one must be more than single characters, since those would make a set together with the second. -/
theorem run_joinBranches {xs ys : List Regex} (proper : ∃ r ∈ xs, ¬ r.IsLeaf) {cursor : Cursor}
    (fails : ∀ k, (Regex.sequence xs).run text flags cursor k = none) (k : Continuation) :
    (Regex.sequence (joinBranches [xs, ys])).run text flags cursor k =
      (Regex.sequence ys).run text flags cursor k := by
  obtain ⟨start, rests, found⟩ : ∃ start rests, commonStart [xs, ys] xs.length = (start, rests) :=
    ⟨_, _, rfl⟩
  obtain ⟨leaves, parts⟩ := commonStart_spec found
  obtain ⟨xs', rests, rfl, rfl, second⟩ := List.map_eq_cons_iff.mp parts.symm
  obtain ⟨ys', rests, rfl, rfl, third⟩ := List.map_eq_cons_iff.mp second
  cases List.map_eq_nil_iff.mp third
  have noItems : branchItems? xs' = none := by
    cases items : branchItems? xs' with
    | none => rfl
    | some _ =>
        obtain ⟨r, mem, noLeaf⟩ := proper
        refine absurd ?_ noLeaf
        rcases List.mem_append.mp mem with mem | mem
        · exact leaves r mem
        · exact isLeaf_of_branchItems items r mem
  have joined : joinBranches [start ++ xs', start ++ ys'] =
      start ++ [.alt (.sequence xs') (.sequence ys')] := by
    rw [joinBranches]
    · simp only [List.headD_cons, found, List.mapM_cons, noItems]
      rfl
    · intro branch same
      cases same
  rw [joined]
  exact run_leaves_alt leaves xs' ys' fails k

end ClassHarvest.Pattern
