import ClassHarvest.Proofs.Pattern.Alternation
import ClassHarvest.Proofs.Pattern.Joining

/-!
# Independence of alternatives

In a text without a match of the first of two patterns, both as alternatives find what the second one
finds alone.
-/

namespace ClassHarvest.Pattern

/-! ## Groups of the class list -/

/-- The names given to the groups of one name, behind groups that were named earlier. -/
def givenTo (name : Text) (earlier names : List Text) : List Text :=
  ((occurrences earlier names).filter (·.1 = name)).map fun entry => aliasOf entry.1 entry.2

theorem givenTo_cons (name : Text) (earlier : List Text) (first : Text) (names : List Text) :
    givenTo name earlier (first :: names) =
      (if first = name then [aliasOf name (earlier.count name)] else []) ++
        givenTo name (earlier ++ [first]) names := by
  rw [givenTo, occurrences, List.filter_cons]
  by_cases same : first = name
  · subst same
    simp [givenTo]
  · simp [givenTo, same]

theorem of_renderFragments {aliases : Aliases} {earlier : List Text} (records : aliases.Records earlier)
    (pieces : List Fragment) (name : Text) : (renderFragments aliases pieces).2.of name =
      aliases.of name ++ givenTo name earlier (pieces.filterMap Fragment.groupName?) := by
  induction pieces generalizing aliases earlier with
  | nil => exact (List.append_nil _).symm
  | cons piece pieces ih =>
      cases piece with
      | verbatim text => exact ih records
      | reference other => exact ih records
      | group other =>
          have behind := ih (records.add other)
          rw [List.filterMap_cons, Fragment.groupName?, givenTo_cons, ← List.append_assoc]
          refine behind.trans (congrArg (· ++ _) ?_)
          rw [Aliases.of_add, records.next]
          by_cases same : other = name
          · subst same
            rw [if_pos rfl, if_pos rfl]
          · rw [if_neg same, if_neg same, List.append_nil]

/-! ## What groups captured -/

section

variable {program program' : Program} {text : Array CodePoint} {found found' : Match}
  {groups groups' : List Text}

theorem firstCaptured_append (absent : ∀ group ∈ groups, program.captured text found group = some none)
    (rest : List Text) :
    firstCaptured program text found (groups ++ rest) = firstCaptured program text found rest := by
  induction groups with
  | nil => rfl
  | cons group groups ih =>
      rw [List.forall_mem_cons] at absent
      rw [List.cons_append, firstCaptured, absent.1]
      exact ih absent.2

theorem firstCaptured_congr (same : List.Forall₂ (fun group group' =>
      program.captured text found group = program'.captured text found' group') groups groups') :
    firstCaptured program text found groups = firstCaptured program' text found' groups' := by
  induction same with
  | nil => rfl
  | cons first _ ih => rw [firstCaptured, firstCaptured, first, ih]

theorem valuesOf_congr {pattern pattern' : ClassPattern} {matches' matches'' : List Match}
    (same : List.Forall₂ (fun found found' => pattern.valueOf text found = pattern'.valueOf text found')
      matches' matches'') (signal : Signal) (asked : Nat) :
    valuesOf pattern text signal asked matches' = valuesOf pattern' text signal asked matches'' := by
  induction same generalizing asked with
  | nil => rfl
  | cons first _ ih => rw [valuesOf, valuesOf, first, ih]

end

section

variable {one other both : Program} {front behind : List Text} {amount : Nat} {xs ys ys' : List Regex}
  {own : List (Text × Nat)} {text : Array CodePoint} {found found' : Match}

/-- The groups of the first pattern take no part in a match of the second one. -/
theorem Joint.captured_below (joint : Joint one other both front behind amount xs ys ys' own)
    (moved : found.Moved amount found') {name : Text} (mem : name ∈ givenNames [] front) :
    both.captured text found' name = some none := by
  rw [← joint.given] at mem
  obtain ⟨⟨name, number⟩, isEntry, rfl⟩ := List.mem_map.mp mem
  have numbered := joint.below _ isEntry
  have isListed : (name, number) ∈ both.names := by
    rw [joint.names]
    exact List.mem_append_left own isEntry
  unfold Program.captured
  rw [lookup_of_mem joint.nodup' isListed, Option.map_some, Marks.span?,
    moved.marks.below number numbered.1 numbered.2]
  rfl

/-- Those of the second pattern capture what they capture alone. -/
theorem Joint.captured_above (joint : Joint one other both front behind amount xs ys ys' own)
    (moved : found.Moved amount found') (text : Array CodePoint) : List.Forall₂ (fun name name' =>
      other.captured text found name = both.captured text found' name')
        (givenNames [] behind) (givenNames front behind) := by
  rw [← joint.given', ← joint.renamed, List.forall₂_map_left_iff, List.forall₂_map_right_iff,
    List.forall₂_iff_zip]
  refine ⟨joint.above.length_eq, fun {entry entry'} mem => ?_⟩
  obtain ⟨isEntry, isEntry'⟩ := List.of_mem_zip mem
  obtain ⟨numbered, isNumber⟩ := List.forall₂_zip joint.above mem
  have isListed : entry' ∈ both.names := by
    rw [joint.names]
    exact List.mem_append_right _ isEntry'
  unfold Program.captured
  rw [lookup_of_mem joint.nodup isEntry, lookup_of_mem joint.nodup' isListed, isNumber, Option.map_some,
    Option.map_some, moved.marks.span? numbered]

/-- The class list is captured as it is captured alone. -/
theorem Joint.firstCaptured_eq (joint : Joint one other both front behind amount xs ys ys' own)
    (moved : found.Moved amount found') (name : Text) :
    firstCaptured both text found' (givenTo name [] front ++ givenTo name front behind) =
      firstCaptured other text found (givenTo name [] behind) := by
  have below : ∀ group ∈ givenTo name [] front, both.captured text found' group = some none := by
    intro group mem
    obtain ⟨entry, isEntry, rfl⟩ := List.mem_map.mp mem
    exact joint.captured_below moved (List.mem_map_of_mem (List.mem_of_mem_filter isEntry))
  rw [firstCaptured_append below]
  refine (firstCaptured_congr ?_).symm
  have captures := joint.captured_above moved text
  rw [givenNames, givenNames, List.forall₂_map_left_iff, List.forall₂_map_right_iff] at captures
  have names : List.Forall₂ Eq ((occurrences [] behind).map (·.1)) ((occurrences front behind).map (·.1)) := by
    rw [map_fst_occurrences, map_fst_occurrences]
    exact List.forall₂_refl behind
  rw [List.forall₂_map_left_iff, List.forall₂_map_right_iff] at names
  have entries : List.Forall₂ (fun entry entry' : Text × Nat => entry.1 = entry'.1 ∧
      other.captured text found (aliasOf entry.1 entry.2) =
        both.captured text found' (aliasOf entry'.1 entry'.2))
      (occurrences [] behind) (occurrences front behind) :=
    List.forall₂_iff_zip.mpr ⟨names.length_eq, fun mem =>
      ⟨List.forall₂_zip names mem, List.forall₂_zip captures mem⟩⟩
  rw [givenTo, givenTo, List.forall₂_map_left_iff, List.forall₂_map_right_iff]
  refine (List.rel_filter (fun entry entry' same => ?_) entries).imp fun _ _ same => same.2
  exact iff_of_eq (congrArg (fun other => decide (other = name) = true) same.1)

/-! ## Alternatives -/

theorem Joint.exists_not_leaf (joint : Joint one other both front behind amount xs ys ys' own)
    (named : front ≠ []) : ∃ r ∈ xs, ¬ r.IsLeaf := by
  by_contra leaves
  have noNames := joint.leaves fun r mem => not_not.mp fun noLeaf => leaves ⟨r, mem, noLeaf⟩
  have given := joint.given
  rw [noNames] at given
  have noFront := map_fst_occurrences [] front
  rw [List.map_eq_nil_iff.mp given.symm] at noFront
  exact named noFront.symm

/-- Where the first pattern has no match, the alternatives match as the second pattern does. -/
theorem Joint.matches_moved (joint : Joint one other both front behind amount xs ys ys' own)
    (named : front ≠ []) (unmatched : one.regex.allMatches one.flags text = []) :
    List.Forall₂ (Match.Moved amount) (other.regex.allMatches other.flags text)
      (both.regex.allMatches both.flags text) := by
  rw [joint.regex, joint.flags.1] at unmatched
  rw [joint.regex', joint.joined, joint.flags.2.1, joint.flags.2.2]
  have same (start : Nat) (inside : start ≤ text.size) (k : Continuation) :
      (Regex.sequence (joinBranches [xs, ys'])).run text classFlags ⟨start, []⟩ k =
        (Regex.sequence ys').run text classFlags ⟨start, []⟩ k :=
    run_joinBranches (joint.exists_not_leaf named)
      (Moved.run_eq_none (Moved.sequence joint.stays) (run_eq_none_of_allMatches unmatched inside)) k
  unfold Regex.allMatches
  rw [matchesFrom_congr same]
  exact (Moved.sequence joint.moved).matchesFrom _ _ _

end

end ClassHarvest.Pattern
