import ClassHarvest.Proofs.Pattern.Fragments
import ClassHarvest.Proofs.Text.Decimal
import Mathlib.Data.List.Nodup

/-!
# Names given to groups

The `n`-th group of a name is called `name__n`.  These names are distinct, and a pattern with them is
not changed when it is written down once more, just if no group has such a name of its own.
-/

namespace ClassHarvest.Pattern

/-! ## Names in order -/

/-- The name of the group that a piece opens. -/
def Fragment.groupName? : Fragment → Option Text
  | .group name => some name
  | _ => none

/-- The names of the groups that a pattern opens, in order. -/
def groupNames (pattern : Text) : List Text :=
  (fragments pattern).filterMap Fragment.groupName?

/-- The name for a group with some groups of the same name before it. -/
def aliasOf (name : Text) : Nat → Text
  | 0 => name
  | earlier + 1 => name ++ "__" ++ Text.ofNat (earlier + 2)

/-- Each of some names with the number of times that it occurs earlier. -/
def occurrences (earlier : List Text) : List Text → List (Text × Nat)
  | [] => []
  | name :: names => (name, earlier.count name) :: occurrences (earlier ++ [name]) names

/-- The names that groups are given, from those that they have. -/
def givenNames (earlier names : List Text) : List Text :=
  (occurrences earlier names).map fun (name, count) => aliasOf name count

/-- No name has an alias that is a name itself. -/
def AliasesAreFree (names : List Text) : Prop :=
  ∀ name ∈ names, ∀ earlier, 0 < earlier → earlier < names.count name → aliasOf name earlier ∉ names

/-! ## Aliases -/

theorem length_lt_aliasOf (name : Text) (earlier : Nat) :
    name.length < (aliasOf name (earlier + 1)).length := by
  have two : ("__" : Text).length = 2 := rfl
  rw [aliasOf, List.length_append, List.length_append, two]
  omega

/-- The digits of an alias are its longest end of digits, and the name is what stands before them. -/
theorem aliasOf_succ_inj {name other : Text} {n m : Nat}
    (same : aliasOf name (n + 1) = aliasOf other (m + 1)) : name = other ∧ n = m := by
  have digits (name : Text) (n : Nat) :
      ((aliasOf name (n + 1)).reverse.takeWhile CodePoint.isAsciiDigit).reverse =
        Text.ofNat (n + 2) := by
    have underscore : CodePoint.isAsciiDigit '_' = false := rfl
    have ending : ("__" : Text).reverse = [('_' : CodePoint), ('_' : CodePoint)] := rfl
    have parts : (name ++ "__").reverse = ('_' : CodePoint) :: ('_' : CodePoint) :: name.reverse := by
      rw [List.reverse_append, ending]
      rfl
    rw [aliasOf, List.reverse_append, List.takeWhile_append_of_pos, parts, List.takeWhile_cons,
      underscore]
    · simp
    · intro c mem
      exact Text.isAsciiDigit_of_mem_ofNat (List.mem_reverse.mp mem)
  have sameDigits : Text.ofNat (n + 2) = Text.ofNat (m + 2) := by rw [← digits name, same, digits]
  have sameNumber := congrArg Text.decimalValue sameDigits
  rw [Text.decimalValue_ofNat, Text.decimalValue_ofNat] at sameNumber
  rw [aliasOf, aliasOf, sameDigits, List.append_assoc, List.append_assoc] at same
  exact ⟨List.append_cancel_right same, by omega⟩

theorem isWord_of_isAsciiDigit {c : CodePoint} (isDigit : c.isAsciiDigit = true) :
    c.isWord = true := by
  have all : ∀ n : Fin 10, (CodePoint.ofNat (48 + n)).isWord = true := by decide +kernel
  simp only [CodePoint.isAsciiDigit, Bool.and_eq_true, decide_eq_true_eq] at isDigit
  have isC := all ⟨c.val - 48, by omega⟩
  rwa [show 48 + (c.val - 48) = c.val by omega, CodePoint.ofNat_val] at isC

theorem IsGroupName.aliasOf {name : Text} (isName : IsGroupName name) (earlier : Nat) :
    IsGroupName (aliasOf name earlier) := by
  cases earlier with
  | zero => exact isName
  | succ earlier =>
      cases isName with
      | @mk c others first words =>
          have underscores : ∀ d ∈ ("__" : Text), d.isWord = true := by decide +kernel
          have all : ∀ d ∈ others ++ "__" ++ Text.ofNat (earlier + 2), d.isWord = true := by
            rw [List.forall_mem_append, List.forall_mem_append]
            exact ⟨⟨words, underscores⟩, fun d isDigit =>
              isWord_of_isAsciiDigit (Text.isAsciiDigit_of_mem_ofNat isDigit)⟩
          exact .mk first all

/-! ## Occurrences -/

theorem mem_occurrences_iff {earlier names : List Text} {name : Text} {count : Nat} :
    (name, count) ∈ occurrences earlier names ↔
      earlier.count name ≤ count ∧ count < earlier.count name + names.count name := by
  induction names generalizing earlier with
  | nil =>
      simp only [occurrences, List.not_mem_nil, List.count_nil, false_iff]
      omega
  | cons first names ih =>
      rw [occurrences, List.mem_cons, ih, List.count_append, Prod.mk.injEq]
      by_cases same : first = name
      · subst same
        simp only [List.count_cons_self, List.count_nil, true_and]
        omega
      · simp only [List.count_cons_of_ne same, List.count_nil, Nat.add_zero, Ne.symm same, false_and,
          false_or]

theorem nodup_occurrences (earlier names : List Text) : (occurrences earlier names).Nodup := by
  induction names generalizing earlier with
  | nil => exact List.nodup_nil
  | cons first names ih =>
      rw [occurrences, List.nodup_cons, mem_occurrences_iff, List.count_append,
        List.count_singleton_self]
      exact ⟨by omega, ih _⟩

theorem map_fst_occurrences (earlier names : List Text) :
    (occurrences earlier names).map (·.1) = names := by
  induction names generalizing earlier with
  | nil => rfl
  | cons first names ih => rw [occurrences, List.map_cons, ih]

theorem occurrences_append (earlier names more : List Text) :
    occurrences earlier (names ++ more) =
      occurrences earlier names ++ occurrences (earlier ++ names) more := by
  induction names generalizing earlier with
  | nil => rw [List.nil_append, List.append_nil, occurrences, List.nil_append]
  | cons first names ih =>
      rw [List.cons_append, occurrences, ih, occurrences, List.append_assoc, List.singleton_append,
        List.cons_append]

/-! ## Distinct names -/

/-- The names given to groups are distinct just if no alias is a name of another group. -/
theorem nodup_givenNames_iff (names : List Text) :
    (givenNames [] names).Nodup ↔ AliasesAreFree names := by
  have counted {name : Text} {count : Nat} :
      (name, count) ∈ occurrences [] names ↔ count < names.count name := by
    rw [mem_occurrences_iff, List.count_nil, Nat.zero_add]
    exact and_iff_right (Nat.zero_le count)
  rw [givenNames, List.nodup_map_iff_inj_on (nodup_occurrences _ _)]
  constructor
  · intro distinct name _ earlier positive bound taken
    have same := distinct (name, earlier) (counted.mpr bound) (aliasOf name earlier, 0)
      (counted.mpr (List.count_pos_iff.mpr taken)) rfl
    exact absurd (Prod.mk.inj same).2 (Nat.ne_of_gt positive)
  · rintro free ⟨name, n⟩ mem ⟨other, m⟩ mem' same
    change aliasOf name n = aliasOf other m at same
    have isName := List.count_pos_iff.mp (Nat.zero_lt_of_lt (counted.mp mem))
    have isOther := List.count_pos_iff.mp (Nat.zero_lt_of_lt (counted.mp mem'))
    cases n with
    | zero =>
        cases m with
        | zero => exact Prod.ext same rfl
        | succ m =>
            exact absurd (same ▸ isName) (free other isOther (m + 1) (Nat.succ_pos m) (counted.mp mem'))
    | succ n =>
        cases m with
        | zero =>
            exact absurd (same ▸ isOther) (free name isName (n + 1) (Nat.succ_pos n) (counted.mp mem))
        | succ m =>
            obtain ⟨rfl, rfl⟩ := aliasOf_succ_inj same
            rfl

/-- Names that are distinct are given to groups as they are, and no others. -/
theorem givenNames_eq_self_iff (earlier names : List Text) :
    givenNames earlier names = names ↔ names.Nodup ∧ ∀ name ∈ names, name ∉ earlier := by
  induction names generalizing earlier with
  | nil => exact iff_of_true rfl ⟨List.nodup_nil, List.forall_mem_nil _⟩
  | cons name names ih =>
      have kept : aliasOf name (earlier.count name) = name ↔ name ∉ earlier := by
        rw [← List.count_eq_zero]
        cases earlier.count name with
        | zero => exact iff_of_true rfl rfl
        | succ n =>
            refine iff_of_false (fun same => ?_) (Nat.succ_ne_zero n)
            exact absurd (congrArg List.length same) (Nat.ne_of_gt (length_lt_aliasOf name n))
      have others := ih (earlier ++ [name])
      rw [givenNames] at others ⊢
      rw [occurrences, List.map_cons, List.cons.injEq, kept, others, List.nodup_cons,
        List.forall_mem_cons]
      simp only [List.mem_append, List.mem_singleton, not_or]
      constructor
      · rintro ⟨absent, nodup, apart⟩
        exact ⟨⟨fun mem => (apart name mem).2 rfl, nodup⟩, absent, fun other mem => (apart other mem).1⟩
      · rintro ⟨⟨fresh, nodup⟩, absent, apart⟩
        exact ⟨absent, nodup, fun other mem => ⟨apart other mem, fun same => fresh (same ▸ mem)⟩⟩

/-! ## The record of given names -/

namespace Aliases

variable {aliases : Aliases} {name given : Text} {names : List Text}

theorem of_cons (first : Text × List Text) (aliases : Aliases) (name : Text) :
    Aliases.of (first :: aliases) name = if first.1 = name then first.2 else aliases.of name := by
  unfold Aliases.of
  rw [List.lookup_cons]
  by_cases same : first.1 = name
  · rw [if_pos same, beq_iff_eq.mpr same.symm]
    rfl
  · rw [if_neg same, beq_eq_false_iff_ne.mpr (Ne.symm same)]

/-- One more name for the groups of a name that is known. -/
def extend (aliases : Aliases) (name given : Text) : Aliases :=
  aliases.map fun (n, names) => if n = name then (n, names ++ [given]) else (n, names)

theorem extend_cons (first : Text × List Text) (aliases : Aliases) (name given : Text) :
    extend (first :: aliases) name given =
      (if first.1 = name then (first.1, first.2 ++ [given]) else first) ::
        aliases.extend name given :=
  rfl

theorem add_eq (aliases : Aliases) (name given : Text) : aliases.add name given =
    if name ∈ aliases.map (·.1) then aliases.extend name given else aliases ++ [(name, [given])] := by
  have known : aliases.any (·.1 == name) = true ↔ name ∈ aliases.map (·.1) := by
    simp [List.any_eq_true]
  rw [add]
  simp only [known]
  rfl

theorem map_fst_extend (aliases : Aliases) (name given : Text) :
    (aliases.extend name given).map (·.1) = aliases.map (·.1) := by
  rw [extend, List.map_map]
  refine List.map_congr_left fun first _ => ?_
  simp only [Function.comp_apply]
  split <;> rfl

theorem extend_of_not_mem (unknown : name ∉ aliases.map (·.1)) (given : Text) :
    aliases.extend name given = aliases := by
  induction aliases with
  | nil => rfl
  | cons first aliases ih =>
      rw [List.map_cons, List.mem_cons, not_or] at unknown
      rw [extend_cons, if_neg (Ne.symm unknown.1), ih unknown.2]

theorem of_eq_nil_of_not_mem (unknown : name ∉ aliases.map (·.1)) : aliases.of name = [] := by
  induction aliases with
  | nil => rfl
  | cons first aliases ih =>
      rw [List.map_cons, List.mem_cons, not_or] at unknown
      rw [of_cons, if_neg (Ne.symm unknown.1), ih unknown.2]

theorem of_extend (known : name ∈ aliases.map (·.1)) (given other : Text) :
    (aliases.extend name given).of other =
      if name = other then aliases.of name ++ [given] else aliases.of other := by
  induction aliases with
  | nil => cases known
  | cons first aliases ih =>
      rw [extend_cons, of_cons, of_cons, of_cons]
      by_cases isFirst : first.1 = name
      · subst isFirst
        by_cases same : first.1 = other
        · simp [same]
        · by_cases behind : first.1 ∈ aliases.map (·.1)
          · simp [same, ih behind]
          · simp [same, extend_of_not_mem behind]
      · have known : name ∈ aliases.map (·.1) :=
          (List.mem_cons.mp known).resolve_left (Ne.symm isFirst)
        rw [if_neg isFirst, ih known]
        by_cases same : name = other
        · subst same
          simp [isFirst]
        · simp [same]

theorem of_add (aliases : Aliases) (name given other : Text) :
    (aliases.add name given).of other =
      if name = other then aliases.of name ++ [given] else aliases.of other := by
  rw [add_eq]
  split
  · next known => exact of_extend known given other
  · next unknown =>
      have onlyNew : (aliases ++ [(name, [given])]).of other =
          if name = other then [given] else aliases.of other := by
        induction aliases with
        | nil => rw [List.nil_append, of_cons]
        | cons first aliases ih =>
            rw [List.map_cons, List.mem_cons, not_or] at unknown
            rw [List.cons_append, of_cons, of_cons, ih unknown.2]
            by_cases same : name = other
            · subst same
              simp [Ne.symm unknown.1]
            · simp [same]
      rw [onlyNew, of_eq_nil_of_not_mem unknown, List.nil_append]

theorem nodup_add (nodup : (aliases.map (·.1)).Nodup) (name given : Text) :
    ((aliases.add name given).map (·.1)).Nodup := by
  rw [add_eq]
  split
  · rw [map_fst_extend]
    exact nodup
  · next unknown =>
      rw [List.map_append, List.nodup_append]
      refine ⟨nodup, List.nodup_singleton name, fun key mem other isName same => ?_⟩
      obtain rfl : other = name := List.mem_singleton.mp isName
      exact unknown (same ▸ mem)

theorem flatMap_extend_perm (nodup : (aliases.map (·.1)).Nodup) (known : name ∈ aliases.map (·.1))
    (given : Text) : ((aliases.extend name given).flatMap (·.2)).Perm
      (aliases.flatMap (·.2) ++ [given]) := by
  induction aliases with
  | nil => cases known
  | cons first aliases ih =>
      rw [List.map_cons, List.nodup_cons] at nodup
      rw [extend_cons, List.flatMap_cons, List.flatMap_cons]
      by_cases isFirst : first.1 = name
      · rw [if_pos isFirst, extend_of_not_mem (isFirst ▸ nodup.1), List.append_assoc, List.append_assoc]
        exact List.perm_append_comm.append_left _
      · rw [if_neg isFirst, List.append_assoc]
        exact (ih nodup.2 ((List.mem_cons.mp known).resolve_left (Ne.symm isFirst))).append_left _

theorem flatMap_add_perm (nodup : (aliases.map (·.1)).Nodup) (name given : Text) :
    ((aliases.add name given).flatMap (·.2)).Perm (aliases.flatMap (·.2) ++ [given]) := by
  rw [add_eq]
  split
  · next known => exact flatMap_extend_perm nodup known given
  · rw [List.flatMap_append]
    rfl

/-- The aliases after groups of some names were named. -/
structure Records (aliases : Aliases) (names : List Text) : Prop where
  /-- Every name has one entry. -/
  nodup : (aliases.map (·.1)).Nodup
  /-- The entry of a name has as many given names as it has groups. -/
  length_of : ∀ name, (aliases.of name).length = names.count name
  /-- All entries together hold the given names. -/
  perm : (aliases.flatMap (·.2)).Perm (givenNames [] names)

theorem Records.next (records : aliases.Records names) (name : Text) :
    aliases.next name = aliasOf name (names.count name) := by
  rw [Aliases.next, records.length_of]
  cases names.count name <;> rfl

theorem Records.nil : Records [] [] :=
  ⟨List.nodup_nil, fun _ => rfl, .refl _⟩

theorem Records.add (records : aliases.Records names) (name : Text) :
    (aliases.add name (aliases.next name)).Records (names ++ [name]) where
  nodup := nodup_add records.nodup _ _
  length_of other := by
    rw [of_add, List.count_append]
    by_cases same : name = other
    · subst same
      rw [if_pos rfl, List.length_append, records.length_of, List.count_singleton_self]
      rfl
    · rw [if_neg same, records.length_of, List.count_singleton, if_neg (by simpa using same)]
      rfl
  perm := by
    have one : givenNames names [name] = [aliases.next name] := by
      rw [records.next]
      rfl
    have all : givenNames [] (names ++ [name]) = givenNames [] names ++ [aliases.next name] := by
      rw [← one, givenNames, occurrences_append, List.map_append, List.nil_append]
      rfl
    rw [all]
    exact (flatMap_add_perm records.nodup _ _).trans (records.perm.append_right _)

end Aliases

/-! ## Groups with given names -/

/-- The pieces with the names that their groups are given. -/
def nameGroups : Aliases → List Fragment → List Fragment
  | _, [] => []
  | aliases, .group name :: pieces =>
    .group (aliases.next name) :: nameGroups (aliases.add name (aliases.next name)) pieces
  | aliases, .reference name :: pieces => .reference name :: nameGroups aliases pieces
  | aliases, .verbatim text :: pieces => .verbatim text :: nameGroups aliases pieces

variable {aliases : Aliases} {names : List Text}

theorem renderFragments_fst (aliases : Aliases) (pieces : List Fragment) :
    (renderFragments aliases pieces).1 = (nameGroups aliases pieces).flatMap Fragment.written := by
  induction pieces generalizing aliases with
  | nil => rfl
  | cons piece pieces ih =>
      cases piece with
      | verbatim text => exact congrArg (text ++ ·) (ih aliases)
      | reference name =>
          have behind := ih aliases
          change "(?P=" ++ name ++ ")" ++ (renderFragments aliases pieces).1 = _
          rw [behind, nameGroups, List.flatMap_cons]
          simp [Fragment.written, Text.ofString]
      | group name =>
          have behind := ih (aliases.add name (aliases.next name))
          change "(?P<" ++ aliases.next name ++ ">" ++ (renderFragments _ pieces).1 = _
          rw [behind, nameGroups, List.flatMap_cons]
          simp [Fragment.written, bracketed, Text.ofString]

theorem renderFragments_snd (records : aliases.Records names) (pieces : List Fragment) :
    (renderFragments aliases pieces).2.Records (names ++ pieces.filterMap Fragment.groupName?) := by
  induction pieces generalizing aliases names with
  | nil => simpa [renderFragments] using records
  | cons piece pieces ih =>
      cases piece with
      | verbatim text => exact ih records
      | reference name => exact ih records
      | group name =>
          have behind := ih (records.add name)
          rw [List.append_assoc] at behind
          exact behind

theorem nameGroups_names (records : aliases.Records names) (pieces : List Fragment) :
    (nameGroups aliases pieces).filterMap Fragment.groupName? =
      givenNames names (pieces.filterMap Fragment.groupName?) := by
  induction pieces generalizing aliases names with
  | nil => rfl
  | cons piece pieces ih =>
      cases piece with
      | verbatim text => exact ih records
      | reference name => exact ih records
      | group name =>
          have behind := ih (records.add name)
          rw [records.next] at behind
          exact congrArg₂ _ (records.next name) (by rw [records.next]; exact behind)

/-- If all groups keep their names, nothing is changed. -/
theorem nameGroups_eq_self {pieces : List Fragment}
    (same : (nameGroups aliases pieces).filterMap Fragment.groupName? =
      pieces.filterMap Fragment.groupName?) : nameGroups aliases pieces = pieces := by
  induction pieces generalizing aliases with
  | nil => rfl
  | cons piece pieces ih =>
      cases piece with
      | verbatim text => exact congrArg _ (ih same)
      | reference name => exact congrArg _ (ih same)
      | group name =>
          have parts := List.cons.inj same
          exact congrArg₂ _ (congrArg _ parts.1) (ih parts.2)

theorem Cuts.samePieces {t : Text} {pieces : List Fragment} (cuts : Cuts t pieces)
    (records : aliases.Records names) : List.Forall₂ SamePiece pieces (nameGroups aliases pieces) := by
  induction cuts generalizing aliases names with
  | nil => exact .nil
  | @cons _ _ piece _ leads _ ih =>
      cases leads with
      | reference => exact .cons .reference (ih records)
      | @group _ name _ _ isName =>
          refine .cons (.group ?_) (ih (records.add name))
          rw [records.next]
          exact isName.aliasOf _
      | escape => exact .cons .verbatim (ih records)
      | single => exact .cons .verbatim (ih records)

/-! ## Patterns in the spelling of the reader -/

theorem written_recut (piece : Fragment) :
    piece.recut.flatMap Fragment.written = piece.written := by
  cases piece with
  | group name => simp [Fragment.recut]
  | verbatim text => simp [Fragment.recut]
  | reference name =>
      rw [Fragment.recut, List.flatMap_map]
      exact List.flatMap_singleton' _

theorem groupName_recut (piece : Fragment) :
    piece.recut.filterMap Fragment.groupName? = piece.groupName?.toList := by
  cases piece with
  | group name => rfl
  | verbatim text => rfl
  | reference name =>
      rw [Fragment.recut, List.filterMap_map]
      exact List.filterMap_eq_nil_iff.mpr fun c _ => rfl

theorem normalize_fst (pattern : Text) :
    (normalize pattern).1 = (nameGroups [] (fragments pattern)).flatMap Fragment.written :=
  renderFragments_fst [] _

theorem normalize_snd (pattern : Text) : (normalize pattern).2.Records (groupNames pattern) :=
  renderFragments_snd Aliases.Records.nil _

/-- A pattern in the spelling of the reader is cut where the pattern was cut. -/
theorem fragments_normalize (pattern : Text) : fragments (normalize pattern).1 =
    (nameGroups [] (fragments pattern)).flatMap Fragment.recut := by
  have cuts := cuts_fragments pattern
  rw [normalize_fst]
  exact (cuts.written (cuts.samePieces Aliases.Records.nil)).1.fragments_eq

/-- The groups of a pattern in the spelling of the reader have the names that were given to them. -/
theorem groupNames_normalize (pattern : Text) :
    groupNames (normalize pattern).1 = givenNames [] (groupNames pattern) := by
  have kept : ∀ pieces : List Fragment, (pieces.flatMap Fragment.recut).filterMap Fragment.groupName? =
      pieces.filterMap Fragment.groupName? := by
    intro pieces
    rw [List.filterMap_flatMap, funext groupName_recut]
    induction pieces with
    | nil => rfl
    | cons piece pieces ih =>
        rw [List.flatMap_cons, ih, List.filterMap_cons]
        cases piece.groupName? <;> rfl
  rw [groupNames, fragments_normalize, kept]
  exact nameGroups_names Aliases.Records.nil _

/-- A pattern in the spelling of the reader stays as it is just if its groups have distinct names. -/
theorem normalize_eq_self_iff (pattern : Text) :
    (normalize (normalize pattern).1).1 = (normalize pattern).1 ↔
      (groupNames (normalize pattern).1).Nodup := by
  have distinct := givenNames_eq_self_iff [] (groupNames (normalize pattern).1)
  constructor
  · intro same
    have names := groupNames_normalize (normalize pattern).1
    rw [same] at names
    exact (distinct.mp names.symm).1
  · intro nodup
    have kept := distinct.mpr ⟨nodup, fun name _ => List.not_mem_nil⟩
    have same : nameGroups [] (fragments (normalize pattern).1) = fragments (normalize pattern).1 :=
      nameGroups_eq_self ((nameGroups_names Aliases.Records.nil _).trans kept)
    have rewritten := normalize_fst (normalize pattern).1
    rw [same, fragments_normalize, List.flatMap_assoc, funext written_recut,
      ← normalize_fst] at rewritten
    exact rewritten

/-- The names given to the groups of a pattern are distinct, and the pattern with them stays as it is
when it is translated again, just if no group is called `name__k` where at least `k` groups are called
`name`. -/
theorem normalize_distinct_iff (pattern : Text) :
    (((normalize pattern).2.flatMap (·.2)).Nodup ↔ AliasesAreFree (groupNames pattern)) ∧
      ((normalize (normalize pattern).1).1 = (normalize pattern).1 ↔
        AliasesAreFree (groupNames pattern)) := by
  constructor
  · rw [(normalize_snd pattern).perm.nodup_iff, nodup_givenNames_iff]
  · rw [normalize_eq_self_iff, groupNames_normalize, nodup_givenNames_iff]

/-- Two groups get the same name when the alias of one is the name of the other. -/
example : (normalize "(?<a>x)(?<a>y)(?<a__2>z)").1 = "(?P<a>x)(?P<a__2>y)(?P<a__2>z)" := by
  decide +kernel

end ClassHarvest.Pattern
