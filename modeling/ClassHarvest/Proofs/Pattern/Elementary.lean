import ClassHarvest.Proofs.Pattern.GroupNames
import ClassHarvest.Proofs.Pattern.Twins

/-!
# Elementary patterns

Patterns without numbered references, conditions, assertions and flags, told by their pieces.  Two such
patterns that are joined by `|` are cut into pieces one by one, and the groups of the second one are
named after those of the first one.
-/

namespace ClassHarvest.Pattern

/-! ## Pieces -/

/-- The pieces of a token: an escaped line feed makes two of them. -/
def Token.pieces : Token → List Fragment
  | .plain c => [.verbatim [c]]
  | .escaped c =>
    if c.val = 10 then [.verbatim [('\\' : CodePoint)], .verbatim [c]]
    else [.verbatim [('\\' : CodePoint), c]]

/-- The pieces of a pattern without numbered references, conditions, assertions and flags. -/
inductive Elementary : List Fragment → Prop
  /-- Nothing. -/
  | nil : Elementary []
  /-- A token. -/
  | token {t : Token} {pieces : List Fragment} (proper : t.IsProper)
      (part : t.IsPart (∃ a b others, pieces = .verbatim [a] :: .verbatim [b] :: others ∧
        a.isOctalDigit = true ∧ b.isOctalDigit = true)) (behind : Elementary pieces) : Elementary (t.pieces ++ pieces)
  /-- A set. -/
  | set {body : List Token} {pieces : List Fragment} (isBody : IsSetBody body)
      (proper : ∀ t ∈ body, t.IsProper) (behind : Elementary pieces) :
      Elementary (.verbatim [('[' : CodePoint)] ::
        (body.flatMap Token.pieces ++ .verbatim [(']' : CodePoint)] :: pieces))
  /-- The opening of a group without a name. -/
  | opening {pieces : List Fragment} (bare : pieces.head? ≠ some (.verbatim [('?' : CodePoint)]))
      (behind : Elementary pieces) : Elementary (.verbatim [('(' : CodePoint)] :: pieces)
  /-- The opening of a group that does not capture. -/
  | bundle {c : CodePoint} {pieces : List Fragment} (kind : c = ':' ∨ c = '>')
      (behind : Elementary pieces) :
      Elementary (.verbatim [('(' : CodePoint)] :: .verbatim [('?' : CodePoint)] :: .verbatim [c] ::
        pieces)
  /-- A comment. -/
  | comment {body : List Token} {pieces : List Fragment} (proper : ∀ t ∈ body, t.IsProper)
      (inside : .plain ')' ∉ body) (behind : Elementary pieces) :
      Elementary (.verbatim [('(' : CodePoint)] :: .verbatim [('?' : CodePoint)] ::
        .verbatim [('#' : CodePoint)] ::
          (body.flatMap Token.pieces ++ .verbatim [(')' : CodePoint)] :: pieces))
  /-- The opening of a group with a name. -/
  | group {name : Text} {pieces : List Fragment} (isName : IsGroupName name)
      (behind : Elementary pieces) : Elementary (.group name :: pieces)
  /-- A reference. -/
  | reference {name : Text} {pieces : List Fragment} (isName : IsGroupName name)
      (behind : Elementary pieces) : Elementary (.reference name :: pieces)

/-- A character that stands for itself. -/
theorem Elementary.verbatim {c : CodePoint} {pieces : List Fragment}
    (other : c.val ≠ 92 ∧ c ∉ ("([" : Text)) (behind : Elementary pieces) :
    Elementary (.verbatim [c] :: pieces) :=
  .token (t := .plain c) other.1 other.2 behind

theorem Token.written_pieces (t : Token) : t.pieces.flatMap Fragment.written = t.text := by
  cases t with
  | plain c => rfl
  | escaped c =>
      rw [pieces]
      split <;> rfl

theorem written_bodies (body : List Token) :
    (body.flatMap Token.pieces).flatMap Fragment.written = texts body := by
  rw [List.flatMap_assoc, funext Token.written_pieces]
  rfl

/-! ## Names -/

variable {aliases aliases' : Aliases} {pieces : List Fragment}

theorem nameGroups_pieces (aliases : Aliases) (t : Token) (pieces : List Fragment) :
    nameGroups aliases (t.pieces ++ pieces) = t.pieces ++ nameGroups aliases pieces := by
  cases t with
  | plain c => rfl
  | escaped c =>
      rw [Token.pieces]
      split <;> rfl

theorem nameGroups_bodies (aliases : Aliases) (body : List Token) (pieces : List Fragment) :
    nameGroups aliases (body.flatMap Token.pieces ++ pieces) =
      body.flatMap Token.pieces ++ nameGroups aliases pieces := by
  induction body with
  | nil => rfl
  | cons t body ih =>
      rw [List.flatMap_cons, List.append_assoc, List.append_assoc, nameGroups_pieces, ih]

theorem groupNames_pieces (t : Token) : t.pieces.filterMap Fragment.groupName? = [] := by
  cases t with
  | plain c => rfl
  | escaped c =>
      rw [Token.pieces]
      split <;> rfl

theorem groupNames_bodies (body : List Token) :
    (body.flatMap Token.pieces).filterMap Fragment.groupName? = [] := by
  rw [List.filterMap_flatMap, funext groupNames_pieces]
  exact List.flatMap_eq_nil_iff.mpr fun _ _ => rfl

/-- What is written behind a parenthesis that opens a group without a name is no question mark. -/
theorem Elementary.head_ne (elementary : Elementary pieces)
    (bare : pieces.head? ≠ some (.verbatim [('?' : CodePoint)])) (aliases : Aliases) :
    ((nameGroups aliases pieces).flatMap Fragment.written).head? ≠ some ('?' : CodePoint) := by
  cases elementary with
  | nil => exact nofun
  | @token t =>
      rw [nameGroups_pieces, List.flatMap_append, Token.written_pieces]
      cases t with
      | plain c =>
          rintro ⟨⟩
          exact bare rfl
      | escaped c => exact fun here => absurd (Option.some.inj here) (by decide)
  | set => exact fun here => absurd (Option.some.inj here) (by decide)
  | opening => exact fun here => absurd (Option.some.inj here) (by decide)
  | bundle => exact fun here => absurd (Option.some.inj here) (by decide)
  | comment => exact fun here => absurd (Option.some.inj here) (by decide)
  | group => exact fun here => absurd (Option.some.inj here) (by decide)
  | reference => exact fun here => absurd (Option.some.inj here) (by decide)

/-- An elementary pattern and the same one with groups named after those of another pattern differ in
these names only. -/
theorem Elementary.twins (elementary : Elementary pieces) (kept : Text → Prop) (front : List Text)
    {earlier : List Text} (records : aliases.Records earlier)
    (records' : aliases'.Records (front ++ earlier))
    (references : ∀ name, .reference name ∈ pieces → kept name)
    (apart : ∀ name count, (name, count) ∈ occurrences earlier (pieces.filterMap Fragment.groupName?) →
      kept (aliasOf name count) → name ∉ front) :
    Twins kept ((nameGroups aliases pieces).flatMap Fragment.written)
      ((nameGroups aliases pieces).filterMap Fragment.groupName?)
      ((nameGroups aliases' pieces).flatMap Fragment.written)
      ((nameGroups aliases' pieces).filterMap Fragment.groupName?) := by
  induction elementary generalizing aliases aliases' earlier with
  | nil => exact .nil
  | @token t pieces proper part behind ih =>
      rw [List.filterMap_append, groupNames_pieces, List.nil_append] at apart
      simp only [nameGroups_pieces, List.flatMap_append, Token.written_pieces, List.filterMap_append,
        groupNames_pieces, List.nil_append]
      refine .token proper (part.mono ?_) (ih records records'
        (fun name mem => references name (List.mem_append_right _ mem)) apart)
      rintro ⟨a, b, others, rfl, isA, isB⟩
      exact ⟨a, b, _, rfl, isA, isB⟩
  | @set body pieces isBody proper behind ih =>
      simp only [List.filterMap_cons, Fragment.groupName?, List.filterMap_append, groupNames_bodies,
        List.nil_append] at apart
      simp only [nameGroups, nameGroups_bodies, List.flatMap_cons, List.flatMap_append, written_bodies,
        Fragment.written, List.filterMap_cons, Fragment.groupName?, List.filterMap_append,
        groupNames_bodies, List.nil_append]
      exact .set isBody proper (ih records records' (fun name mem => references name
        (List.mem_cons_of_mem _ (List.mem_append_right _ (List.mem_cons_of_mem _ mem)))) apart)
  | @opening pieces bare behind ih =>
      exact .opening (behind.head_ne bare _) (behind.head_ne bare _) (ih records records'
        (fun name mem => references name (List.mem_cons_of_mem _ mem)) apart)
  | @bundle c pieces kind behind ih =>
      exact .bundle kind (ih records records' (fun name mem => references name
        (List.mem_cons_of_mem _ (List.mem_cons_of_mem _ (List.mem_cons_of_mem _ mem)))) apart)
  | @comment body pieces proper inside behind ih =>
      simp only [List.filterMap_cons, Fragment.groupName?, List.filterMap_append, groupNames_bodies,
        List.nil_append] at apart
      simp only [nameGroups, nameGroups_bodies, List.flatMap_cons, List.flatMap_append, written_bodies,
        Fragment.written, List.filterMap_cons, Fragment.groupName?, List.filterMap_append,
        groupNames_bodies, List.nil_append]
      exact .comment proper inside (ih records records' (fun name mem => references name
        (List.mem_cons_of_mem _ (List.mem_cons_of_mem _ (List.mem_cons_of_mem _
          (List.mem_append_right _ (List.mem_cons_of_mem _ mem)))))) apart)
  | @group name pieces isName behind ih =>
      have isFirst := records.next name
      have isFirst' := records'.next name
      rw [List.count_append] at isFirst'
      have more := records'.add name
      rw [List.append_assoc] at more
      have keeps : kept (aliases.next name) → aliases'.next name = aliases.next name := by
        intro isKept
        rw [isFirst] at isKept ⊢
        have fresh := apart name _ List.mem_cons_self isKept
        rw [isFirst', List.count_eq_zero.mpr fresh, Nat.zero_add]
      refine .group ?_ ?_ keeps (ih (records.add name) more
        (fun name mem => references name (List.mem_cons_of_mem _ mem))
        fun other count mem => apart other count (List.mem_cons_of_mem _ mem))
      · rw [isFirst]
        exact isName.aliasOf _
      · rw [isFirst']
        exact isName.aliasOf _
  | @reference name pieces isName behind ih =>
      exact .reference isName (references name List.mem_cons_self) (ih records records'
        (fun name mem => references name (List.mem_cons_of_mem _ mem)) apart)

/-! ## Two patterns joined -/

/-- Two patterns as alternatives, each in a group that does not capture. -/
def joined (first second : Text) : Text :=
  "(?:" ++ first ++ ")|(?:" ++ second ++ ")"

theorem joined_eq (first second : Text) : joined first second =
    ('(' : CodePoint) :: ('?' : CodePoint) :: (':' : CodePoint) :: (first ++ (')' : CodePoint) ::
      ('|' : CodePoint) :: ('(' : CodePoint) :: ('?' : CodePoint) :: (':' : CodePoint) ::
        (second ++ [(')' : CodePoint)])) := by
  simp [joined, Text.ofString]

/-- No backslash is left alone at the end. -/
def Closed (pieces : List Fragment) : Prop :=
  pieces.getLast? ≠ some (.verbatim [('\\' : CodePoint)])

theorem closed_append {pieces others : List Fragment} (closed : Closed pieces)
    (closed' : Closed others) : Closed (pieces ++ others) := by
  unfold Closed at closed closed' ⊢
  rw [List.getLast?_append]
  cases last : others.getLast? with
  | none => exact closed
  | some piece =>
      rw [last] at closed'
      exact closed'

theorem closed_cons {piece : Fragment} (other : piece ≠ .verbatim [('\\' : CodePoint)])
    (closed : Closed pieces) : Closed (piece :: pieces) :=
  closed_append (fun here => other (Option.some.inj here) : Closed [piece]) closed

theorem Closed.tail {piece : Fragment} (closed : Closed (piece :: pieces)) : Closed pieces := by
  cases pieces with
  | nil => exact nofun
  | cons next pieces =>
      unfold Closed at closed
      rwa [List.getLast?_cons_cons] at closed

theorem Token.IsProper.closed {t : Token} (proper : t.IsProper) : Closed t.pieces := by
  cases t with
  | plain c =>
      rintro ⟨⟩
      exact proper rfl
  | escaped c =>
      rw [Token.pieces]
      split
      · next isLineFeed =>
          rintro ⟨⟩
          exact absurd isLineFeed (by decide)
      · exact nofun

theorem closed_bodies {body : List Token} (proper : ∀ t ∈ body, t.IsProper) :
    Closed (body.flatMap Token.pieces) := by
  induction body with
  | nil => exact nofun
  | cons t body ih =>
      rw [List.forall_mem_cons] at proper
      rw [List.flatMap_cons]
      exact closed_append proper.1.closed (ih proper.2)

theorem Elementary.closed (elementary : Elementary pieces) : Closed pieces := by
  induction elementary with
  | nil => exact nofun
  | token proper _ _ ih => exact closed_append proper.closed ih
  | set _ proper _ ih =>
      exact closed_cons (by decide) (closed_append (closed_bodies proper) (closed_cons (by decide) ih))
  | opening _ _ ih => exact closed_cons (by decide) ih
  | bundle kind _ ih =>
      refine closed_cons (by decide) (closed_cons (by decide) (closed_cons ?_ ih))
      rcases kind with rfl | rfl <;> decide
  | comment proper _ _ ih =>
      refine closed_cons (by decide) (closed_cons (by decide) (closed_cons (by decide) ?_))
      exact closed_append (closed_bodies proper) (closed_cons (by decide) ih)
  | group _ _ ih => exact closed_cons nofun ih
  | reference _ _ ih => exact closed_cons nofun ih

/-- What does not hold a character is read before it. -/
theorem exists_of_append_eq {s q rest after : Text} {c : CodePoint} (absent : c ∉ q)
    (same : s ++ c :: rest = q ++ after) : ∃ behind, s = q ++ behind := by
  rcases List.append_eq_append_iff.mp same with ⟨middle, isQ, isRest⟩ | ⟨middle, isS, _⟩
  · cases middle with
    | nil => exact ⟨[], by rw [isQ, List.append_nil, List.append_nil]⟩
    | cons d middle =>
        obtain ⟨rfl, -⟩ := List.cons.inj isRest
        exact absurd (isQ ▸ List.mem_append_right s List.mem_cons_self) absent
  · exact ⟨middle, isS⟩

theorem IsGroupName.not_mem_bracketed {name : Text} (isName : IsGroupName name) :
    (')' : CodePoint) ∉ bracketed name := by
  have others : ∀ c ∈ name, c.val ≠ 92 ∧ c ≠ (')' : CodePoint) :=
    isName.ne_of_mem (by decide) (by decide +kernel) (by decide)
  rw [bracketed, List.mem_cons, List.mem_append, List.mem_singleton]
  rintro (here | here | here)
  · exact absurd here (by decide)
  · exact (others _ here).2 rfl
  · exact absurd here (by decide)

/-- A parenthesis behind a text makes no group of its beginning. -/
theorem groupOpening_append_eq_none {s : Text} (refuses : groupOpening? s = none) (rest : Text) :
    groupOpening? (s ++ (')' : CodePoint) :: rest) = none := by
  by_contra accepts
  obtain ⟨⟨name, after⟩, found⟩ := Option.ne_none_iff_exists'.mp accepts
  obtain ⟨isName, letter, isLetter, opened⟩ := groupOpening_eq_some_iff.mp found
  have absent : (')' : CodePoint) ∉ ('(' : CodePoint) :: ('?' : CodePoint) :: (letter ++ bracketed name) := by
    rw [List.mem_cons, List.mem_cons, List.mem_append]
    rintro (here | here | here | here)
    · exact absurd here (by decide)
    · exact absurd here (by decide)
    · rcases isLetter with rfl | rfl
      · cases here
      · exact absurd here (by decide)
    · exact isName.not_mem_bracketed here
  obtain ⟨behind, rfl⟩ := exists_of_append_eq absent opened
  have found := groupOpening_eq_some_iff.mpr ⟨isName, letter, isLetter,
    Eq.refl (('(' : CodePoint) :: ('?' : CodePoint) :: (letter ++ bracketed name) ++ behind)⟩
  exact absurd (refuses.symm.trans found) nofun

/-- A parenthesis behind a text makes no reference of its beginning. -/
theorem referenceOpening_append_eq_none {s : Text} (refuses : referenceOpening? s = none) (rest : Text) :
    referenceOpening? (s ++ (')' : CodePoint) :: rest) = none := by
  by_contra accepts
  obtain ⟨⟨name, after⟩, found⟩ := Option.ne_none_iff_exists'.mp accepts
  obtain ⟨isName, opened⟩ := referenceOpening_eq_some_iff.mp found
  have absent : (')' : CodePoint) ∉ ('\\' : CodePoint) :: ('k' : CodePoint) :: bracketed name := by
    rw [List.mem_cons, List.mem_cons]
    rintro (here | here | here)
    · exact absurd here (by decide)
    · exact absurd here (by decide)
    · exact isName.not_mem_bracketed here
  obtain ⟨behind, rfl⟩ := exists_of_append_eq absent opened
  have found := referenceOpening_eq_some_iff.mpr
    ⟨isName, Eq.refl (('\\' : CodePoint) :: ('k' : CodePoint) :: (bracketed name ++ behind))⟩
  exact absurd (refuses.symm.trans found) nofun

/-- A text in front of a parenthesis is cut into the same pieces as alone. -/
theorem Cuts.append {s rest : Text} {others : List Fragment} (cuts : Cuts s pieces)
    (closed : Closed pieces) (behind : Cuts ((')' : CodePoint) :: rest) others) :
    Cuts (s ++ (')' : CodePoint) :: rest) (pieces ++ others) := by
  induction cuts with
  | nil => exact behind
  | @cons t left piece pieces leads cuts ih =>
      have next := ih closed.tail
      cases leads with
      | reference isName =>
          rw [List.cons_append, List.cons_append, List.append_assoc]
          exact .cons (.reference isName) next
      | group isLetter isName =>
          rw [List.append_assoc]
          exact .cons (.group isLetter isName) next
      | escape sameLine refuses =>
          exact .cons (.escape sameLine (referenceOpening_append_eq_none refuses rest)) next
      | @single c left refuses alone =>
          refine .cons (.single (groupOpening_append_eq_none refuses rest) fun isBackslash d mem => ?_) next
          cases left with
          | nil =>
              cases cuts with
              | nil =>
                  obtain rfl : c = '\\' := CodePoint.val_inj isBackslash
                  exact absurd rfl closed
              | cons leads _ => exact absurd leads.shorter (Nat.not_lt_zero _)
          | cons e left => exact alone isBackslash d mem

/-- Characters that are cut off one by one. -/
def singles (s : Text) : List Fragment :=
  s.map fun c => .verbatim [c]

/-- Two patterns that are joined are cut into their pieces. -/
theorem fragments_joined {first second : Text} (closed : Closed (fragments first))
    (closed' : Closed (fragments second)) : fragments (joined first second) =
      singles "(?:" ++ (fragments first ++ (singles ")|(?:" ++ (fragments second ++ singles ")"))) := by
  have noGroup (rest : Text) :
      groupOpening? (('(' : CodePoint) :: ('?' : CodePoint) :: (':' : CodePoint) :: rest) = none := by
    by_contra accepts
    obtain ⟨⟨name, after⟩, found⟩ := Option.ne_none_iff_exists'.mp accepts
    obtain ⟨_, letter, rfl | rfl, opened⟩ := groupOpening_eq_some_iff.mp found
    · exact absurd (List.cons.inj (List.cons.inj (List.cons.inj opened).2).2).1 (by decide)
    · exact absurd (List.cons.inj (List.cons.inj (List.cons.inj opened).2).2).1 (by decide)
  have opens {rest : Text} {others : List Fragment} (cuts : Cuts rest others) :
      Cuts (('(' : CodePoint) :: ('?' : CodePoint) :: (':' : CodePoint) :: rest)
        (singles "(?:" ++ others) :=
    .cons (.single (noGroup rest) fun isBackslash => absurd isBackslash (by decide))
      (cuts.append_plain (s := [('?' : CodePoint), (':' : CodePoint)]) (by decide))
  have closes := Cuts.nil.append_plain (s := [(')' : CodePoint)]) (by decide)
  have between := (opens ((cuts_fragments second).append closed' closes)).append_plain
    (s := [(')' : CodePoint), ('|' : CodePoint)]) (by decide)
  rw [joined_eq]
  exact (opens ((cuts_fragments first).append closed between)).fragments_eq

/-! ## Names of two patterns -/

theorem nameGroups_append (aliases : Aliases) (pieces others : List Fragment) :
    nameGroups aliases (pieces ++ others) =
      nameGroups aliases pieces ++ nameGroups (renderFragments aliases pieces).2 others := by
  induction pieces generalizing aliases with
  | nil => rfl
  | cons piece pieces ih =>
      cases piece with
      | verbatim text => exact congrArg _ (ih aliases)
      | reference name => exact congrArg _ (ih aliases)
      | group name => exact congrArg _ (ih (aliases.add name (aliases.next name)))

theorem renderFragments_append (aliases : Aliases) (pieces others : List Fragment) :
    (renderFragments aliases (pieces ++ others)).2 =
      (renderFragments (renderFragments aliases pieces).2 others).2 := by
  induction pieces generalizing aliases with
  | nil => rfl
  | cons piece pieces ih =>
      cases piece with
      | verbatim text => exact ih aliases
      | reference name => exact ih aliases
      | group name => exact ih (aliases.add name (aliases.next name))

/-- Two patterns that are joined are written one after the other, the groups of the second one named
after those of the first one. -/
theorem normalize_joined {first second : Text} (closed : Closed (fragments first))
    (closed' : Closed (fragments second)) : normalize (joined first second) =
      (joined (normalize first).1
        ((nameGroups (normalize first).2 (fragments second)).flatMap Fragment.written),
      (renderFragments (normalize first).2 (fragments second)).2) := by
  have named (aliases : Aliases) (s : Text) (pieces : List Fragment) :
      nameGroups aliases (singles s ++ pieces) = singles s ++ nameGroups aliases pieces := by
    induction s with
    | nil => rfl
    | cons c s ih => exact congrArg _ ih
  have kept (aliases : Aliases) (s : Text) (pieces : List Fragment) :
      (renderFragments aliases (singles s ++ pieces)).2 = (renderFragments aliases pieces).2 := by
    induction s with
    | nil => rfl
    | cons c s ih => exact ih
  have written (s : Text) : (singles s).flatMap Fragment.written = s := by
    rw [singles, List.flatMap_map]
    exact List.flatMap_singleton' s
  have onlyLast (aliases : Aliases) : nameGroups aliases (singles ")") = singles ")" := rfl
  refine Prod.ext ?_ ?_
  · rw [normalize_fst, fragments_joined closed closed', named, nameGroups_append, named,
      nameGroups_append, onlyLast]
    simp only [List.flatMap_append, written]
    rw [normalize_fst, joined, normalize]
    simp only [List.append_assoc]
  · rw [normalize, fragments_joined closed closed', kept, renderFragments_append, kept,
      renderFragments_append]
    rfl

end ClassHarvest.Pattern
