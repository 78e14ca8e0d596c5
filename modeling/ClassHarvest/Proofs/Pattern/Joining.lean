import ClassHarvest.Proofs.Gathering
import ClassHarvest.Proofs.Pattern.Abreast
import ClassHarvest.Proofs.Pattern.Elementary

/-!
# Reading two patterns as alternatives

Two elementary patterns that are joined by `|` are read one after the other as each is read alone, but
that the groups of the second one are numbered and named behind those of the first one.
-/

namespace ClassHarvest.Pattern

variable {pattern : Array CodePoint} {s t : ReadState}

/-! ## Whole patterns -/

theorem stands_of_begin {rest : Text} {u : Unit} (gives : (Read.seek 0).Gives pattern s u t)
    (whole : pattern.toList = rest) : t.Stands pattern rest ∧ s.SameGroups t :=
  @Read.stands_of_seek pattern s t [] rest u gives whole

theorem exists_of_readWhole {regex : Regex} (given : readWhole.Gives pattern s regex t) :
    ∃ u s₁ body, (Read.seek 0).Gives pattern s u s₁ ∧
      ((readers (pattern.size + 2)).alternatives s₁.flags.verbose true).Gives pattern s₁ body t ∧
        t.next = none ∧ regex = .sequence body := by
  unfold readWhole at given
  obtain ⟨u, s₁, seeks, given⟩ := Read.gives_bind.mp given
  rw [Read.gives_rounds_bind, Read.gives_get_bind] at given
  obtain ⟨body, s₂, isRead, given⟩ := Read.gives_bind.mp given
  rw [Read.gives_get_bind] at given
  dsimp only at given
  split at given
  · obtain ⟨_, _, fails, _⟩ := Read.gives_bind.mp given
    cases Read.not_gives_throw fails
  split at given
  · obtain ⟨_, _, fails, _⟩ := Read.gives_bind.mp given
    cases Read.not_gives_fail fails
  next ends =>
  split at given
  · cases Read.not_gives_failAt given
  · obtain ⟨rfl, rfl⟩ := Read.gives_pure.mp given
    exact ⟨u, s₁, body, seeks, isRead, Option.not_isSome_iff_eq_none.mp ends, rfl⟩

theorem exists_of_ofPattern {text : Text} {flags : Flags} {program : Program}
    (read : Program.ofPattern text flags = .ok program) : ∃ regex t,
      readWhole.Gives text.toArray { flags } regex t ∧
        regex.settle t.widths t.flags.template = .ok program.regex ∧ program.flags = t.flags ∧
          program.names = t.names := by
  unfold Program.ofPattern at read
  obtain ⟨⟨regex, t⟩, found, read⟩ := Gathering.bind_eq_ok_iff.mp read
  refine ⟨regex, t, found, ?_⟩
  dsimp only at read
  split at read
  · cases read
  · next settled =>
      cases read
      exact ⟨settled, rfl, rfl⟩

theorem ClassPattern.of_compile {text : Text} {made : ClassPattern} (compiled : compile text = .ok made) :
    Program.ofPattern (normalize text).1 classFlags = .ok made.program ∧
      (normalize text).2.of valueGroup = made.valueGroups ∧ made.valueGroups ≠ [] := by
  unfold compile at compiled
  split at compiled
  · cases compiled
  dsimp only at compiled
  split at compiled
  case h_5 program read =>
    split at compiled
    · cases compiled
    · next someGroup =>
        cases compiled
        exact ⟨read, rfl, someGroup⟩
  all_goals cases compiled

/-! ## Branches in groups -/

/-- A branch that is a group without number has what is read inside the group. -/
theorem exists_of_branch_bundle {inner : Readers} {first : Bool} {rest : Text} {branch : List Regex}
    (stands : s.Stands pattern (('(' : CodePoint) :: ('?' : CodePoint) :: (':' : CodePoint) :: rest))
    (given : (do
        let pieces ← readPieces inner first false [] (← Read.rounds)
        return pieces.reverse.flatMap Piece.expressions).Gives pattern s branch t) :
    ∃ s₁ body s₂, s₁.Stands pattern rest ∧ s.SameGroups s₁ ∧
      (inner.alternatives false false).Gives pattern s₁ body s₂ ∧
        ∀ behind, s₂.Stands pattern ((')' : CodePoint) :: behind) →
          behind.head? = none ∨ behind.head? = some '|' →
            branch = body ∧ t.Stands pattern behind ∧ s₂.SameGroups t := by
  rw [Read.gives_rounds_bind] at given
  obtain ⟨pieces, _, isRead, last⟩ := Read.gives_bind.mp given
  obtain ⟨rfl, rfl⟩ := Read.gives_pure.mp last
  obtain ⟨start, s₁, opened, s₂, stands, same, extends', after⟩ :=
    exists_of_readPieces_extension stands isRead
  unfold readExtension at extends'
  have isColon : (Token.plain ':').IsProper := Token.isProper_plain (by decide)
  obtain ⟨s₃, stands, same₃, extends'⟩ := Read.exists_of_take_bind isColon stands extends'
  obtain ⟨body, s₄, inside, extends'⟩ := Read.gives_bind.mp extends'
  obtain ⟨_, s₅, closes, last⟩ := Read.gives_bind.mp extends'
  obtain ⟨rfl, rfl⟩ := Read.gives_pure.mp last
  refine ⟨s₃, body, s₄, stands, same.trans same₃, inside, fun behind closed ends => ?_⟩
  obtain ⟨-, stands, same₅⟩ := Read.stands_of_accept (by decide) closed
    (Read.gives_closeParenthesis.mp closes)
  have next : s₂.next = none ∨ s₂.next = some (.plain '|') ∨ s₂.next = some (.plain ')') := by
    cases behind with
    | nil => exact .inl stands.next_nil
    | cons c behind =>
        obtain rfl : c = '|' := Option.some.inj (ends.resolve_left nofun)
        exact .inr (.inl (next_of_plain (by decide) stands))
  obtain ⟨rfl, rfl⟩ := gives_readPieces_end (after nofun) next
  exact ⟨by simp [Opened.parts, Piece.expressions], stands, same₅⟩

/-- Two branches, each a group without number, have what is read inside the groups. -/
theorem exists_of_alternatives {depth : Nat} {whole : Bool} {rest : Text} {body : List Regex}
    (stands : s.Stands pattern (('(' : CodePoint) :: ('?' : CodePoint) :: (':' : CodePoint) :: rest))
    (given : ((readers depth).alternatives false whole).Gives pattern s body t) :
    ∃ depth s₁ xs s₂, s₁.Stands pattern rest ∧ s.SameGroups s₁ ∧
      ((readers depth).alternatives false false).Gives pattern s₁ xs s₂ ∧
        ∀ rest', s₂.flags.verbose = false → s₂.Stands pattern ((')' : CodePoint) :: ('|' : CodePoint) ::
            ('(' : CodePoint) :: ('?' : CodePoint) :: (':' : CodePoint) :: rest') →
          ∃ s₃ ys s₄, s₃.Stands pattern rest' ∧ s₂.SameGroups s₃ ∧
            ((readers depth).alternatives false false).Gives pattern s₃ ys s₄ ∧
              (s₄.Stands pattern [(')' : CodePoint)] →
                body = joinBranches [xs, ys] ∧ t.Stands pattern [] ∧ s₄.SameGroups t) := by
  cases depth with
  | zero => cases Read.not_gives_fail given
  | succ depth =>
  rw [readers] at given
  dsimp only at given
  rw [Read.gives_rounds_bind] at given
  obtain ⟨branches, _, isRead, last⟩ := Read.gives_bind.mp given
  obtain ⟨rfl, rfl⟩ := Read.gives_pure.mp last
  rw [readBranches] at isRead
  obtain ⟨branch, s₅, isBranch, isRead⟩ := Read.gives_bind.mp isRead
  obtain ⟨s₁, xs, s₂, stands, same, inside, behind⟩ := exists_of_branch_bundle stands isBranch
  refine ⟨depth, s₁, xs, s₂, stands, same, inside, fun rest' plain₂ closed => ?_⟩
  obtain ⟨rfl, stands, same₅⟩ := behind _ closed (.inr rfl)
  obtain ⟨s₆, stands, same₆, isRead⟩ := Read.exists_of_accept_bind (by decide) stands isRead
  rw [if_pos rfl, Read.gives_get_bind] at isRead
  have plain₆ : s₆.flags.verbose = false := by rw [same₆.flags, same₅.flags, plain₂]
  dsimp only at isRead
  rw [plain₆, ite_self, readBranches] at isRead
  obtain ⟨branch', s₇, isBranch', isRead⟩ := Read.gives_bind.mp isRead
  obtain ⟨s₃, ys, s₄, stands, same₃, inside', behind'⟩ := exists_of_branch_bundle stands isBranch'
  refine ⟨s₃, ys, s₄, stands, same₅.trans (same₆.trans same₃), inside', fun closed' => ?_⟩
  obtain ⟨rfl, stands, same₇⟩ := behind' _ closed' (.inl rfl)
  have isRead := Read.gives_of_refuse_bind (by rw [stands.next_nil]; simp) isRead
  obtain ⟨rfl, rfl⟩ := Read.gives_pure.mp isRead
  exact ⟨rfl, stands, same₇⟩

/-! ## Alone and in a group -/

theorem eq_nil_of_next {rest : Text} (stands : s.Stands pattern rest) (next : s.next = none) :
    rest = [] := by
  obtain ⟨_, _, shows'⟩ := stands
  cases shows' with
  | done => rfl
  | token _ isNext => cases next.symm.trans isNext

theorem Twins.of_nil {kept : Text → Prop} {u' : Text} {names names' : List Text}
    (twins : Twins kept [] names u' names') : names = [] ∧ u' = [] ∧ names' = [] := by
  generalize isNil : ([] : Text) = u at twins
  cases twins with
  | nil => exact ⟨rfl, rfl, rfl⟩
  | @token t => cases t <;> cases isNil
  | _ => cases isNil

/-- A pattern is read alone to the same expressions as in a group but for the numbers of groups. -/
theorem Comparison.read_whole {w : Comparison} {u u' : Text} {names' : List Text} {regex : Regex}
    {body : List Regex} {depth : Nat} {s' t' : ReadState} (alone : w.left = u.toArray)
    (twins : Twins w.kept u w.names u' names')
    (given : readWhole.Gives w.left { flags := classFlags } regex t)
    (stands' : s'.Stands w.right (u' ++ (')' : CodePoint) :: w.tail)) (names : s'.names = w.earlier)
    (count : s'.widths.length = 1 + w.amount) (nodup : (w.earlier.map (·.1)).Nodup)
    (all : w.earlier.map (·.1) ++ names' = w.names') (flags : s'.flags = classFlags)
    (given' : ((readers depth).alternatives false false).Gives w.right s' body t') :
    ∃ xs, regex = .sequence xs ∧ List.Forall₂ (Moved w.amount) xs body ∧
      t'.Stands w.right ((')' : CodePoint) :: w.tail) ∧ w.Groups [] [] t t' ∧
        ((∀ r ∈ xs, r.IsLeaf) → t.names = []) := by
  obtain ⟨_, s, xs, seeks, isRead, ends, rfl⟩ := exists_of_readWhole given
  have whole : w.left.toList = u := by rw [alone]
  obtain ⟨stands, same⟩ := stands_of_begin seeks whole
  have begins : w.Groups w.names names' s s' := {
    numbers := by rw [count, same.widths]; rfl
    begun := by rw [same.widths]; exact Nat.one_pos
    entries := ⟨[], by rw [names, List.append_nil], by rw [same.names]; exact .nil⟩
    bounded := by rw [same.names]; exact List.forall_mem_nil _
    nodup := by rw [same.names]; exact List.nodup_nil
    nodup' := by rw [names]; exact nodup
    all := by rw [same.names]; rfl
    all' := by rw [names]; exact all
    flags := same.flags
    flags' := flags }
  have plain : s.flags.verbose = false := congrArg Flags.verbose begins.flags
  rw [plain] at isRead
  obtain ⟨moved, ⟨v, _, v', _, twins, left, right, groups⟩, leaves⟩ := w.reads_readers _ _ true
    ⟨u, w.names, u', names', twins, stands, stands', begins⟩ isRead given'
  obtain rfl := eq_nil_of_next left ends
  obtain ⟨rfl, rfl, rfl⟩ := twins.of_nil
  exact ⟨xs, rfl, moved, right, groups, fun isLeaf => (leaves isLeaf).trans same.names⟩

/-! ## Two patterns joined -/

/-- No group that the second pattern refers to has the name of a group of the first one. -/
def RefersApart (first second : Text) : Prop :=
  ∀ entry ∈ occurrences [] (groupNames second),
    .reference (aliasOf entry.1 entry.2) ∈ fragments second → entry.1 ∉ groupNames first

instance (first second : Text) : Decidable (RefersApart first second) :=
  inferInstanceAs (Decidable (∀ entry ∈ occurrences [] (groupNames second),
    .reference (aliasOf entry.1 entry.2) ∈ fragments second → entry.1 ∉ groupNames first))

theorem eq_of_moved_zero {rs rs' : List Regex} (moved : List.Forall₂ (Moved 0) rs rs') : rs' = rs := by
  induction moved with
  | nil => rfl
  | cons first _ ih => rw [first.eq_of_zero, ih]

theorem stays_of_moved {amount : Nat} {rs rs' : List Regex} (moved : List.Forall₂ (Moved amount) rs rs') :
    List.Forall₂ (Moved 0) rs rs ∧ List.Forall₂ (Moved 0) rs' rs' := by
  induction moved with
  | nil => exact ⟨.nil, .nil⟩
  | cons first _ ih => exact ⟨.cons first.left ih.1, .cons first.right ih.2⟩

theorem settle_sequence {rs : List Regex} (stays : List.Forall₂ (Moved 0) rs rs) (widths : List (Option Width))
    {flags : Flags} (isClass : flags = classFlags) {regex : Regex}
    (settled : (Regex.sequence rs).settle widths flags.template = .ok regex) : regex = .sequence rs := by
  rw [isClass] at settled
  exact (Except.ok.inj ((Moved.sequence stays).settle widths ▸ settled)).symm

variable {first second : Text} {regex : Regex} {xs ys : List Regex} {depth : Nat}
  {s' t' : ReadState} {right : Array CodePoint} {tail : Text}

/-- The first pattern was read alone and in front of the second one. -/
structure FirstRead (first : Text) (xs : List Regex) (alone within : ReadState) : Prop where
  /-- The numbers of its groups are the same. -/
  stays : List.Forall₂ (Moved 0) xs xs
  /-- The flags are those for class patterns. -/
  flags : alone.flags = classFlags
  /-- The flags are those for class patterns. -/
  flags' : within.flags = classFlags
  /-- The names of its groups are the same. -/
  names : within.names = alone.names
  /-- The names of its groups. -/
  given : alone.names.map (·.1) = givenNames [] (groupNames first)
  /-- No two groups have the same name. -/
  nodup : (alone.names.map (·.1)).Nodup
  /-- Group zero is open. -/
  begun : 0 < within.widths.length
  /-- The numbers of its groups. -/
  below : ∀ entry ∈ alone.names, 0 < entry.2 ∧ entry.2 ≤ within.widths.length - 1
  /-- If it consists of leaves, none of its groups has a name. -/
  leaves : (∀ r ∈ xs, r.IsLeaf) → alone.names = []

/-- The first pattern is read as it is read alone. -/
theorem Elementary.read_first (elementary : Elementary (fragments first))
    (alone : readWhole.Gives (normalize first).1.toArray { flags := classFlags } regex t)
    (stands : s'.Stands right ((normalize first).1 ++ (')' : CodePoint) :: tail))
    (same : ReadState.SameGroups { flags := classFlags } s')
    (within : ((readers depth).alternatives false false).Gives right s' xs t') :
    regex = .sequence xs ∧ t'.Stands right ((')' : CodePoint) :: tail) ∧ FirstRead first xs t t' := by
  have twins := elementary.twins (fun _ => True) [] Aliases.Records.nil Aliases.Records.nil
    (fun _ _ => trivial) fun _ _ _ _ => List.not_mem_nil
  rw [← normalize_fst, nameGroups_names Aliases.Records.nil] at twins
  let w : Comparison := {
    left := (normalize first).1.toArray
    right
    tail
    amount := 0
    earlier := []
    kept := fun _ => True
    names := givenNames [] (groupNames first)
    names' := givenNames [] (groupNames first) }
  obtain ⟨xs', rfl, moved, stands, groups, leaves⟩ := Comparison.read_whole (w := w) rfl twins alone
    stands same.names (by rw [same.widths]; rfl) List.nodup_nil rfl same.flags within
  obtain rfl := eq_of_moved_zero moved
  obtain ⟨own, front, entries⟩ := groups.entries
  obtain ⟨numbered, entries⟩ := (List.forall₂_and_left _ _).mp entries
  have sameNames : List.Forall₂ Eq t.names own := entries.imp fun _ _ entry =>
    (Prod.ext (entry.2 trivial) entry.1).symm
  rw [List.forall₂_eq_eq_eq] at sameNames
  have given := groups.all
  rw [List.append_nil] at given
  have count : t'.widths.length = t.widths.length := groups.numbers
  exact ⟨rfl, stands, {
    stays := (stays_of_moved moved).1
    flags := groups.flags
    flags' := groups.flags'
    names := by rw [front, sameNames]; rfl
    given
    nodup := groups.nodup
    begun := count ▸ groups.begun
    below := fun entry mem => ⟨numbered entry mem, by
      rw [count]
      exact Nat.le_sub_one_of_lt (groups.bounded entry mem)⟩
    leaves }⟩

/-- The second pattern in the spelling of the reader, its groups named after those of the first one. -/
def renamedBehind (first second : Text) : Text :=
  (nameGroups (normalize first).2 (fragments second)).flatMap Fragment.written

/-- The second pattern was read alone and behind the first one. -/
structure SecondRead (first second : Text) (earlier : ReadState) (ys ys' : List Regex)
    (alone within : ReadState) (own : List (Text × Nat)) : Prop where
  /-- The numbers of its groups are moved up. -/
  moved : List.Forall₂ (Moved (earlier.widths.length - 1)) ys ys'
  /-- The flags are those for class patterns. -/
  flags : alone.flags = classFlags
  /-- The flags are those for class patterns. -/
  flags' : within.flags = classFlags
  /-- Its groups are behind those of the first pattern. -/
  names : within.names = earlier.names ++ own
  /-- The names of its groups alone. -/
  given : alone.names.map (·.1) = givenNames [] (groupNames second)
  /-- The names of its groups behind the first pattern. -/
  renamed : own.map (·.1) = givenNames (groupNames first) (groupNames second)
  /-- No two groups have the same name. -/
  nodup : (alone.names.map (·.1)).Nodup
  /-- No two groups of both patterns have the same name. -/
  nodup' : (within.names.map (·.1)).Nodup
  /-- The numbers of its groups. -/
  above : List.Forall₂ (fun entry entry' : Text × Nat =>
    0 < entry.2 ∧ entry'.2 = entry.2 + (earlier.widths.length - 1)) alone.names own

/-- The second pattern is read as it is read alone, if it does not refer to a name of the first one. -/
theorem Elementary.read_second (elementary : Elementary (fragments second))
    (apart : RefersApart first second) {t₁ s₁ : ReadState} (before : FirstRead first xs t₁ s₁)
    (alone : readWhole.Gives (normalize second).1.toArray { flags := classFlags } regex t)
    (stands : s'.Stands right (renamedBehind first second ++ [(')' : CodePoint)]))
    (same : s₁.SameGroups s')
    (within : ((readers depth).alternatives false false).Gives right s' ys t') :
    ∃ ys₀ own, regex = .sequence ys₀ ∧ t'.Stands right [(')' : CodePoint)] ∧
      SecondRead first second s₁ ys₀ ys t t' own := by
  have twins := elementary.twins (fun name => Fragment.reference name ∈ fragments second)
    (groupNames first) Aliases.Records.nil (by rw [List.append_nil]; exact normalize_snd first)
    (fun _ mem => mem) fun name count => apart (name, count)
  rw [← normalize_fst, nameGroups_names Aliases.Records.nil, nameGroups_names (normalize_snd first)]
    at twins
  let w : Comparison := {
    left := (normalize second).1.toArray
    right
    tail := []
    amount := s₁.widths.length - 1
    earlier := s₁.names
    kept := fun name => Fragment.reference name ∈ fragments second
    names := givenNames [] (groupNames second)
    names' := givenNames [] (groupNames first) ++ givenNames (groupNames first) (groupNames second) }
  have count : s'.widths.length = 1 + (s₁.widths.length - 1) := by
    rw [same.widths]
    exact (Nat.add_sub_cancel' before.begun).symm
  have earlier : s₁.names.map (·.1) = givenNames [] (groupNames first) := by
    rw [before.names, before.given]
  have nodup : (s₁.names.map (·.1)).Nodup := by
    rw [before.names]
    exact before.nodup
  obtain ⟨ys₀, rfl, moved, stands, groups, -⟩ := Comparison.read_whole (w := w) rfl twins alone
    stands same.names count nodup (congrArg (· ++ _) earlier)
    (same.flags.trans before.flags') within
  obtain ⟨own, front, entries⟩ := groups.entries
  have given := groups.all
  rw [List.append_nil] at given
  have both := groups.all'
  rw [List.append_nil, front, List.map_append] at both
  exact ⟨ys₀, own, rfl, stands, {
    moved
    flags := groups.flags
    flags' := groups.flags'
    names := front
    given
    renamed := List.append_cancel_left (both.trans (congrArg (· ++ _) earlier.symm))
    nodup := groups.nodup
    nodup' := groups.nodup'
    above := entries.imp fun _ _ entry => ⟨entry.1, entry.2.1⟩ }⟩

/-- The program of two patterns as alternatives, beside those of the two. -/
structure Joint (one other both : Program) (front behind : List Text) (amount : Nat)
    (xs ys ys' : List Regex) (own : List (Text × Nat)) : Prop where
  /-- The expressions of the first pattern. -/
  regex : one.regex = .sequence xs
  /-- The expressions of the second pattern. -/
  regex' : other.regex = .sequence ys
  /-- The expressions of the alternatives. -/
  joined : both.regex = .sequence (joinBranches [xs, ys'])
  /-- All are for class patterns. -/
  flags : one.flags = classFlags ∧ other.flags = classFlags ∧ both.flags = classFlags
  /-- The first pattern keeps the numbers of its groups. -/
  stays : List.Forall₂ (Moved 0) xs xs
  /-- Those of the second pattern are moved up. -/
  moved : List.Forall₂ (Moved amount) ys ys'
  /-- The groups of both patterns have names. -/
  names : both.names = one.names ++ own
  /-- No two groups of the second pattern have the same name. -/
  nodup : (other.names.map (·.1)).Nodup
  /-- No two groups of both patterns have the same name. -/
  nodup' : (both.names.map (·.1)).Nodup
  /-- The names of the groups of the first pattern. -/
  given : one.names.map (·.1) = givenNames [] front
  /-- The names of the groups of the second pattern alone. -/
  given' : other.names.map (·.1) = givenNames [] behind
  /-- Their names behind the first pattern. -/
  renamed : own.map (·.1) = givenNames front behind
  /-- The numbers of the groups of the first pattern. -/
  below : ∀ entry ∈ one.names, 0 < entry.2 ∧ entry.2 ≤ amount
  /-- The numbers of the groups of the second pattern. -/
  above : List.Forall₂ (fun entry entry' : Text × Nat => 0 < entry.2 ∧ entry'.2 = entry.2 + amount)
    other.names own
  /-- A pattern with a named group does not consist of leaves. -/
  leaves : (∀ r ∈ xs, r.IsLeaf) → one.names = []

/-- Two patterns that are joined are read as they are read alone. -/
theorem exists_joint (elementary : Elementary (fragments first))
    (elementary' : Elementary (fragments second)) (apart : RefersApart first second)
    {one other both : Program} (readOne : Program.ofPattern (normalize first).1 classFlags = .ok one)
    (readOther : Program.ofPattern (normalize second).1 classFlags = .ok other)
    (readBoth : Program.ofPattern (normalize (joined first second)).1 classFlags = .ok both) :
    ∃ amount xs ys ys' own,
      Joint one other both (groupNames first) (groupNames second) amount xs ys ys' own := by
  obtain ⟨_, t₁, alone, settled₁, flags₁, names₁⟩ := exists_of_ofPattern readOne
  obtain ⟨_, t₂, alone', settled₂, flags₂, names₂⟩ := exists_of_ofPattern readOther
  obtain ⟨_, t, gives, settled, flags, names⟩ := exists_of_ofPattern readBoth
  have written : (normalize (joined first second)).1.toArray.toList =
      joined (normalize first).1 (renamedBehind first second) :=
    congrArg Prod.fst (normalize_joined elementary.closed elementary'.closed)
  generalize (normalize (joined first second)).1.toArray = right at gives written
  obtain ⟨_, s, body, seeks, isRead, -, rfl⟩ := exists_of_readWhole gives
  obtain ⟨stands, same⟩ := stands_of_begin seeks written
  -- A verbose pattern would skip spaces between the two branches.
  have plain : s.flags.verbose = false := by rw [same.flags]; rfl
  rw [plain] at isRead
  rw [joined_eq] at stands
  obtain ⟨depth, s₁, xs, s₂, stands, same₁, within, behind⟩ := exists_of_alternatives stands isRead
  -- Only after the first branch is known is there a state to read the second one from.
  obtain ⟨rfl, stands, before⟩ := elementary.read_first alone stands (same.trans same₁) within
  obtain ⟨s₃, ys', s₄, stands, same₂, within', behind⟩ :=
    behind _ (congrArg Flags.verbose before.flags') stands
  obtain ⟨ys, own, rfl, stands, after⟩ := elementary'.read_second apart before alone' stands same₂ within'
  obtain ⟨rfl, -, same₃⟩ := behind stands
  have stays' := stays_of_moved after.moved
  have isClass : t.flags = classFlags := same₃.flags.trans after.flags'
  exact ⟨s₂.widths.length - 1, xs, ys, ys', own, {
    regex := settle_sequence before.stays _ before.flags settled₁
    regex' := settle_sequence stays'.1 _ after.flags settled₂
    joined := settle_sequence (Moved.joinBranches (.cons before.stays (.cons stays'.2 .nil))) _ isClass
      settled
    flags := ⟨flags₁.trans before.flags, flags₂.trans after.flags, flags.trans isClass⟩
    stays := before.stays
    moved := after.moved
    names := by rw [names, same₃.names, after.names, before.names, names₁]
    nodup := by rw [names₂]; exact after.nodup
    nodup' := by rw [names, same₃.names]; exact after.nodup'
    given := by rw [names₁, before.given]
    given' := by rw [names₂, after.given]
    renamed := after.renamed
    below := by rw [names₁]; exact before.below
    above := by rw [names₂]; exact after.above
    leaves := by rw [names₁]; exact before.leaves }⟩

end ClassHarvest.Pattern
