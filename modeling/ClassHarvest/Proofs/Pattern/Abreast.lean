import ClassHarvest.Proofs.Pattern.Twins

/-!
# Alternatives side by side

Two patterns that differ in the names of groups are read part by part.  Every part brings both readers
to the same place again, and so do branches and the alternatives that are made of them.
-/

namespace ClassHarvest.Pattern

variable {w : Comparison} {s s' t t' : ReadState} {inner inner' : Readers} {first first' : Bool}
  {pieces pieces' more more' : List Piece} {pattern : Array CodePoint} {bound bound' : Nat}

/-! ## One part -/

/-- A part other than a group behind its first token, put in front of the parts before it. -/
def readPart (token : Token) (pieces : List Piece) : Read (List Piece) :=
  match token with
  | .escaped c => return .single (← branchEscape c).expression :: pieces
  | .plain c =>
    let char : Char := c.ascii
    match char with
    | '[' => return .single (.char (← readSet)) :: pieces
    | '?' | '*' | '+' | '\x7b' => readQuantifier char pieces
    | '.' => return .single (.char .any) :: pieces
    | '^' => return .single (.anchor .lineStart) :: pieces
    | '$' => return .single (.anchor .lineEnd) :: pieces
    | _ => return .single (.char (.one c)) :: pieces

/-- A group behind its parenthesis. -/
def readGroup (inner : Readers) (start : Nat) : Read Opened := do
  if ← Read.accept '?' then readExtension inner false start
  else return .piece (.single (← readCapture inner false start none))

theorem gives_readPieces_end (given : (readPieces inner first false pieces (bound + 1)).Gives pattern s more t)
    (ends : s.next = none ∨ s.next = some (.plain '|') ∨ s.next = some (.plain ')')) :
    more = pieces ∧ t = s := by
  rw [readPieces, Read.gives_peek_bind] at given
  rcases ends with next | next | next
  · rw [next] at given
    exact Read.gives_pure.mp given
  · rw [next] at given
    exact Read.gives_pure.mp given
  · rw [next] at given
    exact Read.gives_pure.mp given

/-- A part is read and then those behind it. -/
theorem exists_of_readPieces_part {token : Token} (next : s.next = some token)
    (inside : ∀ c ∈ ("|)(" : Text), token ≠ .plain c)
    (given : (readPieces inner first false pieces (bound + 1)).Gives pattern s more t) :
    ∃ u s₁ middle s₂, Read.advance.Gives pattern s u s₁ ∧
      (readPart token pieces).Gives pattern s₁ middle s₂ ∧
        (readPieces inner first false middle bound).Gives pattern s₂ more t := by
  rw [readPieces, Read.gives_peek_bind, next] at given
  dsimp only at given
  have noEnd : ¬ (decide (token = .plain '|') || decide (token = .plain ')')) = true := by
    simp [inside '|' (by decide), inside ')' (by decide)]
  rw [if_neg noEnd] at given
  obtain ⟨u, s₁, advances, given⟩ := Read.gives_bind.mp given
  refine ⟨u, s₁, ?_⟩
  unfold readPart
  cases token with
  | escaped c =>
      obtain ⟨meaning, s₂, isRead, given⟩ := Read.gives_bind.mp given
      exact ⟨_, s₂, advances, Read.gives_bind.mpr ⟨_, _, isRead, Read.gives_pure.mpr ⟨rfl, rfl⟩⟩, given⟩
  | plain c =>
      have noGroup : c.ascii ≠ '(' := fun isGroup =>
        inside _ (by decide) (congrArg Token.plain (CodePoint.eq_of_ascii_eq isGroup (by decide)))
      simp only [Bool.false_and, Bool.false_eq_true, if_false] at given ⊢
      generalize c.ascii = char at noGroup given ⊢
      split at given
      case h_1 =>
        obtain ⟨test, s₂, isRead, given⟩ := Read.gives_bind.mp given
        exact ⟨_, s₂, advances, Read.gives_bind.mpr ⟨_, _, isRead, Read.gives_pure.mpr ⟨rfl, rfl⟩⟩, given⟩
      case h_2 | h_3 | h_4 | h_5 =>
        obtain ⟨middle, s₂, isRead, given⟩ := Read.gives_bind.mp given
        exact ⟨_, s₂, advances, isRead, given⟩
      case h_6 | h_7 | h_8 => exact ⟨_, s₁, advances, Read.gives_pure.mpr ⟨rfl, rfl⟩, given⟩
      case h_9 => exact absurd rfl noGroup
      case h_10 =>
        refine ⟨_, s₁, advances, ?_, given⟩
        split
        all_goals first | contradiction | exact Read.gives_pure.mpr ⟨rfl, rfl⟩

/-- What is behind the parenthesis of a group is read and then what is behind the group. -/
theorem exists_of_readGroup {start : Nat} (given : (do
      if ← Read.accept '?' then
        match ← readExtension inner false start with
        | .piece piece => readPieces inner first false (piece :: pieces) bound
        | .nothing => readPieces inner first false pieces bound
        | .globalFlags =>
          if !first || !pieces.isEmpty then Read.failAt .lateFlags start
          readPieces inner first (← get).flags.verbose pieces bound
      else
        let group ← readCapture inner false start none
        readPieces inner first false (.single group :: pieces) bound : Read (List Piece)).Gives
          pattern s more t) :
    ∃ opened s', (readGroup inner start).Gives pattern s opened s' ∧ (opened ≠ .globalFlags →
      (readPieces inner first false (opened.parts ++ pieces) bound).Gives pattern s' more t) := by
  obtain ⟨found, s₁, accepts, given⟩ := Read.gives_bind.mp given
  cases found with
  | true =>
      obtain ⟨opened, s₂, isRead, given⟩ := Read.gives_bind.mp given
      refine ⟨opened, s₂, Read.gives_bind.mpr ⟨true, s₁, accepts, isRead⟩, fun local' => ?_⟩
      cases opened with
      | piece piece => exact given
      | nothing => exact given
      | globalFlags => exact absurd rfl local'
  | false =>
      obtain ⟨group, s₂, isRead, given⟩ := Read.gives_bind.mp given
      refine ⟨.piece (.single group), s₂, Read.gives_bind.mpr ⟨false, s₁, accepts, ?_⟩, fun _ => given⟩
      exact Read.gives_bind.mpr ⟨group, s₂, isRead, Read.gives_pure.mpr ⟨rfl, rfl⟩⟩

/-- A group is read and then what is behind it. -/
theorem exists_of_readPieces_group (next : s.next = some (.plain '('))
    (given : (readPieces inner first false pieces (bound + 1)).Gives pattern s more t) :
    ∃ u s₁ start opened s₂, Read.advance.Gives pattern s u s₁ ∧
      (readGroup inner start).Gives pattern s₁ opened s₂ ∧
        (opened ≠ .globalFlags →
          (readPieces inner first false (opened.parts ++ pieces) bound).Gives pattern s₂ more t) := by
  rw [readPieces, Read.gives_peek_bind, next] at given
  dsimp only at given
  rw [if_neg (by decide)] at given
  obtain ⟨u, s₁, advances, given⟩ := Read.gives_bind.mp given
  have isOpening : CodePoint.ascii '(' = '(' := by decide
  simp only [Bool.false_and, Bool.false_eq_true, if_false, isOpening] at given
  rw [Read.gives_tell_bind] at given
  obtain ⟨opened, s₂, isRead, behind⟩ := exists_of_readGroup given
  exact ⟨u, s₁, _, opened, s₂, advances, isRead, behind⟩

/-- What is behind `(?` is read and then what is behind the group. -/
theorem exists_of_readPieces_extension {rest : Text}
    (stands : s.Stands pattern (('(' : CodePoint) :: ('?' : CodePoint) :: rest))
    (given : (readPieces inner first false pieces (bound + 1)).Gives pattern s more t) :
    ∃ start s₁ opened s₂, s₁.Stands pattern rest ∧ s.SameGroups s₁ ∧
      (readExtension inner false start).Gives pattern s₁ opened s₂ ∧
        (opened ≠ .globalFlags →
          (readPieces inner first false (opened.parts ++ pieces) bound).Gives pattern s₂ more t) := by
  have proper : (Token.plain '(').IsProper := Token.isProper_plain (by decide)
  obtain ⟨_, s₁, start, opened, s₂, advances, isRead, behind⟩ :=
    exists_of_readPieces_group (next_of_plain (by decide) stands) given
  obtain ⟨stands, same⟩ := Read.stands_of_advance proper stands advances
  unfold readGroup at isRead
  obtain ⟨s₃, stands, same₃, isRead⟩ := Read.exists_of_accept_bind (by decide) stands isRead
  exact ⟨start, s₃, opened, s₂, stands, same.trans same₃, isRead, behind⟩

theorem next_ne_of_head {rest : Text} (stands : s.Stands pattern rest) {c : CodePoint}
    (other : rest.head? ≠ some c) : s.next ≠ some (.plain c) := by
  obtain ⟨front, _, shows'⟩ := stands
  cases shows' with
  | done next =>
      rw [next]
      exact nofun
  | @token u rest _ next =>
      rw [next]
      rintro ⟨⟩
      exact other rfl

/-- A group without a name is read and then what is behind it. -/
theorem exists_of_readPieces_capture {rest : Text} (bare : rest.head? ≠ some ('?' : CodePoint))
    (stands : s.Stands pattern (('(' : CodePoint) :: rest))
    (given : (readPieces inner first false pieces (bound + 1)).Gives pattern s more t) :
    ∃ start s₁ r s₂, s₁.Stands pattern rest ∧ s.SameGroups s₁ ∧
      (readCapture inner false start none).Gives pattern s₁ r s₂ ∧
        (readPieces inner first false (.single r :: pieces) bound).Gives pattern s₂ more t := by
  have proper : (Token.plain '(').IsProper := Token.isProper_plain (by decide)
  obtain ⟨_, s₁, start, opened, s₂, advances, isRead, behind⟩ :=
    exists_of_readPieces_group (next_of_plain (by decide) stands) given
  obtain ⟨stands, same⟩ := Read.stands_of_advance proper stands advances
  unfold readGroup at isRead
  have isRead := Read.gives_of_refuse_bind (next_ne_of_head stands bare) isRead
  obtain ⟨r, s₃, captures, last⟩ := Read.gives_bind.mp isRead
  obtain ⟨rfl, rfl⟩ := Read.gives_pure.mp last
  exact ⟨start, s₁, r, s₂, stands, same, captures, behind nofun⟩

/-! ## Two branches -/

/-- Both readers have put the same parts in front of those before but for the numbers of groups, and
have come to the same place.  If all parts are leaves, no group with a name was met. -/
structure Comparison.Extends (w : Comparison) (pieces : List Piece) (s : ReadState)
    (more more' : List Piece) (t t' : ReadState) : Prop where
  /-- The parts. -/
  moved : List.Forall₂ (MovedPiece w.amount) more more'
  /-- The place. -/
  abreast : w.Abreast t t'
  /-- The groups that were met. -/
  plain : Plain more → Plain pieces ∧ t.names = s.names

theorem Comparison.Extends.trans {u u' : ReadState} {middle middle' : List Piece}
    (before : w.Extends pieces s middle middle' t t') (behind : w.Extends middle t more more' u u') :
    w.Extends pieces s more more' u u' where
  moved := behind.moved
  abreast := behind.abreast
  plain leaves := by
    obtain ⟨leaves, names⟩ := behind.plain leaves
    obtain ⟨leaves, names'⟩ := before.plain leaves
    exact ⟨leaves, names.trans names'⟩

theorem MovedPiece.repeated {amount : Nat} {piece piece' : Piece} {body body' : Regex}
    (moved : MovedPiece amount piece piece') (isBody : piece.repeated = .ok body)
    (isBody' : piece'.repeated = .ok body') : Moved amount body body' := by
  have alone {r body : Regex} (isBody : (Piece.single r).repeated = .ok body) : r = body := by
    cases r <;> cases isBody <;> rfl
  cases moved with
  | single moved =>
      obtain rfl := alone isBody
      obtain rfl := alone isBody'
      exact moved
  | bundle moved =>
      cases isBody
      cases isBody'
      exact Moved.sequence moved

/-- A quantifier changes the part before it. -/
theorem Comparison.Abreast.readQuantifier (abreast : w.Abreast s s')
    (moved : List.Forall₂ (MovedPiece w.amount) pieces pieces') {char : Char}
    (given : (readQuantifier char pieces).Gives w.left s more t)
    (given' : (Pattern.readQuantifier char pieces').Gives w.right s' more' t') :
    w.Extends pieces s more more' t t' := by
  unfold Pattern.readQuantifier at given given'
  rw [Read.gives_tell_bind] at given given'
  obtain ⟨_, s₁, isRead, given⟩ := Read.gives_bind.mp given
  obtain ⟨bounds, s₁', isRead', given'⟩ := Read.gives_bind.mp given'
  obtain ⟨rfl, names, abreast⟩ := abreast.definite (definite_readBounds char) isRead isRead'
  cases bounds with
  | none =>
      obtain ⟨rfl, rfl⟩ := Read.gives_pure.mp given
      obtain ⟨rfl, rfl⟩ := Read.gives_pure.mp given'
      exact ⟨.cons (.single (.char _)) moved, abreast, fun leaves => ⟨(plain_single.mp leaves).2, names⟩⟩
  | some bounds =>
      cases moved with
      | nil => cases Read.not_gives_failAt given
      | @cons piece piece' before before' moved others =>
          dsimp only at given given'
          split at given
          · cases Read.not_gives_failAt given
          · next body isBody =>
              split at given'
              · cases Read.not_gives_failAt given'
              · next body' isBody' =>
                  obtain ⟨_, s₂, isRead, last⟩ := Read.gives_bind.mp given
                  obtain ⟨greed, s₂', isRead', last'⟩ := Read.gives_bind.mp given'
                  obtain ⟨rfl, -, abreast⟩ := abreast.definite definite_readGreed isRead isRead'
                  obtain ⟨rfl, rfl⟩ := Read.gives_pure.mp last
                  obtain ⟨rfl, rfl⟩ := Read.gives_pure.mp last'
                  have repeats := Moved.repeat greed bounds.1 bounds.2 (moved.repeated isBody isBody')
                  refine ⟨.cons (.single repeats) others, abreast, fun leaves => ?_⟩
                  cases (plain_single.mp leaves).1

/-- A single character that satisfies a test is taken. -/
theorem stands_of_takeWhile_one {p : CodePoint → Bool} {c : CodePoint} {rest found : Text}
    (proper : c.val ≠ 92) (passes : p c = true) (stands : s.Stands pattern (c :: rest))
    (given : (Read.takeWhile p 1).Gives pattern s found t) : found = [c] ∧ t.Stands pattern rest := by
  rw [Read.takeWhile, Read.gives_peek_bind, next_of_plain proper stands] at given
  dsimp only at given
  rw [if_pos passes] at given
  obtain ⟨_, s₁, advances, given⟩ := Read.gives_bind.mp given
  obtain ⟨more, s₂, isNone, last⟩ := Read.gives_bind.mp given
  obtain ⟨rfl, rfl⟩ := Read.gives_pure.mp isNone
  obtain ⟨rfl, rfl⟩ := Read.gives_pure.mp last
  have isProper : (Token.plain c).IsProper := proper
  exact ⟨rfl, (Read.stands_of_advance isProper stands advances).1⟩

/-- Two octal digits behind an escaped one make a character of it. -/
theorem exists_character_of_digits {c : CodePoint} {rest : Text} {meaning : Meaning}
    (isOctal : c.isOctalDigit = true) (octal : BeginsOctal rest) (stands : s.Stands pattern rest)
    (given : (do
        let second ← Read.takeWhile CodePoint.isAsciiDigit 1
        let digits := c :: second
        if !second.isEmpty && digits.all CodePoint.isOctalDigit &&
            (← Read.peekIs CodePoint.isOctalDigit) then
          return .character (← octalEscape (digits ++ (← Read.takeWhile CodePoint.isOctalDigit 1)))
        else numberedReference digits : Read Meaning).Gives pattern s meaning t) :
    ∃ d, meaning = .character d := by
  obtain ⟨a, b, behind, rfl, isA, isB⟩ := octal
  have digit {d : CodePoint} (isDigit : d.isOctalDigit = true) :
      d.val ≠ 92 ∧ d.isAsciiDigit = true := by
    simp only [CodePoint.isOctalDigit, CodePoint.isAsciiDigit, Bool.and_eq_true, decide_eq_true_eq]
      at isDigit ⊢
    omega
  obtain ⟨second, s₁, takes, given⟩ := Read.gives_bind.mp given
  obtain ⟨rfl, stands⟩ := stands_of_takeWhile_one (digit isA).1 (digit isA).2 stands takes
  obtain ⟨found, s₂, peeks, given⟩ := Read.gives_bind.mp given
  obtain ⟨rfl, rfl⟩ := gives_peekIs.mp peeks
  rw [next_of_plain (digit isB).1 stands] at given
  have goesOn : (!List.isEmpty [a] && [c, a].all CodePoint.isOctalDigit &&
      (some (Token.plain b)).any (Token.satisfies CodePoint.isOctalDigit)) = true := by
    simp [Token.satisfies, isOctal, isA, isB]
  rw [if_pos goesOn] at given
  obtain ⟨_, _, -, given⟩ := Read.gives_bind.mp given
  obtain ⟨d, _, -, last⟩ := Read.gives_bind.mp given
  obtain ⟨rfl, -⟩ := Read.gives_pure.mp last
  exact ⟨d, rfl⟩

/-- No escape but that of a digit is a reference. -/
theorem not_group_of_branchEscape {c : CodePoint} {rest : Text}
    (part : (Token.escaped c).IsPart (BeginsOctal rest)) (stands : s.Stands pattern rest)
    {meaning : Meaning} (given : (branchEscape c).Gives pattern s meaning t) (index : Nat) :
    meaning ≠ .group index := by
  rintro rfl
  unfold branchEscape at given
  split at given
  case h_1 | h_2 | h_3 => cases (Read.gives_pure.mp given).1
  case h_4 =>
  unfold commonEscape at given
  split at given
  case h_1 | h_2 | h_3 | h_4 =>
    obtain ⟨_, _, _, last⟩ := Read.gives_bind.mp given
    cases (Read.gives_pure.mp last).1
  case h_5 =>
  split at given
  · next isDigit =>
      split at given
      · obtain ⟨_, _, _, last⟩ := Read.gives_bind.mp given
        cases (Read.gives_pure.mp last).1
      · next notZero =>
          obtain ⟨isOctal, octal⟩ := (part isDigit).resolve_left notZero
          obtain ⟨d, isCharacter⟩ := exists_character_of_digits isOctal octal stands given
          cases isCharacter
  · split at given
    · cases Read.not_gives_fail given
    · cases (Read.gives_pure.mp given).1

theorem moved_expression {amount : Nat} {meaning : Meaning} (noGroup : ∀ index, meaning ≠ .group index) :
    Moved amount meaning.expression meaning.expression := by
  cases meaning with
  | character c => exact .char _
  | named cls complement => exact .char _
  | anchor condition => exact .anchor condition
  | group index => exact absurd rfl (noGroup index)

/-- A part that is no group or set is read in the same way on both sides. -/
theorem Comparison.Abreast.readPart {token : Token} {rest : Text}
    (part : token.IsPart (BeginsOctal rest)) (stands : s.Stands w.left rest) (abreast : w.Abreast s s')
    (moved : List.Forall₂ (MovedPiece w.amount) pieces pieces')
    (given : (readPart token pieces).Gives w.left s more t)
    (given' : (Pattern.readPart token pieces').Gives w.right s' more' t') :
    w.Extends pieces s more more' t t' := by
  unfold Pattern.readPart at given given'
  cases token with
  | escaped c =>
      obtain ⟨_, s₁, isRead, last⟩ := Read.gives_bind.mp given
      obtain ⟨meaning, s₁', isRead', last'⟩ := Read.gives_bind.mp given'
      obtain ⟨rfl, names, abreast⟩ :=
        abreast.definite (definite_branchEscape c) isRead isRead'
      obtain ⟨rfl, rfl⟩ := Read.gives_pure.mp last
      obtain ⟨rfl, rfl⟩ := Read.gives_pure.mp last'
      have same : Moved w.amount meaning.expression meaning.expression :=
        moved_expression (not_group_of_branchEscape part stands isRead)
      exact ⟨.cons (.single same) moved, abreast, fun leaves => ⟨(plain_single.mp leaves).2, names⟩⟩
  | plain c =>
      have single {r : Regex} (same : Moved w.amount r r)
          (given : (pure (.single r :: pieces) : Read (List Piece)).Gives w.left s more t)
          (given' : (pure (.single r :: pieces') : Read (List Piece)).Gives w.right s' more' t') :
          w.Extends pieces s more more' t t' := by
        obtain ⟨rfl, rfl⟩ := Read.gives_pure.mp given
        obtain ⟨rfl, rfl⟩ := Read.gives_pure.mp given'
        exact ⟨.cons (.single same) moved, abreast, fun leaves => ⟨(plain_single.mp leaves).2, rfl⟩⟩
      have noSet : c.ascii ≠ '[' := fun isSet =>
        part ((CodePoint.eq_of_ascii_eq isSet (by decide)).symm ▸ by decide)
      dsimp only at given given'
      generalize c.ascii = char at noSet given given'
      split at given
      case h_1 => exact absurd rfl noSet
      case h_2 | h_3 | h_4 | h_5 => exact abreast.readQuantifier moved given given'
      case h_6 => exact single (.char _) given given'
      case h_7 | h_8 => exact single (.anchor _) given given'
      case h_9 =>
        refine single (.char (.one c)) given ?_
        split at given'
        all_goals first | contradiction | exact given'

/-- A set is read in the same way on both sides. -/
theorem Comparison.extends_set {body : List Token} {u u' : Text} {names names' : List Text}
    (isBody : IsSetBody body) (proper : ∀ t ∈ body, t.IsProper) (twins : Twins w.kept u names u' names')
    (stands : s.Stands w.left (texts body ++ (']' : CodePoint) :: u))
    (stands' : s'.Stands w.right (texts body ++ (']' : CodePoint) :: (u' ++ (')' : CodePoint) :: w.tail)))
    (groups : w.Groups names names' s s') (moved : List.Forall₂ (MovedPiece w.amount) pieces pieces')
    (given : (readPart (.plain '[') pieces).Gives w.left s more t)
    (given' : (readPart (.plain '[') pieces').Gives w.right s' more' t') :
    w.Extends pieces s more more' t t' := by
  let sides : Sides := ⟨w.left, w.right, (']' : CodePoint) :: u,
    (']' : CodePoint) :: (u' ++ (')' : CodePoint) :: w.tail), stops_cons (by decide) _,
    stops_cons (by decide) _⟩
  have face : sides.Face body s s' := ⟨proper, stands, stands'⟩
  have closed : sides.Closed u (u' ++ (')' : CodePoint) :: w.tail) := ⟨rfl, rfl⟩
  obtain ⟨_, s₁, isRead, last⟩ := Read.gives_bind.mp given
  obtain ⟨test, s₁', isRead', last'⟩ := Read.gives_bind.mp given'
  obtain ⟨rfl, same, same', stands, stands'⟩ := closed.close_readSet isBody face _ _ _ _ isRead isRead'
  obtain ⟨rfl, rfl⟩ := Read.gives_pure.mp last
  obtain ⟨rfl, rfl⟩ := Read.gives_pure.mp last'
  exact ⟨.cons (.single (.char test)) moved, ⟨u, names, u', names', twins, stands, stands',
    groups.of_same same same'⟩, fun leaves => ⟨(plain_single.mp leaves).2, same.names⟩⟩

theorem Comparison.Extends.of_same (behind : w.Extends pieces s' more more' t t')
    (same : s.SameGroups s') : w.Extends pieces s more more' t t' :=
  ⟨behind.moved, behind.abreast, fun leaves =>
    ⟨(behind.plain leaves).1, (behind.plain leaves).2.trans same.names⟩⟩

theorem MovedOpened.parts {amount : Nat} {a b : Opened} (moved : MovedOpened amount a b) :
    a ≠ .globalFlags ∧ b ≠ .globalFlags ∧ List.Forall₂ (MovedPiece amount) a.parts b.parts := by
  cases moved with
  | piece moved => exact ⟨nofun, nofun, .cons moved .nil⟩
  | nothing => exact ⟨nofun, nofun, .nil⟩

/-- What a group adds is put in front of the parts before it. -/
theorem Comparison.Opens.extends {x y : Read Opened} (opens : w.Opens s s' x y)
    (moved : List.Forall₂ (MovedPiece w.amount) pieces pieces') {a b : Opened}
    (given : x.Gives w.left s a t) (given' : y.Gives w.right s' b t') :
    a ≠ .globalFlags ∧ b ≠ .globalFlags ∧
      w.Extends pieces s (a.parts ++ pieces) (b.parts ++ pieces') t t' := by
  obtain ⟨added, abreast, names⟩ := opens given given'
  obtain ⟨ofBranch, ofBranch', parts⟩ := added.parts
  refine ⟨ofBranch, ofBranch', List.rel_append parts moved, abreast, fun leaves => ?_⟩
  obtain ⟨new, old⟩ := List.forall_mem_append.mp leaves
  exact ⟨old, names new⟩

theorem written_reference_append (name rest : Text) : (Fragment.reference name).written ++ rest =
    ('(' : CodePoint) :: ('?' : CodePoint) :: ('P' : CodePoint) :: ('=' : CodePoint) ::
      (name ++ (')' : CodePoint) :: rest) := by
  simp [Fragment.written]

/-- Two readers of the rest of a branch that are abreast read it in the same way. -/
def Comparison.Continues (w : Comparison) (x y : List Piece → Read (List Piece)) : Prop :=
  ∀ ⦃s s' pieces pieces'⦄, w.Abreast s s' → List.Forall₂ (MovedPiece w.amount) pieces pieces' →
    ∀ ⦃more more' t t'⦄, (x pieces).Gives w.left s more t → (y pieces').Gives w.right s' more' t' →
      w.Extends pieces s more more' t t'

section

variable (continues : w.Continues (readPieces inner first false · bound)
    (readPieces inner' first' false · bound'))
  (moved : List.Forall₂ (MovedPiece w.amount) pieces pieces')
  (given : (readPieces inner first false pieces (bound + 1)).Gives w.left s more t)
  (given' : (readPieces inner' first' false pieces' (bound' + 1)).Gives w.right s' more' t')

include moved given given'

theorem Comparison.Abreast.extends_end (abreast : w.Abreast s s')
    (ends : s.next = none ∨ s.next = some (.plain '|') ∨ s.next = some (.plain ')'))
    (ends' : s'.next = none ∨ s'.next = some (.plain '|') ∨ s'.next = some (.plain ')')) :
    w.Extends pieces s more more' t t' := by
  obtain ⟨rfl, rfl⟩ := gives_readPieces_end given ends
  obtain ⟨rfl, rfl⟩ := gives_readPieces_end given' ends'
  exact ⟨moved, abreast, fun leaves => ⟨leaves, rfl⟩⟩

include continues

omit moved in
theorem Comparison.Continues.extends_part {token : Token} {rest rest' : Text} (proper : token.IsProper)
    (inside : ∀ c ∈ ("|)(" : Text), token ≠ .plain c) (stands : s.Stands w.left (token.text ++ rest))
    (stands' : s'.Stands w.right (token.text ++ rest'))
    (part : ∀ {s₁ s₁' middle middle' s₂ s₂'}, s₁.Stands w.left rest → s₁'.Stands w.right rest' →
      s.SameGroups s₁ → s'.SameGroups s₁' → (readPart token pieces).Gives w.left s₁ middle s₂ →
        (readPart token pieces').Gives w.right s₁' middle' s₂' →
          w.Extends pieces s₁ middle middle' s₂ s₂') :
    w.Extends pieces s more more' t t' := by
  obtain ⟨_, s₁, middle, s₂, advances, isRead, behind⟩ :=
    exists_of_readPieces_part (stands.next_token proper) inside given
  obtain ⟨_, s₁', middle', s₂', advances', isRead', behind'⟩ :=
    exists_of_readPieces_part (stands'.next_token proper) inside given'
  obtain ⟨left, same⟩ := Read.stands_of_advance proper stands advances
  obtain ⟨right, same'⟩ := Read.stands_of_advance proper stands' advances'
  have step := part left right same same' isRead isRead'
  exact (step.trans (continues step.abreast step.moved behind behind')).of_same same

theorem Comparison.Continues.extends_extension {rest rest' : Text}
    (stands : s.Stands w.left (('(' : CodePoint) :: ('?' : CodePoint) :: rest))
    (stands' : s'.Stands w.right (('(' : CodePoint) :: ('?' : CodePoint) :: rest'))
    (opens : ∀ {start start' s₁ s₁'}, s₁.Stands w.left rest → s₁'.Stands w.right rest' →
      s.SameGroups s₁ → s'.SameGroups s₁' →
        w.Opens s₁ s₁' (readExtension inner false start) (readExtension inner' false start')) :
    w.Extends pieces s more more' t t' := by
  obtain ⟨_, s₁, _, s₂, left, same, isRead, behind⟩ := exists_of_readPieces_extension stands given
  obtain ⟨_, s₁', _, s₂', right, same', isRead', behind'⟩ :=
    exists_of_readPieces_extension stands' given'
  obtain ⟨ofBranch, ofBranch', step⟩ :=
    Comparison.Opens.extends (opens left right same same') moved isRead isRead'
  exact (step.trans (continues step.abreast step.moved (behind ofBranch) (behind' ofBranch'))).of_same
    same

/-- A token that is not part of a set or a group ends the branch or is read as the same part. -/
theorem Comparison.Continues.extends_token {token : Token} {u u' : Text} {names names' : List Text}
    (proper : token.IsProper) (part : token.IsPart (BeginsOctal u)) (twins : Twins w.kept u names u' names')
    (stands : s.Stands w.left (token.text ++ u))
    (stands' : s'.Stands w.right (token.text ++ (u' ++ (')' : CodePoint) :: w.tail)))
    (groups : w.Groups names names' s s') (abreast : w.Abreast s s') :
    w.Extends pieces s more more' t t' := by
  by_cases isEnd : token = .plain '|' ∨ token = .plain ')'
  · have closes : some token = none ∨ some token = some (.plain '|') ∨
        some token = some (.plain ')') := .inr (isEnd.imp (congrArg some) (congrArg some))
    exact abreast.extends_end moved given given' ((stands.next_token proper).symm ▸ closes)
      ((stands'.next_token proper).symm ▸ closes)
  · have inside : ∀ c ∈ ("|)(" : Text), token ≠ .plain c := by
      rintro c mem rfl
      have mem : c ∈ [('|' : CodePoint), (')' : CodePoint), ('(' : CodePoint)] := mem
      simp only [List.mem_cons, List.not_mem_nil, or_false] at mem
      rcases mem with rfl | rfl | rfl
      · exact isEnd (.inl rfl)
      · exact isEnd (.inr rfl)
      · exact absurd (by decide) part
    exact continues.extends_part given given' proper inside stands stands' fun left right same same' =>
      Comparison.Abreast.readPart part left ⟨u, names, u', names', twins, left, right,
        groups.of_same same same'⟩ moved

/-- A group without a name is read in the same way on both sides, if nested groups are. -/
theorem Comparison.Continues.extends_capture (reads : w.Reads (inner.alternatives false false)
    (inner'.alternatives false false)) {u u' : Text} {names names' : List Text}
    (bare : u.head? ≠ some ('?' : CodePoint)) (bare' : u'.head? ≠ some ('?' : CodePoint))
    (twins : Twins w.kept u names u' names') (stands : s.Stands w.left (('(' : CodePoint) :: u))
    (stands' : s'.Stands w.right (('(' : CodePoint) :: (u' ++ (')' : CodePoint) :: w.tail)))
    (groups : w.Groups names names' s s') : w.Extends pieces s more more' t t' := by
  have bare' : (u' ++ (')' : CodePoint) :: w.tail).head? ≠ some ('?' : CodePoint) := by
    cases u' with
    | nil => exact fun here => absurd (Option.some.inj here) (by decide)
    | cons c u' => exact bare'
  obtain ⟨_, s₁, r, s₂, left, same, isRead, behind⟩ := exists_of_readPieces_capture bare stands given
  obtain ⟨_, s₁', r', s₂', right, same', isRead', behind'⟩ :=
    exists_of_readPieces_capture bare' stands' given'
  have groups := groups.of_same same same'
  obtain ⟨step, noLeaf, abreast⟩ := reads.readCapture (fun isOpened isOpened' => by
    obtain ⟨rfl, rfl⟩ := Read.gives_openGroup_none.mp isOpened
    obtain ⟨rfl, rfl⟩ := Read.gives_openGroup_none.mp isOpened'
    exact ⟨groups.begun, groups.numbers, u, names, u', names', twins,
      Read.stands_of_place left rfl rfl, Read.stands_of_place right rfl rfl, groups.open⟩)
    isRead isRead'
  have rest := continues abreast (.cons (.single step) moved) behind behind'
  exact ⟨rest.moved, rest.abreast, fun leaves =>
    absurd (plain_single.mp (rest.plain leaves).1).1 noLeaf⟩

end

/-- Branches are read in the same way on both sides, if nested groups are. -/
theorem Comparison.Reads.continues (reads : w.Reads (inner.alternatives false false)
    (inner'.alternatives false false)) (bound bound' : Nat) :
    w.Continues (readPieces inner first false · bound) (readPieces inner' first' false · bound') := by
  induction bound generalizing bound' with
  | zero => exact fun _ _ _ _ _ _ _ _ _ _ given => absurd given Read.not_gives_fail
  | succ bound ih =>
  cases bound' with
  | zero => exact fun _ _ _ _ _ _ _ _ _ _ _ given' => absurd given' Read.not_gives_fail
  | succ bound' =>
  intro s s' pieces pieces' abreast moved more more' t t' given given'
  have behind := ih bound'
  obtain ⟨u, names, u', names', twins, stands, stands', groups⟩ := id abreast
  cases twins with
  | nil =>
      exact abreast.extends_end moved given given' (.inl stands.next_nil)
        (.inr (.inr (next_of_plain (by decide) stands')))
  | token proper part twins =>
      rw [List.append_assoc] at stands'
      exact behind.extends_token moved given given' proper part twins stands stands' groups abreast
  | set isBody proper twins =>
      rw [List.cons_append, List.append_assoc] at stands'
      exact behind.extends_part given given' (Token.isProper_plain (by decide)) (by decide) stands stands'
        fun left right same same' =>
          Comparison.extends_set isBody proper twins left right (groups.of_same same same') moved
  | opening bare bare' twins =>
      exact behind.extends_capture moved given given' reads bare bare' twins stands stands' groups
  | bundle kind twins =>
      exact behind.extends_extension moved given given' stands stands' fun left right same same' =>
        reads.opens_bundle kind twins left right (groups.of_same same same')
  | comment proper inside twins =>
      rw [List.cons_append, List.cons_append, List.cons_append, List.append_assoc, List.cons_append]
        at stands'
      exact behind.extends_extension moved given given' stands stands' fun left right same same' =>
        Comparison.opens_comment proper inside twins left right (groups.of_same same same')
  | group isName isName' keeps twins =>
      rw [List.append_assoc] at stands'
      exact behind.extends_extension moved given given' stands stands' fun left right same same' =>
        reads.opens_group isName isName' keeps twins left right (groups.of_same same same')
  | reference isName isKept twins =>
      rw [written_reference_append] at stands
      rw [List.append_assoc, written_reference_append] at stands'
      exact behind.extends_extension moved given given' stands stands' fun left right same same' =>
        Comparison.opens_reference isName isKept twins left right (groups.of_same same same')

/-! ## Alternatives -/

theorem MovedPiece.expressions {amount : Nat} {pieces pieces' : List Piece}
    (moved : List.Forall₂ (MovedPiece amount) pieces pieces') :
    List.Forall₂ (Moved amount) (pieces.flatMap Piece.expressions)
      (pieces'.flatMap Piece.expressions) := by
  induction moved with
  | nil => exact .nil
  | cons first _ ih =>
      rw [List.flatMap_cons, List.flatMap_cons]
      refine List.rel_append ?_ ih
      cases first with
      | single moved => exact .cons moved .nil
      | bundle moved => exact moved

/-- Branches give the same expressions but for the numbers of groups. -/
theorem Comparison.Reads.branch (reads : w.Reads (inner.alternatives false false)
    (inner'.alternatives false false)) (first first' : Bool) : w.Reads
      (do
        let pieces ← Pattern.readPieces inner first false [] (← Read.rounds)
        return pieces.reverse.flatMap Piece.expressions)
      (do
        let pieces ← Pattern.readPieces inner' first' false [] (← Read.rounds)
        return pieces.reverse.flatMap Piece.expressions) := by
  intro s s' abreast a b t t' given given'
  rw [Read.gives_rounds_bind] at given given'
  obtain ⟨pieces, _, isRead, last⟩ := Read.gives_bind.mp given
  obtain ⟨pieces', _, isRead', last'⟩ := Read.gives_bind.mp given'
  obtain ⟨rfl, rfl⟩ := Read.gives_pure.mp last
  obtain ⟨rfl, rfl⟩ := Read.gives_pure.mp last'
  have all := reads.continues _ _ abreast .nil isRead isRead'
  refine ⟨MovedPiece.expressions (List.rel_reverse all.moved), all.abreast, fun leaves => ?_⟩
  refine (all.plain fun piece mem r isPart => leaves r ?_).2
  exact List.mem_flatMap.mpr ⟨piece, List.mem_reverse.mpr mem, isPart⟩

/-- Lists of branches are read in the same way on both sides, if branches are. -/
theorem Comparison.readBranches {branch branch' : Bool → Bool → Read (List Regex)}
    (reads : ∀ first first', w.Reads (branch false first) (branch' false first')) {whole : Bool}
    {branches branches' a b : List (List Regex)}
    (moved : List.Forall₂ (List.Forall₂ (Moved w.amount)) branches branches') (abreast : w.Abreast s s')
    (given : (readBranches branch false whole branches bound).Gives w.left s a t)
    (given' : (Pattern.readBranches branch' false false branches' bound').Gives w.right s' b t') :
    List.Forall₂ (List.Forall₂ (Moved w.amount)) a b ∧ w.Abreast t t' ∧ a ≠ [] ∧ branches <+: a ∧
      ((∀ branch ∈ a, ∀ r ∈ branch, r.IsLeaf) → t.names = s.names) := by
  induction bound generalizing bound' s s' branches branches' with
  | zero => cases Read.not_gives_fail given
  | succ bound ih =>
  cases bound' with
  | zero => cases Read.not_gives_fail given'
  | succ bound' =>
  rw [Pattern.readBranches] at given given'
  obtain ⟨next, s₁, isRead, given⟩ := Read.gives_bind.mp given
  obtain ⟨next', s₁', isRead', given'⟩ := Read.gives_bind.mp given'
  obtain ⟨step, abreast, names⟩ := reads _ _ abreast isRead isRead'
  have moved := List.rel_append moved (.cons step .nil)
  obtain ⟨_, s₂, accepts, given⟩ := Read.gives_bind.mp given
  obtain ⟨found, s₂', accepts', given'⟩ := Read.gives_bind.mp given'
  obtain ⟨rfl, same, abreast⟩ := abreast.definite (definite_accept (by decide)) accepts accepts'
  cases found with
  | false =>
      obtain ⟨rfl, rfl⟩ := Read.gives_pure.mp given
      obtain ⟨rfl, rfl⟩ := Read.gives_pure.mp given'
      refine ⟨moved, abreast, by simp, List.prefix_append _ _, fun leaves => same.trans (names ?_)⟩
      exact leaves next (List.mem_append_right _ List.mem_cons_self)
  | true =>
      have plain : s₂.flags.verbose = false := by
        obtain ⟨_, _, _, _, _, _, _, groups⟩ := abreast
        exact congrArg Flags.verbose groups.flags
      rw [if_pos rfl, Read.gives_get_bind] at given given'
      dsimp only at given
      rw [plain, ite_self] at given
      obtain ⟨all, abreast, inhabited, isPrefix, names'⟩ := ih moved abreast given given'
      refine ⟨all, abreast, inhabited, (List.prefix_append _ _).trans isPrefix, fun leaves => ?_⟩
      refine (names' leaves).trans (same.trans (names ?_))
      exact leaves next (isPrefix.mem (List.mem_append_right _ List.mem_cons_self))

/-- Two patterns that differ in the names of groups only are read to the same expressions but for the
numbers of groups. -/
theorem Comparison.reads_readers (w : Comparison) (depth depth' : Nat) (whole : Bool) :
    w.Reads ((readers depth).alternatives false whole) ((readers depth').alternatives false false) := by
  induction depth generalizing depth' whole with
  | zero => exact fun _ _ _ _ _ given => absurd given Read.not_gives_fail
  | succ depth ih =>
  cases depth' with
  | zero => exact fun _ _ _ _ _ _ given' => absurd given' Read.not_gives_fail
  | succ depth' =>
  intro s s' abreast a b t t' given given'
  rw [readers] at given given'
  dsimp only at given given'
  rw [Read.gives_rounds_bind] at given given'
  obtain ⟨branches, _, isRead, last⟩ := Read.gives_bind.mp given
  obtain ⟨branches', _, isRead', last'⟩ := Read.gives_bind.mp given'
  obtain ⟨rfl, rfl⟩ := Read.gives_pure.mp last
  obtain ⟨rfl, rfl⟩ := Read.gives_pure.mp last'
  have nested : w.Reads ((readers depth).alternatives false false)
      ((readers depth').alternatives false false) := ih depth' false
  obtain ⟨moved, abreast, inhabited, -, names⟩ :=
    Comparison.readBranches nested.branch .nil abreast isRead isRead'
  exact ⟨Moved.joinBranches moved, abreast, fun leaves =>
    names (isLeaf_of_joinBranches inhabited leaves)⟩

end ClassHarvest.Pattern
