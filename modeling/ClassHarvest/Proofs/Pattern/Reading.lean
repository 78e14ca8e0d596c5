import ClassHarvest.Pattern.Reader

/-!
# Running the reader of patterns

What a reader gives, and what the elementary readers leave unread.  Where a pattern is read from is
told by the rest of the pattern.
-/

namespace ClassHarvest.Pattern

variable {α β : Type} {pattern : Array CodePoint} {s s' s'' : ReadState}

/-! ## Readers that give a value -/

/-- A reader gives a value and leaves a state. -/
def Read.Gives (reader : Read α) (pattern : Array CodePoint) (before : ReadState) (value : α)
    (after : ReadState) : Prop :=
  (reader.run pattern).run before = .ok (value, after)

namespace Read

theorem gives_pure {a b : α} : (pure a : Read α).Gives pattern s b s' ↔ b = a ∧ s' = s := by
  change Except.ok (a, s) = Except.ok (b, s') ↔ _
  rw [Except.ok.injEq, Prod.mk.injEq]
  exact ⟨fun ⟨value, state⟩ => ⟨value.symm, state.symm⟩, fun ⟨value, state⟩ => ⟨value.symm, state.symm⟩⟩

theorem gives_bind {x : Read α} {f : α → Read β} {b : β} :
    (x >>= f).Gives pattern s b s'' ↔
      ∃ a s', x.Gives pattern s a s' ∧ (f a).Gives pattern s' b s'' := by
  unfold Gives
  rw [ReaderT.run_bind, StateT.run_bind]
  cases (x.run pattern).run s with
  | error error =>
      refine iff_of_false nofun ?_
      rintro ⟨_, _, found, _⟩
      cases found
  | ok found =>
      constructor
      · exact fun found' => ⟨_, _, rfl, found'⟩
      · rintro ⟨_, _, found, found'⟩
        cases found
        exact found'

theorem not_gives_throw {error : ReadError} {a : α} :
    ¬ (throw error : Read α).Gives pattern s a s' :=
  nofun

theorem not_gives_failAt {cause : Cause} {position : Nat} {a : α} :
    ¬ (failAt cause position : Read α).Gives pattern s a s' :=
  nofun

theorem not_gives_fail {cause : Cause} {back : Nat} {a : α} :
    ¬ (fail cause back : Read α).Gives pattern s a s' :=
  nofun

theorem gives_get_bind {f : ReadState → Read β} {b : β} :
    ((get : Read ReadState) >>= f).Gives pattern s b s' ↔ (f s).Gives pattern s b s' :=
  Iff.rfl

theorem gives_read_bind {f : Array CodePoint → Read β} {b : β} :
    ((read : Read (Array CodePoint)) >>= f).Gives pattern s b s' ↔ (f pattern).Gives pattern s b s' :=
  Iff.rfl

theorem gives_set_bind {state : ReadState} {f : PUnit → Read β} {b : β} :
    ((set state : Read PUnit) >>= f).Gives pattern s b s' ↔ (f ⟨⟩).Gives pattern state b s' :=
  Iff.rfl

theorem gives_modify {change : ReadState → ReadState} {u : PUnit} :
    (modify change : Read PUnit).Gives pattern s u s' ↔ s' = change s := by
  change Except.ok ((⟨⟩ : PUnit), change s) = Except.ok (u, s') ↔ _
  rw [Except.ok.injEq, Prod.mk.injEq]
  exact ⟨fun found => found.2.symm, fun found => ⟨rfl, found.symm⟩⟩

end Read

/-! ## Places -/

/-- A token as it is cut off from a pattern: a backslash always takes the character behind it. -/
def Token.IsProper : Token → Prop
  | .plain c => c.val ≠ 92
  | .escaped _ => True

theorem Token.isProper_plain {c : CodePoint} (proper : c.val ≠ 92) : (Token.plain c).IsProper :=
  proper

theorem Token.text_append_inj {t t' : Token} {rest rest' : Text} (proper : t.IsProper)
    (proper' : t'.IsProper) (same : t.text ++ rest = t'.text ++ rest') : t = t' ∧ rest = rest' := by
  cases t with
  | plain c =>
      cases t' with
      | plain d =>
          obtain ⟨rfl, rfl⟩ := List.cons.inj same
          exact ⟨rfl, rfl⟩
      | escaped d =>
          obtain ⟨rfl, -⟩ := List.cons.inj same
          exact absurd rfl proper
  | escaped c =>
      cases t' with
      | plain d =>
          obtain ⟨rfl, -⟩ := List.cons.inj same
          exact absurd rfl proper'
      | escaped d =>
          obtain ⟨rfl, rfl⟩ := List.cons.inj (List.cons.inj same).2
          exact ⟨rfl, rfl⟩

theorem Token.length_text (t : Token) : t.text.length = t.size := by
  cases t <;> rfl

/-- The next token of a state is the first one of a text that begins at a place. -/
inductive ReadState.Shows (state : ReadState) (place : Nat) : Text → Prop
  /-- Nothing is left. -/
  | done (next : state.next = none) (index : state.index = place) : Shows state place []
  /-- The first token is next. -/
  | token {t : Token} {rest : Text} (proper : t.IsProper) (next : state.next = some t)
      (index : state.index = place + t.size) : Shows state place (t.text ++ rest)

/-- What a state has not yet read of a pattern. -/
def ReadState.Stands (pattern : Array CodePoint) (state : ReadState) (rest : Text) : Prop :=
  ∃ front, pattern.toList = front ++ rest ∧ state.Shows front.length rest

/-- Two states that differ at most in what they have read. -/
structure ReadState.SameGroups (state state' : ReadState) : Prop where
  /-- The names of groups. -/
  names : state'.names = state.names
  /-- The groups. -/
  widths : state'.widths = state.widths
  /-- The flags. -/
  flags : state'.flags = state.flags

namespace ReadState

theorem SameGroups.refl (s : ReadState) : s.SameGroups s :=
  ⟨rfl, rfl, rfl⟩

theorem SameGroups.trans (first : s.SameGroups s') (second : s'.SameGroups s'') : s.SameGroups s'' :=
  ⟨second.names.trans first.names, second.widths.trans first.widths, second.flags.trans first.flags⟩

namespace Stands

variable {t : Token} {rest : Text}

theorem next_nil (stands : s.Stands pattern []) : s.next = none := by
  obtain ⟨front, _, shows'⟩ := stands
  generalize isNil : ([] : Text) = rest at shows'
  cases shows' with
  | done next => exact next
  | @token t => cases t <;> cases isNil

theorem next_token (proper : t.IsProper) (stands : s.Stands pattern (t.text ++ rest)) :
    s.next = some t := by
  obtain ⟨front, _, shows'⟩ := stands
  generalize same : t.text ++ rest = unread at shows'
  cases shows' with
  | done => cases t <;> cases same
  | token proper' next _ => rw [next, (Token.text_append_inj proper proper' same).1]

/-- The place of the next token. -/
theorem exists_place (stands : s.Stands pattern rest) :
    ∃ front, pattern.toList = front ++ rest ∧
      s.index - (s.next.map Token.size).getD 0 = front.length := by
  obtain ⟨front, whole, shows'⟩ := stands
  refine ⟨front, whole, ?_⟩
  cases shows' with
  | done next index =>
      rw [next, index]
      rfl
  | token _ next index =>
      rw [next, index]
      exact Nat.add_sub_cancel _ _

end Stands

end ReadState

/-! ## Elementary readers -/

namespace Read

variable {t : Token} {front rest : Text} {u : Unit}

/-- Moving on to a place. -/
theorem stands_of_seek (gives : (seek front.length).Gives pattern s u s')
    (whole : pattern.toList = front ++ rest) : s'.Stands pattern rest ∧ s.SameGroups s' := by
  have here : pattern[front.length]? = rest.head? := by
    rw [← Array.getElem?_toList, whole, List.getElem?_append_right (Nat.le_refl _), Nat.sub_self,
      List.head?_eq_getElem?]
  unfold seek at gives
  rw [gives_read_bind, here] at gives
  cases rest with
  | nil =>
      obtain rfl := gives_modify.mp gives
      exact ⟨⟨front, whole, .done rfl rfl⟩, ⟨rfl, rfl, rfl⟩⟩
  | cons c rest =>
      simp only [List.head?_cons] at gives
      split at gives
      · next isBackslash =>
          obtain rfl : c = '\\' := CodePoint.val_inj isBackslash
          have behind : pattern[front.length + 1]? = rest.head? := by
            rw [← Array.getElem?_toList, whole, List.getElem?_append_right (Nat.le_add_right _ _),
              Nat.add_sub_cancel_left, List.getElem?_cons_succ, List.head?_eq_getElem?]
          rw [behind] at gives
          cases rest with
          | nil => cases not_gives_failAt gives
          | cons d rest =>
              obtain rfl := gives_modify.mp gives
              refine ⟨⟨front, whole, ?_⟩, ⟨rfl, rfl, rfl⟩⟩
              exact ReadState.Shows.token (t := .escaped d) trivial rfl rfl
      · next proper =>
          obtain rfl := gives_modify.mp gives
          refine ⟨⟨front, whole, ?_⟩, ⟨rfl, rfl, rfl⟩⟩
          exact ReadState.Shows.token (t := .plain c) proper rfl rfl

theorem gives_advance : advance.Gives pattern s u s' ↔ (seek s.index).Gives pattern s u s' :=
  Iff.rfl

theorem gives_peek_bind {f : Option Token → Read β} {b : β} :
    (peek >>= f).Gives pattern s b s' ↔ (f s.next).Gives pattern s b s' :=
  Iff.rfl

theorem gives_tell_bind {f : Nat → Read β} {b : β} : (tell >>= f).Gives pattern s b s' ↔
    (f (s.index - (s.next.map Token.size).getD 0)).Gives pattern s b s' :=
  Iff.rfl

theorem gives_rounds_bind {f : Nat → Read β} {b : β} :
    (rounds >>= f).Gives pattern s b s' ↔ (f (pattern.size + 2)).Gives pattern s b s' :=
  Iff.rfl

/-- Moving on behind the next token. -/
theorem stands_of_advance (proper : t.IsProper) (stands : s.Stands pattern (t.text ++ rest))
    (gives : advance.Gives pattern s u s') : s'.Stands pattern rest ∧ s.SameGroups s' := by
  have next := stands.next_token proper
  obtain ⟨front, whole, shows'⟩ := stands
  have index : s.index = (front ++ t.text).length := by
    rw [List.length_append, Token.length_text]
    generalize t.text ++ rest = unread at shows'
    cases shows' with
    | done isNone => cases next.symm.trans isNone
    | token _ isNext index =>
        cases next.symm.trans isNext
        exact index
  rw [gives_advance, index] at gives
  exact stands_of_seek gives (by rw [whole, List.append_assoc])

theorem gives_take {next : Option Token} : take.Gives pattern s next s' ↔
    next = s.next ∧ ∃ u, advance.Gives pattern s u s' := by
  unfold take
  rw [gives_peek_bind, gives_bind]
  constructor
  · rintro ⟨u, _, advances, last⟩
    obtain ⟨rfl, rfl⟩ := gives_pure.mp last
    exact ⟨rfl, u, advances⟩
  · rintro ⟨rfl, u, advances⟩
    exact ⟨u, s', advances, gives_pure.mpr ⟨rfl, rfl⟩⟩

theorem stands_of_take {next : Option Token} (proper : t.IsProper)
    (stands : s.Stands pattern (t.text ++ rest)) (gives : take.Gives pattern s next s') :
    next = some t ∧ s'.Stands pattern rest ∧ s.SameGroups s' := by
  obtain ⟨isNext, _, advances⟩ := gives_take.mp gives
  exact ⟨isNext.trans (stands.next_token proper), stands_of_advance proper stands advances⟩

theorem gives_accept {c : Char} {found : Bool} : (accept c).Gives pattern s found s' ↔
    (s.next = some (.plain c) ∧ found = true ∧ ∃ u, advance.Gives pattern s u s') ∨
      (s.next ≠ some (.plain c) ∧ found = false ∧ s' = s) := by
  unfold accept
  rw [gives_peek_bind]
  split
  · next isC =>
      rw [gives_bind]
      constructor
      · rintro ⟨u, _, advances, last⟩
        obtain ⟨rfl, rfl⟩ := gives_pure.mp last
        exact .inl ⟨isC, rfl, u, advances⟩
      · rintro (⟨_, rfl, u, advances⟩ | ⟨other, _⟩)
        · exact ⟨u, s', advances, gives_pure.mpr ⟨rfl, rfl⟩⟩
        · exact absurd isC other
  · next other =>
      rw [gives_pure]
      constructor
      · exact fun same => .inr ⟨other, same⟩
      · rintro (⟨isC, _⟩ | ⟨_, same⟩)
        · exact absurd isC other
        · exact same

/-- A character that is accepted is read. -/
theorem stands_of_accept {c : Char} {found : Bool} (proper : (c : CodePoint).val ≠ 92)
    (stands : s.Stands pattern ((c : CodePoint) :: rest)) (gives : (accept c).Gives pattern s found s') :
    found = true ∧ s'.Stands pattern rest ∧ s.SameGroups s' := by
  have isProper : (Token.plain c).IsProper := proper
  have next : s.next = some (.plain c) := ReadState.Stands.next_token isProper
    (show s.Stands pattern ((Token.plain (c : CodePoint)).text ++ rest) from stands)
  rcases gives_accept.mp gives with ⟨_, rfl, u, advances⟩ | ⟨other, _⟩
  · exact ⟨rfl, stands_of_advance isProper stands advances⟩
  · exact absurd next other

/-- The next token is taken, and the reader goes on with it. -/
theorem exists_of_take_bind (proper : t.IsProper) (stands : s.Stands pattern (t.text ++ rest))
    {f : Option Token → Read β} {b : β} (gives : (take >>= f).Gives pattern s b s') :
    ∃ s₁, s₁.Stands pattern rest ∧ s.SameGroups s₁ ∧ (f (some t)).Gives pattern s₁ b s' := by
  obtain ⟨next, s₁, takes, last⟩ := gives_bind.mp gives
  obtain ⟨rfl, behind, same⟩ := stands_of_take proper stands takes
  exact ⟨s₁, behind, same, last⟩

/-- A character that stands next is accepted, and the reader goes on behind it. -/
theorem exists_of_accept_bind {c : Char} (proper : (c : CodePoint).val ≠ 92)
    (stands : s.Stands pattern ((c : CodePoint) :: rest)) {f : Bool → Read β} {b : β}
    (gives : (accept c >>= f).Gives pattern s b s') :
    ∃ s₁, s₁.Stands pattern rest ∧ s.SameGroups s₁ ∧ (f true).Gives pattern s₁ b s' := by
  obtain ⟨found, s₁, accepts, last⟩ := gives_bind.mp gives
  obtain ⟨rfl, behind, same⟩ := stands_of_accept proper stands accepts
  exact ⟨s₁, behind, same, last⟩

/-- Another token than the one that is asked for is left. -/
theorem gives_of_refuse_bind {c : Char} (other : s.next ≠ some (.plain c)) {f : Bool → Read β} {b : β}
    (gives : (accept c >>= f).Gives pattern s b s') : (f false).Gives pattern s b s' := by
  obtain ⟨found, s₁, accepts, last⟩ := gives_bind.mp gives
  rcases gives_accept.mp accepts with ⟨here, _⟩ | ⟨_, rfl, rfl⟩
  · exact absurd here other
  · exact last

/-! ## Names and comments -/

/-- What stands in front of a terminator is taken. -/
theorem stands_of_takeUntil {terminator : CodePoint} (proper : terminator.val ≠ 92) {name : Text}
    (plain : ∀ c ∈ name, c.val ≠ 92 ∧ c ≠ terminator)
    (stands : s.Stands pattern (name ++ terminator :: rest)) {what taken found : Text} {bound : Nat}
    (gives : (takeUntil terminator what taken bound).Gives pattern s found s') :
    found = taken ++ name ∧ s'.Stands pattern rest ∧ s.SameGroups s' := by
  induction name generalizing taken bound s with
  | nil =>
      cases bound with
      | zero => cases not_gives_fail gives
      | succ bound =>
          rw [takeUntil] at gives
          obtain ⟨next, t, takes, last⟩ := gives_bind.mp gives
          have isProper : (Token.plain terminator).IsProper := proper
          obtain ⟨rfl, stands, same⟩ := stands_of_take isProper stands takes
          dsimp only at last
          rw [if_pos rfl] at last
          split at last
          · cases not_gives_fail last
          · obtain ⟨rfl, rfl⟩ := gives_pure.mp last
            exact ⟨(List.append_nil _).symm, stands, same⟩
  | cons c name ih =>
      rw [List.forall_mem_cons] at plain
      cases bound with
      | zero => cases not_gives_fail gives
      | succ bound =>
          rw [takeUntil] at gives
          obtain ⟨next, t, takes, last⟩ := gives_bind.mp gives
          have isProper : (Token.plain c).IsProper := plain.1.1
          obtain ⟨rfl, stands, same⟩ := stands_of_take isProper stands takes
          dsimp only at last
          rw [if_neg fun here => plain.1.2 (Token.plain.inj here)] at last
          obtain ⟨rfl, behind, more⟩ := ih plain.2 stands last
          exact ⟨List.append_assoc taken [c] name, behind, same.trans more⟩

theorem stands_of_groupName {terminator : CodePoint} (proper : terminator.val ≠ 92) {name : Text}
    (plain : ∀ c ∈ name, c.val ≠ 92 ∧ c ≠ terminator)
    (stands : s.Stands pattern (name ++ terminator :: rest)) {found : Text}
    (gives : (groupName terminator).Gives pattern s found s') :
    found = name ∧ s'.Stands pattern rest ∧ s.SameGroups s' := by
  unfold groupName at gives
  rw [gives_rounds_bind] at gives
  obtain ⟨name', t, takes, last⟩ := gives_bind.mp gives
  obtain ⟨rfl, behind, same⟩ := stands_of_takeUntil proper plain stands takes
  dsimp only at last
  split at last
  · obtain ⟨_, _, fails, _⟩ := gives_bind.mp last
    cases not_gives_fail fails
  · obtain ⟨rfl, rfl⟩ := gives_pure.mp last
    exact ⟨rfl, behind, same⟩

theorem gives_closeParenthesis {start : Nat} :
    (closeParenthesis start).Gives pattern s u s' ↔ (accept ')').Gives pattern s true s' := by
  unfold closeParenthesis
  rw [gives_bind]
  constructor
  · rintro ⟨found, t, accepts, last⟩
    cases found with
    | false => cases not_gives_failAt last
    | true =>
        obtain ⟨-, rfl⟩ := gives_pure.mp last
        exact accepts
  · exact fun accepts => ⟨true, s', accepts, gives_pure.mpr ⟨rfl, rfl⟩⟩

/-! ## Groups -/

/-- What is unread does not depend on the groups. -/
theorem stands_of_place (stands : s.Stands pattern rest) (next : s'.next = s.next)
    (index : s'.index = s.index) : s'.Stands pattern rest := by
  obtain ⟨front, whole, shows'⟩ := stands
  refine ⟨front, whole, ?_⟩
  cases shows' with
  | done isNext isIndex => exact .done (next.trans isNext) (index.trans isIndex)
  | token proper isNext isIndex => exact .token proper (next.trans isNext) (index.trans isIndex)

theorem gives_openGroup_none {number : Nat} : (openGroup none).Gives pattern s number s' ↔
    number = s.widths.length ∧ s' = { s with widths := s.widths ++ [none] } := by
  unfold openGroup
  rw [gives_get_bind]
  dsimp only
  rw [gives_set_bind]
  exact gives_pure

theorem gives_openGroup_some {name : Text} {number : Nat}
    (gives : (openGroup (some name)).Gives pattern s number s') :
    s.names.lookup name = none ∧ number = s.widths.length ∧
      s' = { s with
        widths := s.widths ++ [none]
        names := s.names ++ [(name, s.widths.length)] } := by
  unfold openGroup at gives
  rw [gives_get_bind] at gives
  dsimp only at gives
  split at gives
  · obtain ⟨_, _, fails, _⟩ := gives_bind.mp gives
    cases not_gives_fail fails
  · next isNew =>
      rw [gives_set_bind] at gives
      obtain ⟨rfl, rfl⟩ := gives_pure.mp gives
      exact ⟨isNew, rfl, rfl⟩

theorem gives_checkLookBehind {index : Nat} (gives : (checkLookBehind index).Gives pattern s u s') :
    s' = s := by
  unfold checkLookBehind at gives
  rw [gives_get_bind] at gives
  split at gives
  · exact (gives_pure.mp gives).2
  · split at gives
    · cases not_gives_fail gives
    · split at gives
      · cases not_gives_fail gives
      · exact (gives_pure.mp gives).2

/-- A reference by name is to the group of that name. -/
theorem gives_namedReference {name : Text} {r : Regex} (plain : ∀ c ∈ name, c.val ≠ 92 ∧ c ≠ ')')
    (stands : s.Stands pattern (name ++ (')' : CodePoint) :: rest))
    (gives : namedReference.Gives pattern s r s') : ∃ index, s.names.lookup name = some index ∧
      r = .backReference index ∧ s'.Stands pattern rest ∧ s.SameGroups s' := by
  unfold namedReference at gives
  obtain ⟨name', t, isRead, last⟩ := gives_bind.mp gives
  obtain ⟨rfl, behind, same⟩ := stands_of_groupName (by decide) plain stands isRead
  rw [gives_get_bind, same.names] at last
  split at last
  · cases not_gives_fail last
  · next index found =>
      dsimp only at last
      split at last
      · obtain ⟨_, _, fails, _⟩ := gives_bind.mp last
        cases not_gives_fail fails
      · obtain ⟨_, _, checks, returns⟩ := gives_bind.mp last
        obtain rfl := gives_checkLookBehind checks
        obtain ⟨rfl, rfl⟩ := gives_pure.mp returns
        exact ⟨index, found, rfl, behind, same⟩

end Read

end ClassHarvest.Pattern
