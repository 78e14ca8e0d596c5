import ClassHarvest.Proofs.Pattern.Reading
import ClassHarvest.Proofs.Separation
import Mathlib.Data.List.Infix

/-!
# Readers of single parts

Escapes, sets and quantifiers are read from the tokens in front of the next parenthesis.  Two patterns
with the same tokens there, whatever stands before and behind, are read in the same way.
-/

namespace ClassHarvest.Pattern

variable {α β : Type}

/-! ## Two patterns side by side -/

/-- The text of tokens. -/
def texts (ts : List Token) : Text :=
  ts.flatMap Token.text

theorem texts_cons_append (t : Token) (ts : List Token) (rest : Text) :
    texts (t :: ts) ++ rest = t.text ++ (texts ts ++ rest) := by
  rw [texts, List.flatMap_cons, List.append_assoc]
  rfl

/-- A text begins with a parenthesis or a bracket, if with anything: no escape or quantifier goes on
there. -/
def Stops (rest : Text) : Prop :=
  ∀ c ∈ rest.head?, c ∈ (")([]" : Text)

/-- Two patterns, each with what follows some tokens in it. -/
structure Sides where
  /-- The first pattern. -/
  left : Array CodePoint
  /-- The second pattern. -/
  right : Array CodePoint
  /-- What follows the tokens in the first pattern. -/
  behind : Text
  /-- What follows the tokens in the second pattern. -/
  behind' : Text
  /-- Nothing that began before goes on in the first pattern. -/
  stops : Stops behind
  /-- Nothing that began before goes on in the second pattern. -/
  stops' : Stops behind'

/-- Both patterns are read up to the same tokens. -/
structure Sides.Face (sides : Sides) (ts : List Token) (s s' : ReadState) : Prop where
  /-- The tokens are cut off properly. -/
  proper : ∀ t ∈ ts, t.IsProper
  /-- The tokens in the first pattern. -/
  left : s.Stands sides.left (texts ts ++ sides.behind)
  /-- The tokens in the second pattern. -/
  right : s'.Stands sides.right (texts ts ++ sides.behind')

/-- Two readers, if both give a value, give the same one and leave the same end of some tokens. -/
def Sides.Agree (sides : Sides) (ts : List Token) (s s' : ReadState) (x y : Read α) : Prop :=
  ∀ a b t t', x.Gives sides.left s a t → y.Gives sides.right s' b t' → b = a ∧ s.SameGroups t ∧
    s'.SameGroups t' ∧ ∃ ts', ts' <:+ ts ∧ sides.Face ts' t t'

/-- What a reader gives depends on the tokens alone. -/
class Definite (x : Read α) : Prop where
  agree : ∀ {sides : Sides} {ts : List Token} {s s' : ReadState}, sides.Face ts s s' →
    sides.Agree ts s s' x x

section

variable {sides : Sides} {ts : List Token} {s s' : ReadState} {t : Token}

namespace Sides.Face

theorem tail (face : sides.Face (t :: ts) s s') {u u' : ReadState}
    (left : u.Stands sides.left (texts ts ++ sides.behind))
    (right : u'.Stands sides.right (texts ts ++ sides.behind')) : sides.Face ts u u' :=
  ⟨(List.forall_mem_cons.mp face.proper).2, left, right⟩

theorem isProper (face : sides.Face (t :: ts) s s') : t.IsProper :=
  (List.forall_mem_cons.mp face.proper).1

theorem stands (face : sides.Face (t :: ts) s s') :
    s.Stands sides.left (t.text ++ (texts ts ++ sides.behind)) ∧
      s'.Stands sides.right (t.text ++ (texts ts ++ sides.behind')) := by
  have left := face.left
  have right := face.right
  rw [texts_cons_append] at left right
  exact ⟨left, right⟩

theorem next (face : sides.Face (t :: ts) s s') : s.next = some t ∧ s'.next = some t :=
  ⟨face.stands.1.next_token face.isProper, face.stands.2.next_token face.isProper⟩

end Sides.Face

/-- What stands behind the tokens is no character that any part goes on with. -/
theorem next_ne_of_stops {pattern : Array CodePoint} {rest : Text} (stops : Stops rest)
    (stands : s.Stands pattern rest) {c : CodePoint} (other : c ∉ (")([]" : Text)) :
    s.next ≠ some (.plain c) := by
  cases rest with
  | nil =>
      rw [stands.next_nil]
      exact nofun
  | cons d rest =>
      have isStop := stops d rfl
      have proper : (Token.plain d).IsProper := by
        have all : ∀ c ∈ (")([]" : Text), c.val ≠ 92 := by decide
        exact all d isStop
      have next : s.next = some (.plain d) :=
        ReadState.Stands.next_token proper
          (show s.Stands pattern ((Token.plain d).text ++ rest) from stands)
      rw [next]
      rintro ⟨⟩
      exact other isStop

theorem Sides.Face.next_iff (face : sides.Face ts s s') {c : CodePoint} (other : c ∉ (")([]" : Text)) :
    s.next = some (.plain c) ↔ s'.next = some (.plain c) := by
  cases ts with
  | nil =>
      exact iff_of_false (next_ne_of_stops sides.stops face.left other)
        (next_ne_of_stops sides.stops' face.right other)
  | cons t ts => rw [face.next.1, face.next.2]

/-! ## Rules -/

instance definite_pure (a : α) : Definite (pure a : Read α) where
  agree face b c u u' given given' := by
    obtain ⟨rfl, rfl⟩ := Read.gives_pure.mp given
    obtain ⟨rfl, rfl⟩ := Read.gives_pure.mp given'
    exact ⟨rfl, .refl _, .refl _, _, List.suffix_refl _, face⟩

theorem Sides.Agree.mono {ts' : List Token} {x y : Read α} (agree : sides.Agree ts' s s' x y)
    (suffix : ts' <:+ ts) : sides.Agree ts s s' x y := by
  intro a b u u' given given'
  obtain ⟨same, kept, kept', rest, isEnd, face⟩ := agree a b u u' given given'
  exact ⟨same, kept, kept', rest, isEnd.trans suffix, face⟩

theorem Sides.Agree.bind {x y : Read α} {f g : α → Read β} (first : sides.Agree ts s s' x y)
    (second : ∀ a {ts' u u'}, ts' <:+ ts → sides.Face ts' u u' → sides.Agree ts u u' (f a) (g a)) :
    sides.Agree ts s s' (x >>= f) (y >>= g) := by
  intro b b' v v' given given'
  obtain ⟨a, u, given, last⟩ := Read.gives_bind.mp given
  obtain ⟨a', u', given', last'⟩ := Read.gives_bind.mp given'
  obtain ⟨rfl, same, same', ts', suffix, face⟩ := first _ _ _ _ given given'
  obtain ⟨rfl, more, more', ends⟩ := second _ suffix face _ _ _ _ last last'
  exact ⟨rfl, same.trans more, same'.trans more', ends⟩

/-- Readers that depend on the tokens alone may go on from any end of them. -/
theorem Definite.agree_of_suffix {x : Read α} (definite : Definite x) {ts' : List Token}
    (suffix : ts' <:+ ts) (face : sides.Face ts' s s') : sides.Agree ts s s' x x :=
  (definite.agree face).mono suffix

instance definite_bind {x : Read α} {f : α → Read β} [first : Definite x]
    [second : ∀ a, Definite (f a)] : Definite (x >>= f) where
  agree face := (first.agree face).bind fun a _ _ _ suffix => (second a).agree_of_suffix suffix

instance definite_throw (error : ReadError) : Definite (throw error : Read α) where
  agree _ _ _ _ _ given := nomatch given

instance definite_failAt (cause : Cause) (position : Nat) :
    Definite (Read.failAt cause position : Read α) where
  agree _ _ _ _ _ given := nomatch given

instance definite_fail (cause : Cause) (back : Nat) : Definite (Read.fail cause back : Read α) where
  agree _ _ _ _ _ given := nomatch given

instance definite_ite {c : Prop} [Decidable c] {x y : Read α} [Definite x] [Definite y] :
    Definite (if c then x else y) := by
  split <;> assumption

/-- A character is taken or not, unless it may stand behind the tokens. -/
theorem definite_accept {c : Char} (other : (c : CodePoint) ∉ (")([]" : Text)) :
    Definite (Read.accept c) where
  agree {sides ts s s'} face a b u u' given given' := by
    cases ts with
    | nil =>
        have left := next_ne_of_stops sides.stops face.left other
        have right := next_ne_of_stops sides.stops' face.right other
        rcases Read.gives_accept.mp given with ⟨taken, _⟩ | ⟨_, rfl, rfl⟩
        · exact absurd taken left
        rcases Read.gives_accept.mp given' with ⟨taken, _⟩ | ⟨_, rfl, rfl⟩
        · exact absurd taken right
        exact ⟨rfl, .refl _, .refl _, [], List.suffix_refl _, face⟩
    | cons t ts =>
        rcases Read.gives_accept.mp given with ⟨taken, rfl, _, advances⟩ | ⟨kept, rfl, rfl⟩
        · rcases Read.gives_accept.mp given' with ⟨_, rfl, _, advances'⟩ | ⟨kept, _⟩
          · obtain ⟨left, same⟩ := Read.stands_of_advance face.isProper face.stands.1 advances
            obtain ⟨right, same'⟩ := Read.stands_of_advance face.isProper face.stands.2 advances'
            exact ⟨rfl, same, same', ts, List.suffix_cons t ts, face.tail left right⟩
          · exact absurd (face.next.2.trans (face.next.1.symm.trans taken)) kept
        · rcases Read.gives_accept.mp given' with ⟨taken, _⟩ | ⟨_, rfl, rfl⟩
          · exact absurd (face.next.1.trans (face.next.2.symm.trans taken)) kept
          · exact ⟨rfl, .refl _, .refl _, _, List.suffix_refl _, face⟩

/-- No character that may stand behind the tokens satisfies a test. -/
def Halts (p : CodePoint → Bool) : Prop :=
  ∀ c ∈ (")([]" : Text), p c = false

theorem next_plain_of_stops {p : CodePoint → Bool} (halts : Halts p) {pattern : Array CodePoint}
    {rest : Text} (stops : Stops rest) (stands : s.Stands pattern rest) {c : CodePoint}
    (next : s.next = some (.plain c)) : p c = false := by
  by_contra passes
  refine next_ne_of_stops stops stands (fun mem => passes (halts c mem)) next

/-- Nothing is taken where no character satisfies the test. -/
theorem eq_nil_of_takeWhile {p : CodePoint → Bool} {pattern : Array CodePoint} {bound : Nat}
    {taken : Text} {next : Option Token} (refuses : ∀ c, next = some (.plain c) → p c = false)
    (given : Read.Gives (match next with
      | some (.plain c) => do
        if p c then
          Read.advance
          return c :: (← Read.takeWhile p bound)
        else return []
      | _ => return []) pattern s taken s') : taken = [] ∧ s' = s := by
  split at given
  · next c =>
      rw [refuses c rfl] at given
      exact Read.gives_pure.mp given
  · exact Read.gives_pure.mp given

/-- Characters that satisfy a test are taken up to the same place, also under different bounds if
neither of them is reached. -/
theorem Sides.agree_takeWhile {p : CodePoint → Bool} (halts : Halts p) {bound bound' : Nat}
    (face : sides.Face ts s s') (bounds : bound' = bound ∨ ts.length < bound ∧ ts.length < bound') :
    sides.Agree ts s s' (Read.takeWhile p bound) (Read.takeWhile p bound') := by
  induction bound generalizing bound' ts s s' with
  | zero =>
      obtain rfl : bound' = 0 := by omega
      exact (definite_pure []).agree face
  | succ bound ih =>
      obtain ⟨bound', rfl⟩ : ∃ n, bound' = n + 1 := ⟨bound' - 1, by omega⟩
      intro a b u u' given given'
      rw [Read.takeWhile, Read.gives_peek_bind] at given given'
      cases ts with
      | nil =>
          obtain ⟨rfl, rfl⟩ := eq_nil_of_takeWhile
            (fun c next => next_plain_of_stops halts sides.stops face.left next) given
          obtain ⟨rfl, rfl⟩ := eq_nil_of_takeWhile
            (fun c next => next_plain_of_stops halts sides.stops' face.right next) given'
          exact ⟨rfl, .refl _, .refl _, [], List.suffix_refl _, face⟩
      | cons t ts =>
          rw [face.next.1] at given
          rw [face.next.2] at given'
          by_cases taken : ∃ c, t = .plain c ∧ p c = true
          · obtain ⟨c, rfl, passes⟩ := taken
            simp only [passes, if_true] at given given'
            obtain ⟨_, v, advances, given⟩ := Read.gives_bind.mp given
            obtain ⟨_, v', advances', given'⟩ := Read.gives_bind.mp given'
            obtain ⟨left, same⟩ := Read.stands_of_advance face.isProper face.stands.1 advances
            obtain ⟨right, same'⟩ := Read.stands_of_advance face.isProper face.stands.2 advances'
            have smaller : bound' = bound ∨ ts.length < bound ∧ ts.length < bound' := by
              rw [List.length_cons] at bounds
              omega
            have more : sides.Agree ts v v' (do return c :: (← Read.takeWhile p bound))
                (do return c :: (← Read.takeWhile p bound')) :=
              (ih (face.tail left right) smaller).bind fun _ _ _ _ suffix =>
                (definite_pure _).agree_of_suffix suffix
            obtain ⟨rfl, rest, rest', ts', suffix, face⟩ := more _ _ _ _ given given'
            exact ⟨rfl, same.trans rest, same'.trans rest', ts', suffix.trans (List.suffix_cons _ _), face⟩
          · have refuses : ∀ c, some t = some (.plain c) → p c = false := by
              rintro c ⟨⟩
              exact Bool.eq_false_iff.mpr fun passes => taken ⟨c, rfl, passes⟩
            obtain ⟨rfl, rfl⟩ := eq_nil_of_takeWhile refuses given
            obtain ⟨rfl, rfl⟩ := eq_nil_of_takeWhile refuses given'
            exact ⟨rfl, .refl _, .refl _, _, List.suffix_refl _, face⟩

theorem length_le_texts (ts : List Token) : ts.length ≤ (texts ts).length := by
  induction ts with
  | nil => exact Nat.le_refl _
  | cons t ts ih =>
      have size : 0 < t.size := by cases t <;> simp [Token.size]
      rw [texts, List.flatMap_cons, List.length_append, ← texts, Token.length_text, List.length_cons]
      omega

theorem length_lt_rounds {pattern : Array CodePoint} {rest : Text}
    (stands : s.Stands pattern (texts ts ++ rest)) : ts.length < pattern.size + 2 := by
  obtain ⟨front, whole, _⟩ := stands
  have size := congrArg List.length whole
  rw [Array.length_toList, List.length_append, List.length_append] at size
  have length := length_le_texts ts
  omega

/-- The bound by the length of the pattern is never reached. -/
theorem Sides.agree_takeWhile_rounds {p : CodePoint → Bool} (halts : Halts p) {ts' : List Token}
    (suffix : ts' <:+ ts) (face : sides.Face ts' s s') {f g : Text → Read β}
    (second : ∀ a {ts' u u'}, ts' <:+ ts → sides.Face ts' u u' → sides.Agree ts u u' (f a) (g a)) :
    sides.Agree ts s s' (Read.rounds >>= fun bound => Read.takeWhile p bound >>= f)
      (Read.rounds >>= fun bound => Read.takeWhile p bound >>= g) := by
  intro b b' u u' given given'
  rw [Read.gives_rounds_bind] at given given'
  have digits := sides.agree_takeWhile halts face
    (.inr ⟨length_lt_rounds face.left, length_lt_rounds face.right⟩)
  exact (digits.mono suffix).bind second _ _ _ _ given given'

theorem definite_takeWhile {p : CodePoint → Bool} (halts : Halts p) (bound : Nat) :
    Definite (Read.takeWhile p bound) where
  agree face := Sides.agree_takeWhile halts face (.inl rfl)

/-- Whether a token is a plain character that satisfies a test. -/
def Token.satisfies (p : CodePoint → Bool) : Token → Bool
  | .plain c => p c
  | .escaped _ => false

theorem gives_peekIs {p : CodePoint → Bool} {pattern : Array CodePoint} {found : Bool} :
    (Read.peekIs p).Gives pattern s found s' ↔ found = s.next.any (Token.satisfies p) ∧ s' = s := by
  unfold Read.peekIs
  rw [Read.gives_peek_bind]
  match s.next with
  | some (.plain c) => exact Read.gives_pure
  | some (.escaped c) => exact Read.gives_pure
  | none => exact Read.gives_pure

theorem definite_peekIs {p : CodePoint → Bool} (halts : Halts p) : Definite (Read.peekIs p) where
  agree {sides ts s s'} face a b u u' given given' := by
    obtain ⟨rfl, rfl⟩ := gives_peekIs.mp given
    obtain ⟨rfl, rfl⟩ := gives_peekIs.mp given'
    refine ⟨?_, .refl _, .refl _, ts, List.suffix_refl _, face⟩
    cases ts with
    | nil =>
        have refuses {pattern : Array CodePoint} {rest : Text} {v : ReadState} (stops : Stops rest)
            (stands : v.Stands pattern rest) : v.next.any (Token.satisfies p) = false := by
          match isNext : v.next with
          | some (.plain c) => exact next_plain_of_stops halts stops stands isNext
          | some (.escaped c) => rfl
          | none => rfl
        rw [refuses sides.stops face.left, refuses sides.stops' face.right]
    | cons t ts => rw [face.next.1, face.next.2]

end

/-! ## Escapes -/

theorem halts_isHexDigit : Halts CodePoint.isHexDigit := by
  unfold Halts
  decide

theorem halts_isOctalDigit : Halts CodePoint.isOctalDigit := by
  unfold Halts
  decide

theorem halts_isAsciiDigit : Halts CodePoint.isAsciiDigit := by
  unfold Halts
  decide

instance definite_takeHex (bound : Nat) : Definite (Read.takeWhile CodePoint.isHexDigit bound) :=
  definite_takeWhile halts_isHexDigit bound

instance definite_takeOctal (bound : Nat) : Definite (Read.takeWhile CodePoint.isOctalDigit bound) :=
  definite_takeWhile halts_isOctalDigit bound

instance definite_takeDecimal (bound : Nat) :
    Definite (Read.takeWhile CodePoint.isAsciiDigit bound) :=
  definite_takeWhile halts_isAsciiDigit bound

instance definite_peekIsOctal : Definite (Read.peekIs CodePoint.isOctalDigit) :=
  definite_peekIs halts_isOctalDigit

instance definite_hexEscape (c : CodePoint) (digits : Nat) : Definite (hexEscape c digits) := by
  have last (escape : Text) (n : Nat) : Definite (match CodePoint.ofNat? n with
      | some d => return d
      | none => Read.fail (.badEscape escape) escape.length) := by
    split <;> infer_instance
  unfold hexEscape
  infer_instance

instance definite_octalEscape (digits : Text) : Definite (octalEscape digits) := by
  unfold octalEscape
  infer_instance

/-- The name of a character has no parenthesis or bracket. -/
theorem not_mem_stops_of_ofName? {name : Text} {c : CodePoint} (found : CodePoint.ofName? name = some c) :
    ∀ d ∈ name, d ∉ (")([]" : Text) := by
  unfold CodePoint.ofName? at found
  split at found
  · next isName =>
      rw [isName]
      decide
  · cases found

section

variable {pattern : Array CodePoint} {s s' : ReadState} {terminator : CodePoint}
  {what taken name : Text} {bound : Nat}

/-- What was taken before is kept. -/
theorem prefix_of_takeUntil
    (gives : (Read.takeUntil terminator what taken bound).Gives pattern s name s') : taken <+: name := by
  induction bound generalizing taken s with
  | zero => cases Read.not_gives_fail gives
  | succ bound ih =>
      rw [Read.takeUntil] at gives
      obtain ⟨next, s₁, -, last⟩ := Read.gives_bind.mp gives
      cases next with
      | none =>
          dsimp only at last
          split at last <;> cases Read.not_gives_fail last
      | some token =>
          dsimp only at last
          split at last
          · split at last
            · cases Read.not_gives_fail last
            · obtain ⟨rfl, -⟩ := Read.gives_pure.mp last
              exact List.prefix_refl _
          · exact (List.prefix_append _ _).trans (ih last)

/-- A terminator is found among the tokens, or else a parenthesis or bracket behind them is taken. -/
theorem takeUntil_cases {ts : List Token} {behind : Text} (other : terminator ∉ (")([]" : Text))
    (stops : Stops behind) (proper : ∀ t ∈ ts, t.IsProper)
    (stands : s.Stands pattern (texts ts ++ behind))
    (gives : (Read.takeUntil terminator what taken bound).Gives pattern s name s') :
    (∃ front rest, ts = front ++ .plain terminator :: rest ∧ .plain terminator ∉ front ∧
      name = taken ++ texts front ∧ s'.Stands pattern (texts rest ++ behind) ∧ s.SameGroups s') ∨
    ∃ c ∈ name, c ∈ (")([]" : Text) := by
  induction bound generalizing taken ts s with
  | zero => cases Read.not_gives_fail gives
  | succ bound ih =>
  rw [Read.takeUntil] at gives
  obtain ⟨next, s₁, takes, last⟩ := Read.gives_bind.mp gives
  cases ts with
  | nil =>
      replace stands : s.Stands pattern behind := stands
      cases behind with
      | nil =>
          obtain ⟨rfl, -⟩ := Read.gives_take.mp takes
          rw [stands.next_nil] at last
          dsimp only at last
          split at last <;> cases Read.not_gives_fail last
      | cons c behind =>
          have isStop := stops c rfl
          have all : ∀ c ∈ (")([]" : Text), c.val ≠ 92 := by decide
          have isProper : (Token.plain c).IsProper := all c isStop
          obtain ⟨rfl, -, -⟩ := Read.stands_of_take isProper stands takes
          have goesOn : Token.plain c ≠ .plain terminator := fun here =>
            other (Token.plain.inj here ▸ isStop)
          dsimp only at last
          rw [if_neg goesOn] at last
          exact .inr ⟨c, (prefix_of_takeUntil last).mem (List.mem_append_right _ List.mem_cons_self), isStop⟩
  | cons t ts =>
      rw [List.forall_mem_cons] at proper
      rw [texts_cons_append] at stands
      obtain ⟨rfl, stands, same⟩ := Read.stands_of_take proper.1 stands takes
      dsimp only at last
      split at last
      · next isEnd =>
          split at last
          · cases Read.not_gives_fail last
          · obtain ⟨rfl, rfl⟩ := Read.gives_pure.mp last
            exact .inl ⟨[], ts, by rw [isEnd]; rfl, List.not_mem_nil, (List.append_nil _).symm, stands, same⟩
      · next goesOn =>
          rcases ih proper.2 stands last with ⟨front, rest, rfl, absent, rfl, stands, more⟩ | found
          · refine .inl ⟨t :: front, rest, rfl, ?_, ?_, stands, same.trans more⟩
            · rw [List.mem_cons, not_or]
              exact ⟨Ne.symm goesOn, absent⟩
            · rw [List.append_assoc, texts, texts, List.flatMap_cons]
          · exact .inr found

end

/-- A character by its name is read from tokens: what stands behind them is in no name. -/
instance definite_characterName : Definite (do
    let name ← Read.takeUntil (.ofNat 0x7D) "character name" [] (← Read.rounds)
    match CodePoint.ofName? name with
    | some c => return c
    | none => Read.fail (.unknownCharacter name) (name.length + 4) : Read CodePoint) where
  agree {sides ts s s'} face a b u u' given given' := by
    rw [Read.gives_rounds_bind] at given given'
    obtain ⟨name, t, isRead, given⟩ := Read.gives_bind.mp given
    obtain ⟨name', t', isRead', given'⟩ := Read.gives_bind.mp given'
    split at given
    case h_2 => cases Read.not_gives_fail given
    case h_1 c found =>
    split at given'
    case h_2 => cases Read.not_gives_fail given'
    case h_1 c' found' =>
    obtain ⟨rfl, rfl⟩ := Read.gives_pure.mp given
    obtain ⟨rfl, rfl⟩ := Read.gives_pure.mp given'
    rcases takeUntil_cases (by decide) sides.stops face.proper face.left isRead with
      ⟨front, rest, rfl, absent, rfl, left, same⟩ | ⟨d, mem, isStop⟩
    case inr => exact absurd isStop (not_mem_stops_of_ofName? found d mem)
    rcases takeUntil_cases (by decide) sides.stops' face.proper face.right isRead' with
      ⟨front', rest', tokens, absent', rfl, right, same'⟩ | ⟨d, mem, isStop⟩
    case inr => exact absurd isStop (not_mem_stops_of_ofName? found' d mem)
    obtain ⟨rfl, rfl⟩ := cons_inj_of_not_mem absent absent' tokens
    have suffix : rest <:+ front ++ Token.plain (.ofNat 0x7D) :: rest :=
      (List.suffix_cons _ _).trans (List.suffix_append _ _)
    exact ⟨Option.some.inj (found'.symm.trans found), same, same', rest, suffix,
      fun t mem => face.proper t (suffix.mem mem), left, right⟩

instance definite_nameEscape : Definite nameEscape := by
  have accept : Definite (Read.accept '\x7b') := definite_accept (by decide)
  unfold nameEscape
  infer_instance

/-- Escapes of which the meaning depends on the characters behind them only. -/
instance definite_commonEscape (c : CodePoint) (digit : Read Meaning) [Definite digit] :
    Definite (commonEscape c digit) := by
  unfold commonEscape
  split <;> infer_instance

instance definite_setEscape (c : CodePoint) : Definite (setEscape c) := by
  unfold setEscape
  split <;> infer_instance

/-- A reference by number is to the group of that number. -/
theorem gives_numberedReference {pattern : Array CodePoint} {s s' : ReadState} {digits : Text}
    {meaning : Meaning} (gives : (numberedReference digits).Gives pattern s meaning s') :
    meaning = .group (Text.decimalValue digits) ∧ s' = s := by
  unfold numberedReference at gives
  rw [Read.gives_get_bind] at gives
  dsimp only at gives
  split at gives
  · split at gives
    · obtain ⟨_, _, fails, _⟩ := Read.gives_bind.mp gives
      cases Read.not_gives_fail fails
    · obtain ⟨_, _, checks, last⟩ := Read.gives_bind.mp gives
      obtain rfl := Read.gives_checkLookBehind checks
      exact Read.gives_pure.mp last
  · cases Read.not_gives_fail gives

instance definite_numberedReference (digits : Text) : Definite (numberedReference digits) where
  agree face a b u u' given given' := by
    obtain ⟨rfl, rfl⟩ := gives_numberedReference given
    obtain ⟨rfl, rfl⟩ := gives_numberedReference given'
    exact ⟨rfl, .refl _, .refl _, _, List.suffix_refl _, face⟩

instance definite_branchEscape (c : CodePoint) : Definite (branchEscape c) := by
  unfold branchEscape
  split <;> infer_instance

/-! ## Quantifiers -/

instance definite_acceptQuestion : Definite (Read.accept '?') :=
  definite_accept (by decide)

instance definite_acceptPlus : Definite (Read.accept '+') :=
  definite_accept (by decide)

instance definite_acceptMinus : Definite (Read.accept '-') :=
  definite_accept (by decide)

instance definite_acceptCircumflex : Definite (Read.accept '^') :=
  definite_accept (by decide)

instance definite_acceptComma : Definite (Read.accept ',') :=
  definite_accept (by decide)

instance definite_acceptBrace : Definite (Read.accept '\x7d') :=
  definite_accept (by decide)

instance definite_repeatNumber (digits : Text) : Definite (repeatNumber digits) := by
  unfold repeatNumber
  infer_instance

instance definite_readGreed : Definite readGreed := by
  unfold readGreed
  infer_instance

/-- A brace that is no quantifier is read again. -/
instance definite_readBounds (first : Char) : Definite (readBounds first) := by
  unfold readBounds
  split
  · infer_instance
  · infer_instance
  · infer_instance
  · constructor
    intro sides ts s s' face a b u u' given given'
    rw [Read.gives_peek_bind] at given given'
    by_cases closes : s.next = some (.plain (.ofNat 0x7D))
    · rw [if_pos closes] at given
      rw [if_pos ((face.next_iff (by decide)).mp closes)] at given'
      exact (definite_pure none).agree face _ _ _ _ given given'
    rw [if_neg closes, Read.gives_tell_bind] at given
    rw [if_neg fun here => closes ((face.next_iff (by decide)).mpr here), Read.gives_tell_bind] at given'
    obtain ⟨front, whole, place⟩ := face.left.exists_place
    obtain ⟨front', whole', place'⟩ := face.right.exists_place
    rw [place] at given
    rw [place'] at given'
    have again (u u' : ReadState) : sides.Agree ts u u'
        (Read.seek front.length >>= fun _ => pure (none : Option (Nat × Option Nat)))
        (Read.seek front'.length >>= fun _ => pure none) := by
      intro a b v v' given given'
      obtain ⟨_, _, seeks, last⟩ := Read.gives_bind.mp given
      obtain ⟨_, _, seeks', last'⟩ := Read.gives_bind.mp given'
      obtain ⟨rfl, rfl⟩ := Read.gives_pure.mp last
      obtain ⟨rfl, rfl⟩ := Read.gives_pure.mp last'
      obtain ⟨left, same⟩ := Read.stands_of_seek seeks whole
      obtain ⟨right, same'⟩ := Read.stands_of_seek seeks' whole'
      exact ⟨rfl, same, same', ts, List.suffix_refl _, ⟨face.proper, left, right⟩⟩
    have behind (low high : Text) {ts' u u'} (suffix : ts' <:+ ts) (face : sides.Face ts' u u') :
        sides.Agree ts u u'
          (do
            if !(← Read.accept '\x7d') then
              Read.seek front.length
              return none
            let least := (← repeatNumber low).getD 0
            let most ← repeatNumber high
            if most.any (· < least) then Read.failAt .repeatOrder front.length
            return some (least, most))
          (do
            if !(← Read.accept '\x7d') then
              Read.seek front'.length
              return none
            let least := (← repeatNumber low).getD 0
            let most ← repeatNumber high
            if most.any (· < least) then Read.failAt .repeatOrder front'.length
            return some (least, most)) := by
      refine (definite_acceptBrace.agree_of_suffix suffix face).bind fun found _ _ _ suffix face => ?_
      cases found with
      | false => exact again _ _
      | true =>
          refine ((definite_repeatNumber low).agree_of_suffix suffix face).bind
            fun least _ _ _ suffix face => ?_
          refine ((definite_repeatNumber high).agree_of_suffix suffix face).bind
            fun most _ _ _ suffix face => ?_
          dsimp only
          split
          · exact fun _ _ _ _ given => nomatch given
          · exact (definite_pure _).agree_of_suffix suffix face
    refine Sides.agree_takeWhile_rounds halts_isAsciiDigit (List.suffix_refl ts) face
      (fun low _ _ _ suffix face => ?_) _ _ _ _ given given'
    refine (definite_acceptComma.agree_of_suffix suffix face).bind fun found _ _ _ suffix face => ?_
    cases found with
    | false => exact behind low low suffix face
    | true =>
        exact Sides.agree_takeWhile_rounds halts_isAsciiDigit suffix face
          fun high _ _ _ suffix face => behind low high suffix face

/-! ## Sets -/

instance definite_setMember (t : Token) : Definite (setMember t) := by
  cases t with
  | plain c => exact definite_pure _
  | escaped c => exact definite_setEscape c

section

variable {sides : Sides} {ts : List Token} {s s' : ReadState} {t : Token} {rest rest' : Text}

/-- Two readers, if both give a value, give the same one and leave what stands behind the bracket that
closes a set. -/
def Sides.Close (sides : Sides) (rest rest' : Text) (s s' : ReadState) (x y : Read α) : Prop :=
  ∀ a b t t', x.Gives sides.left s a t → y.Gives sides.right s' b t' → b = a ∧ s.SameGroups t ∧
    s'.SameGroups t' ∧ t.Stands sides.left rest ∧ t'.Stands sides.right rest'

theorem Sides.Agree.close {x y : Read α} {f g : α → Read β} (first : sides.Agree ts s s' x y)
    (second : ∀ a {ts' u u'}, ts' <:+ ts → sides.Face ts' u u' →
      sides.Close rest rest' u u' (f a) (g a)) :
    sides.Close rest rest' s s' (x >>= f) (y >>= g) := by
  intro b b' v v' given given'
  obtain ⟨a, u, given, last⟩ := Read.gives_bind.mp given
  obtain ⟨a', u', given', last'⟩ := Read.gives_bind.mp given'
  obtain ⟨rfl, same, same', ts', suffix, face⟩ := first _ _ _ _ given given'
  obtain ⟨rfl, more, more', stands⟩ := second _ suffix face _ _ _ _ last last'
  exact ⟨rfl, same.trans more, same'.trans more', stands⟩

/-- Whether tokens may stand behind some members of a set: none of them closes the set, but the very
first member may be a bracket. -/
def StaysOpen (items : List SetItem) (ts : List Token) : Prop :=
  if items = [] then ts ≠ [] ∧ .plain ']' ∉ ts.tail else .plain ']' ∉ ts

theorem staysOpen_append {items : List SetItem} {item : SetItem} {ts' : List Token}
    (opened : StaysOpen items (t :: ts)) (suffix : ts' <:+ ts) : StaysOpen (items ++ [item]) ts' := by
  have absent : .plain ']' ∉ ts := by
    unfold StaysOpen at opened
    split at opened
    · exact opened.2
    · exact fun mem => opened (List.mem_cons_of_mem _ mem)
  rw [StaysOpen, if_neg (List.append_ne_nil_of_right_ne_nil _ (List.cons_ne_nil _ _))]
  exact fun mem => absent (suffix.mem mem)

theorem Sides.Face.close_take (face : sides.Face (t :: ts) s s') {f g : Option Token → Read β}
    (second : ∀ {u u'}, sides.Face ts u u' → sides.Close rest rest' u u' (f (some t)) (g (some t))) :
    sides.Close rest rest' s s' (Read.take >>= f) (Read.take >>= g) := by
  intro a b v v' given given'
  obtain ⟨next, u, takes, last⟩ := Read.gives_bind.mp given
  obtain ⟨next', u', takes', last'⟩ := Read.gives_bind.mp given'
  obtain ⟨rfl, left, same⟩ := Read.stands_of_take face.isProper face.stands.1 takes
  obtain ⟨rfl, right, same'⟩ := Read.stands_of_take face.isProper face.stands.2 takes'
  obtain ⟨rfl, more, more', stands⟩ := second (face.tail left right) _ _ _ _ last last'
  exact ⟨rfl, same.trans more, same'.trans more', stands⟩

/-- A bracket stands behind the tokens on both sides. -/
structure Sides.Closed (sides : Sides) (rest rest' : Text) : Prop where
  /-- The bracket in the first pattern. -/
  left : sides.behind = (']' : CodePoint) :: rest
  /-- The bracket in the second pattern. -/
  right : sides.behind' = (']' : CodePoint) :: rest'

theorem Sides.Closed.close_take (closed : sides.Closed rest rest') (face : sides.Face [] s s') {a : α}
    {f g : Option Token → Read α} (first : f (some (.plain ']')) = pure a)
    (second : g (some (.plain ']')) = pure a) :
    sides.Close rest rest' s s' (Read.take >>= f) (Read.take >>= g) := by
  have proper : (Token.plain ']').IsProper := Token.isProper_plain (by decide)
  have left := face.left
  have right := face.right
  rw [closed.left] at left
  rw [closed.right] at right
  intro b b' v v' given given'
  obtain ⟨next, u, takes, last⟩ := Read.gives_bind.mp given
  obtain ⟨next', u', takes', last'⟩ := Read.gives_bind.mp given'
  obtain ⟨rfl, stands, same⟩ := Read.stands_of_take proper left takes
  obtain ⟨rfl, stands', same'⟩ := Read.stands_of_take proper right takes'
  rw [first] at last
  rw [second] at last'
  obtain ⟨rfl, rfl⟩ := Read.gives_pure.mp last
  obtain ⟨rfl, rfl⟩ := Read.gives_pure.mp last'
  exact ⟨rfl, same, same', stands, stands'⟩

theorem Sides.close_fail {cause : Cause} {back : Nat} {y : Read α} :
    sides.Close rest rest' s s' (Read.fail cause back) y :=
  fun _ _ _ _ given => nomatch given

/-- The members of a set are read in the same way up to the bracket that closes it. -/
theorem Sides.Closed.close_setItems (closed : sides.Closed rest rest') (start start' : Nat)
    {items : List SetItem} (opened : StaysOpen items ts)
    (face : sides.Face ts s s') (bound bound' : Nat) :
    sides.Close rest rest' s s' (setItems start items bound) (setItems start' items bound') := by
  induction bound generalizing bound' ts items s s' with
  | zero => exact close_fail
  | succ bound ih =>
      cases bound' with
      | zero => exact fun _ _ _ _ _ given' => nomatch given'
      | succ bound' =>
          rw [setItems, setItems]
          cases ts with
          | nil =>
              have begun : items ≠ [] := by
                rintro rfl
                exact absurd rfl opened.1
              have isDone : (decide (Token.plain (CodePoint.ofChar ']') =
                  Token.plain (CodePoint.ofChar ']')) && !items.isEmpty) = true := by
                simpa using begun
              exact closed.close_take face (if_pos isDone) (if_pos isDone)
          | cons t ts =>
              have notDone : ¬ (decide (t = Token.plain (CodePoint.ofChar ']')) &&
                  !items.isEmpty) = true := by
                intro isDone
                simp only [Bool.and_eq_true, decide_eq_true_eq, Bool.not_eq_true',
                  List.isEmpty_eq_false_iff] at isDone
                unfold StaysOpen at opened
                rw [if_neg isDone.2] at opened
                exact opened (isDone.1 ▸ List.mem_cons_self)
              refine face.close_take fun face => ?_
              dsimp only
              rw [if_neg notDone, if_neg notDone]
              refine ((definite_setMember _).agree face).close fun low ts₁ _ _ suffix face => ?_
              refine (definite_acceptMinus.agree face).close fun ranges ts₂ _ _ suffix' face => ?_
              have isEnd := suffix'.trans suffix
              cases ranges with
              | false => exact ih (staysOpen_append opened isEnd) face bound'
              | true =>
                  have open' : StaysOpen (items ++ [low.item]) ts₂ := staysOpen_append opened isEnd
                  have absent : .plain ']' ∉ ts₂ := by
                    rwa [StaysOpen, if_neg (List.append_ne_nil_of_right_ne_nil _ (List.cons_ne_nil _ _))]
                      at open'
                  cases ts₂ with
                  | nil => exact closed.close_take face (if_pos rfl) (if_pos rfl)
                  | cons u ts₂ =>
                      rw [List.mem_cons, not_or] at absent
                      refine face.close_take fun face => ?_
                      dsimp only
                      rw [if_neg (Ne.symm absent.1), if_neg (Ne.symm absent.1)]
                      refine ((definite_setMember _).agree face).close
                        fun high ts₃ _ _ suffix'' face => ?_
                      have isEnd := suffix''.trans ((List.suffix_cons u ts₂).trans isEnd)
                      split
                      · split
                        · exact fun _ _ _ _ given => nomatch given
                        · exact ih (staysOpen_append opened isEnd) face bound'
                      · exact close_fail

/-- What may stand in a set in front of the bracket that closes it. -/
inductive IsSetBody : List Token → Prop
  /-- The members; only the first one may be a bracket. -/
  | members {t : Token} {ts : List Token} (first : t ≠ .plain '^') (inside : .plain ']' ∉ ts) : IsSetBody (t :: ts)
  /-- The members of which the set is the complement. -/
  | complement {t : Token} {ts : List Token} (inside : .plain ']' ∉ ts) : IsSetBody (.plain '^' :: t :: ts)

/-- A set is read in the same way on both sides. -/
theorem Sides.Closed.close_readSet (closed : sides.Closed rest rest') (body : IsSetBody ts)
    (face : sides.Face ts s s') : sides.Close rest rest' s s' readSet readSet := by
  have members {complement : Bool} {start start' : Nat} {t : Token} {ts : List Token} {u u' : ReadState}
      (inside : .plain ']' ∉ ts) (face : sides.Face (t :: ts) u u') :
      sides.Close rest rest' u u'
        (do return setTest complement (← setItems start [] (← Read.rounds)))
        (do return setTest complement (← setItems start' [] (← Read.rounds))) := by
    intro a b v v' given given'
    rw [Read.gives_rounds_bind] at given given'
    obtain ⟨items, _, given, last⟩ := Read.gives_bind.mp given
    obtain ⟨items', _, given', last'⟩ := Read.gives_bind.mp given'
    obtain ⟨rfl, rfl⟩ := Read.gives_pure.mp last
    obtain ⟨rfl, rfl⟩ := Read.gives_pure.mp last'
    have opened : StaysOpen [] (t :: ts) := ⟨List.cons_ne_nil _ _, inside⟩
    obtain ⟨rfl, rest⟩ := closed.close_setItems start start' opened face _ _ _ _ _ _ given given'
    exact ⟨rfl, rest⟩
  intro a b u u' given given'
  unfold readSet at given given'
  rw [Read.gives_tell_bind, Read.gives_bind] at given given'
  obtain ⟨found, v, accepts, given⟩ := given
  obtain ⟨found', v', accepts', given'⟩ := given'
  cases body with
  | @members t ts first inside =>
      have other : ¬ some t = some (.plain '^') := fun here => first (Option.some.inj here)
      rcases Read.gives_accept.mp accepts with ⟨here, _⟩ | ⟨_, rfl, rfl⟩
      · exact absurd (face.next.1.symm.trans here) other
      rcases Read.gives_accept.mp accepts' with ⟨here, _⟩ | ⟨_, rfl, rfl⟩
      · exact absurd (face.next.2.symm.trans here) other
      exact members inside face _ _ _ _ given given'
  | complement inside =>
      obtain ⟨rfl, left, same⟩ := Read.stands_of_accept (by decide) face.left accepts
      obtain ⟨rfl, right, same'⟩ := Read.stands_of_accept (by decide) face.right accepts'
      obtain ⟨rfl, more, more', stands⟩ :=
        members inside (face.tail left right) _ _ _ _ given given'
      exact ⟨rfl, same.trans more, same'.trans more', stands⟩

end

/-! ## Comments -/

section

variable {pattern : Array CodePoint} {s s' : ReadState} {rest : Text} {start bound : Nat} {u : Unit}

theorem stands_of_skipComment_succ {t : Token} (proper : t.IsProper)
    (stands : s.Stands pattern (t.text ++ rest))
    (gives : (skipComment start (bound + 1)).Gives pattern s u s') :
    ∃ s₁, s₁.Stands pattern rest ∧ s.SameGroups s₁ ∧
      (if t = .plain ')' then pure () else skipComment start bound).Gives pattern s₁ u s' := by
  rw [skipComment, Read.gives_peek_bind] at gives
  dsimp only at gives
  rw [if_neg (by simp [stands.next_token proper])] at gives
  obtain ⟨next, s₁, takes, last⟩ := Read.gives_bind.mp gives
  obtain ⟨rfl, behind, same⟩ := Read.stands_of_take proper stands takes
  simp only [Option.some.injEq] at last
  exact ⟨s₁, behind, same, last⟩

/-- A comment goes on to the first parenthesis that closes. -/
theorem stands_of_skipComment {body : List Token} (proper : ∀ t ∈ body, t.IsProper)
    (inside : .plain ')' ∉ body) (stands : s.Stands pattern (texts body ++ (')' : CodePoint) :: rest))
    (gives : (skipComment start bound).Gives pattern s u s') :
    s'.Stands pattern rest ∧ s.SameGroups s' := by
  induction body generalizing bound s with
  | nil =>
      cases bound with
      | zero => cases Read.not_gives_fail gives
      | succ bound =>
          have isProper : (Token.plain ')').IsProper := Token.isProper_plain (by decide)
          obtain ⟨s₁, behind, same, last⟩ := stands_of_skipComment_succ isProper stands gives
          rw [if_pos rfl] at last
          obtain ⟨-, rfl⟩ := Read.gives_pure.mp last
          exact ⟨behind, same⟩
  | cons t body ih =>
      rw [List.forall_mem_cons] at proper
      rw [List.mem_cons, not_or] at inside
      cases bound with
      | zero => cases Read.not_gives_fail gives
      | succ bound =>
          rw [texts_cons_append] at stands
          obtain ⟨s₁, behind, same, last⟩ := stands_of_skipComment_succ proper.1 stands gives
          rw [if_neg (Ne.symm inside.1)] at last
          obtain ⟨stands, more⟩ := ih proper.2 inside.2 behind last
          exact ⟨stands, same.trans more⟩

end

end ClassHarvest.Pattern
