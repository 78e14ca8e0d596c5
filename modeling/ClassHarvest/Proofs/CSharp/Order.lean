import ClassHarvest.CSharp.Token

/-!
# Tokens in order

The tokens of a source text stand one behind the other and none is empty.  An interpolated string
reaches around its holes, and the tokens of these stand in order between its ends.
-/

namespace ClassHarvest.CSharp

/-- The tokens of the holes of a token. -/
def Token.holes : Token → List (List Token)
  | .interpolated _ holes => holes
  | _ => []

mutual

/-- Tokens stand one behind the other between two places. -/
inductive Ordered : Nat → List Token → Nat → Prop
  /-- No token stands there. -/
  | nil {lo hi : Nat} (le : lo ≤ hi) : Ordered lo [] hi
  /-- A token stands there, with its holes between its ends, and the others stand behind it. -/
  | cons {lo hi : Nat} {token : Token} {rest : List Token} (begins : lo ≤ token.place.start)
      (wide : token.place.start < token.place.stop)
      (holes : HolesOrdered token.place.start token.holes token.place.stop)
      (behind : Ordered token.place.stop rest hi) : Ordered lo (token :: rest) hi

/-- Holes stand one behind the other between two places, and so do the tokens in each. -/
inductive HolesOrdered : Nat → List (List Token) → Nat → Prop
  /-- No hole stands there. -/
  | nil {lo hi : Nat} (le : lo ≤ hi) : HolesOrdered lo [] hi
  /-- A hole stands there, and the others stand behind it. -/
  | cons {lo mid hi : Nat} {tokens : List Token} {rest : List (List Token)}
      (hole : Ordered lo tokens mid) (behind : HolesOrdered mid rest hi) :
      HolesOrdered lo (tokens :: rest) hi

end

namespace Ordered

variable {lo lo' hi hi' : Nat} {xs ys : List Token} {token : Token}

theorem le (ordered : Ordered lo xs hi) : lo ≤ hi := by
  induction xs generalizing lo with
  | nil =>
      cases ordered with
      | nil le => exact le
  | cons token xs ih =>
      cases ordered with
      | cons begins wide _ behind =>
          have := ih behind
          omega

theorem mono_left (ordered : Ordered lo xs hi) (low : lo' ≤ lo) : Ordered lo' xs hi := by
  cases ordered with
  | nil le => exact .nil (Nat.le_trans low le)
  | cons begins wide holes behind => exact .cons (Nat.le_trans low begins) wide holes behind

theorem append_iff : Ordered lo (xs ++ ys) hi ↔ ∃ mid, Ordered lo xs mid ∧ Ordered mid ys hi := by
  constructor
  · intro ordered
    induction xs generalizing lo with
    | nil => exact ⟨lo, .nil (Nat.le_refl _), ordered⟩
    | cons token xs ih =>
        cases ordered with
        | cons begins wide holes behind =>
            obtain ⟨mid, first, second⟩ := ih behind
            exact ⟨mid, .cons begins wide holes first, second⟩
  · rintro ⟨mid, first, second⟩
    induction xs generalizing lo with
    | nil => exact second.mono_left first.le
    | cons token xs ih =>
        cases first with
        | cons begins wide holes behind => exact .cons begins wide holes (ih behind)

theorem mono_right (ordered : Ordered lo xs hi) (high : hi ≤ hi') : Ordered lo xs hi' := by
  have := append_iff.mpr ⟨hi, ordered, .nil high⟩
  rwa [List.append_nil] at this

/-- Tokens stand between the beginning of the first and the end of the last. -/
theorem tight (ordered : Ordered lo (token :: xs) hi) :
    lo ≤ token.place.start ∧ ∃ last, (token :: xs).getLast? = some last ∧
      token.place.start < last.place.stop ∧ last.place.stop ≤ hi ∧
        Ordered token.place.start (token :: xs) last.place.stop := by
  induction xs generalizing lo token with
  | nil =>
      cases ordered with
      | cons begins wide holes behind =>
          have alone : Ordered token.place.start [token] token.place.stop :=
            .cons (Nat.le_refl _) wide holes (.nil (Nat.le_refl _))
          exact ⟨begins, token, rfl, wide, behind.le, alone⟩
  | cons next xs ih =>
      cases ordered with
      | cons begins wide holes behind =>
          obtain ⟨starts, last, isLast, apart, ends, within⟩ := ih behind
          refine ⟨begins, last, ?_, by omega, ends, ?_⟩
          · rw [List.getLast?_cons_cons, isLast]
          · exact .cons (Nat.le_refl _) wide holes (within.mono_left starts)

end Ordered

namespace HolesOrdered

variable {lo lo' mid hi : Nat} {holes : List (List Token)} {tokens : List Token}

theorem le (ordered : HolesOrdered lo holes hi) : lo ≤ hi := by
  induction holes generalizing lo with
  | nil =>
      cases ordered with
      | nil le => exact le
  | cons tokens holes ih =>
      cases ordered with
      | cons hole behind => exact Nat.le_trans hole.le (ih behind)

theorem mono_left (ordered : HolesOrdered lo holes hi) (low : lo' ≤ lo) :
    HolesOrdered lo' holes hi := by
  cases ordered with
  | nil le => exact .nil (Nat.le_trans low le)
  | cons hole behind => exact .cons (hole.mono_left low) behind

theorem concat (first : HolesOrdered lo holes mid) (last : Ordered mid tokens hi) :
    HolesOrdered lo (holes ++ [tokens]) hi := by
  induction holes generalizing lo with
  | nil =>
      cases first with
      | nil le => exact .cons (last.mono_left le) (.nil (Nat.le_refl _))
  | cons hole holes ih =>
      cases first with
      | cons own behind => exact .cons own (ih behind)

theorem mono_right {hi' : Nat} (ordered : HolesOrdered lo holes hi) (high : hi ≤ hi') :
    HolesOrdered lo holes hi' := by
  induction holes generalizing lo with
  | nil =>
      cases ordered with
      | nil le => exact .nil (Nat.le_trans le high)
  | cons tokens holes ih =>
      cases ordered with
      | cons hole behind => exact .cons hole (ih behind)

end HolesOrdered

/-! ## The lengths of tokens -/

section

variable {t : Text} {c : CodePoint} {n : Nat}

theorem stringLength?_pos (isString : stringLength? t = some n) : 0 < n := by
  unfold stringLength? at isString
  simp only [Option.bind_eq_bind, Option.bind_map] at isString
  split at isString
  · obtain ⟨length, -, same⟩ := Option.bind_eq_some_iff.mp isString
    cases same
    dsimp only [Function.comp_apply]
    omega
  split at isString
  · obtain ⟨length, -, same⟩ := Option.bind_eq_some_iff.mp isString
    cases same
    dsimp only [Function.comp_apply]
    omega
  · obtain ⟨length, -, same⟩ := Option.bind_eq_some_iff.mp isString
    cases same
    dsimp only [Function.comp_apply]
    omega

theorem characterLength?_pos (isCharacter : characterLength? t = some n) : 0 < n := by
  unfold characterLength? at isCharacter
  grind

theorem directiveAt?_pos {name : String} (isHash : c.val = 35)
    (isDirective : directiveAt? (c :: t) = some (name, n)) : 0 < n := by
  have line : 0 < lineLength (c :: t) := by
    simp [lineLength, List.takeWhile, endsLine, isHash]
  unfold directiveAt? at isDirective
  grind

/-- A number begins with a digit, or with a point in front of one. -/
theorem numberLength_pos
    (isNumber : c.isAsciiDigit = true ∨ c.val = 46 ∧ t.head?.any CodePoint.isAsciiDigit = true) :
    0 < numberLength (c :: t) := by
  unfold numberLength
  dsimp only
  split
  · omega
  split
  · omega
  · rcases isNumber with digit | ⟨point, fraction⟩
    · have whole : 0 < digitsLength CodePoint.isAsciiDigit (c :: t) := by
        simp [digitsLength, digit]
      omega
    · cases t with
      | nil => cases fraction
      | cons d t =>
          have notDigit : c.isAsciiDigit = false := by simp [CodePoint.isAsciiDigit, point]
          have whole : digitsLength CodePoint.isAsciiDigit (c :: d :: t) = 0 := by
            simp [digitsLength, notDigit, point]
          have digit : d.isAsciiDigit = true := by simpa using fraction
          simp only [whole, List.drop_zero, point, digit, decide_true, Bool.and_self, if_true]
          omega

theorem signAt?_pos {text : String} (isSign : signAt? t = some text) : 0 < text.length :=
  (by decide : ∀ text ∈ signs, 0 < text.length) text (List.mem_of_find?_eq_some isSign)

theorem interpolationAt?_pos {kind : Interpolation} (opens : interpolationAt? t = some kind) :
    0 < kind.opening := by
  unfold interpolationAt? at opens
  grind

/-- A simple token is not empty and stands where the cursor is. -/
theorem simpleToken?_place {cursor : Cursor} {token : Token}
    (begins : simpleToken? cursor = some (token, n)) :
    0 < n ∧ token.holes = [] ∧ token.place = cursor.place n := by
  unfold simpleToken? at begins
  cases isRest : cursor.rest with
  | nil =>
      rw [isRest] at begins
      cases begins
  | cons c rest =>
      rw [isRest] at begins
      dsimp only at begins
      split at begins
      · obtain ⟨n, isString, same⟩ := Option.map_eq_some_iff.mp begins
        cases same
        exact ⟨stringLength?_pos isString, rfl, rfl⟩
      split at begins
      · obtain ⟨n, isCharacter, same⟩ := Option.map_eq_some_iff.mp begins
        cases same
        exact ⟨characterLength?_pos isCharacter, rfl, rfl⟩
      split at begins
      · rename_i isHash
        obtain ⟨⟨name, n⟩, isDirective, same⟩ := Option.map_eq_some_iff.mp begins
        cases same
        exact ⟨directiveAt?_pos isHash isDirective, rfl, rfl⟩
      split at begins
      · rename_i isNumber
        cases begins
        exact ⟨numberLength_pos (by simpa using isNumber), rfl, rfl⟩
      split at begins
      · obtain ⟨text, isSign, same⟩ := Option.map_eq_some_iff.mp begins
        cases same
        exact ⟨signAt?_pos isSign, rfl, rfl⟩
      · rename_i length notZero
        cases begins
        exact ⟨Nat.pos_of_ne_zero notZero, rfl, rfl⟩

end

/-! ## The tokenizer -/

section

variable {bound : Nat} {cursor after : Cursor}

/-- What a step of the tokenizer can do: end, drop what separates tokens, or keep an interpolated
string or another token. -/
theorem tokensFrom_succ {hole : Option HoleDepth} {read found : List Token}
    (cut : tokensFrom (bound + 1) hole cursor read = some (found, after)) :
    (found = read.reverse ∧ after = cursor) ∨
    (∃ n, tokensFrom bound hole (cursor.advance n) read = some (found, after)) ∨
    (∃ kind holes later, interpolationAt? cursor.rest = some kind ∧
      holesFrom bound kind (cursor.advance kind.opening) [] = some (holes, later) ∧
      tokensFrom bound hole later (.interpolated (cursor.placeTo later) holes :: read) =
        some (found, after)) ∨
    ∃ token n hole', simpleToken? cursor = some (token, n) ∧
      tokensFrom bound hole' (cursor.advance n) (token :: read) = some (found, after) := by
  rw [tokensFrom] at cut
  grind

/-- What a step inside an interpolated string can do: end, pass over text or keep a hole. -/
theorem holesFrom_succ {kind : Interpolation} {holes found : List (List Token)}
    (cut : holesFrom (bound + 1) kind cursor holes = some (found, after)) :
    (found = holes.reverse ∧ ∃ n m, after = (cursor.advance n).advance m) ∨
    (∃ n, holesFrom bound kind (cursor.advance n) holes = some (found, after)) ∨
    ∃ tokens later n m,
      tokensFrom bound (some {}) (cursor.advance kind.braces) [] = some (tokens, later) ∧
      holesFrom bound kind ((later.advance n).advance m) (tokens :: holes) =
        some (found, after) := by
  rw [holesFrom] at cut
  grind

end

/-- What the tokenizer adds to the tokens already read stands behind them, in a text as a whole and
inside an interpolated string. -/
theorem ordered_tokensFrom (bound : Nat) :
    (∀ hole cursor read found after, tokensFrom bound hole cursor read = some (found, after) →
      ∀ lo, Ordered lo read.reverse cursor.position → Ordered lo found after.position) ∧
    ∀ kind cursor holes found after, holesFrom bound kind cursor holes = some (found, after) →
      ∀ lo, HolesOrdered lo holes.reverse cursor.position →
        HolesOrdered lo found after.position := by
  induction bound with
  | zero =>
      constructor
      · intro hole cursor read found after cut
        rw [tokensFrom] at cut
        cases cut
      · intro kind cursor holes found after cut
        rw [holesFrom] at cut
        cases cut
  | succ bound ih =>
      obtain ⟨ihTokens, ihHoles⟩ := ih
      constructor
      · intro hole cursor read found after cut lo before
        rcases tokensFrom_succ cut with ⟨rfl, rfl⟩ | ⟨n, goesOn⟩ |
          ⟨kind, holes, later, opens, areHoles, goesOn⟩ | ⟨token, n, hole', begins, goesOn⟩
        · exact before
        · exact ihTokens _ _ _ _ _ goesOn lo (before.mono_right (Nat.le_add_right _ _))
        · have inside : HolesOrdered (cursor.position + kind.opening) holes later.position :=
            ihHoles _ _ _ _ _ areHoles _ (.nil (Nat.le_refl _))
          have wide : cursor.position < later.position := by
            have := interpolationAt?_pos opens
            have := inside.le
            omega
          apply ihTokens _ _ _ _ _ goesOn lo
          rw [List.reverse_cons]
          refine Ordered.append_iff.mpr
            ⟨cursor.position, before, .cons (Nat.le_refl _) wide ?_ (.nil (Nat.le_refl _))⟩
          exact inside.mono_left (Nat.le_add_right _ _)
        · obtain ⟨wide, noHoles, isPlace⟩ := simpleToken?_place begins
          apply ihTokens _ _ _ _ _ goesOn lo
          rw [List.reverse_cons]
          refine Ordered.append_iff.mpr ⟨cursor.position, before, .cons ?_ ?_ ?_ (.nil ?_)⟩ <;>
            rw [isPlace]
          · exact Nat.le_refl _
          · exact Nat.lt_add_of_pos_right wide
          · rw [noHoles]
            exact .nil (Nat.le_add_right _ _)
          · exact Nat.le_refl _
      · intro kind cursor holes found after cut lo before
        rcases holesFrom_succ cut with ⟨rfl, n, m, rfl⟩ | ⟨n, goesOn⟩ |
          ⟨tokens, later, n, m, isHole, goesOn⟩
        · refine before.mono_right ?_
          simp only [Cursor.advance]
          omega
        · exact ihHoles _ _ _ _ _ goesOn lo (before.mono_right (Nat.le_add_right _ _))
        · have inside : Ordered cursor.position tokens later.position :=
            ihTokens _ _ _ _ _ isHole _ (.nil (Nat.le_add_right _ _))
          apply ihHoles _ _ _ _ _ goesOn lo
          rw [List.reverse_cons]
          refine before.concat (inside.mono_right ?_)
          simp only [Cursor.advance]
          omega

/-- The tokens of a source text stand in order. -/
theorem ordered_tokens {source : Text} {found : List Token} (cut : tokens source = some found) :
    ∃ hi, Ordered 0 found hi := by
  obtain ⟨⟨found, after⟩, cuts, rfl⟩ := Option.map_eq_some_iff.mp cut
  exact ⟨after.position, (ordered_tokensFrom _).1 _ _ _ _ _ cuts 0 (.nil (Nat.le_refl _))⟩

end ClassHarvest.CSharp
