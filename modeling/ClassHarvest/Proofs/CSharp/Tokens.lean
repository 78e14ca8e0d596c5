import ClassHarvest.CSharp.Token

/-!
# Cutting a text into tokens

A text is cut one separator or one token at a time.  `Cuts` is the relation between a place in a
text, the tokens from there on and the place behind them; it leaves out the bound of the tokenizer
and composes, so that a text is cut as its stretches are.
-/

namespace ClassHarvest.CSharp

/-- From one place to another a text is cut into some tokens, interpolated strings apart. -/
inductive Cuts : Cursor → List Token → Cursor → Prop
  /-- Nothing is cut. -/
  | done (cursor : Cursor) : Cuts cursor [] cursor
  /-- What separates tokens is dropped. -/
  | separator {cursor later : Cursor} {tokens : List Token} {n : Nat}
      (separates : separatorLength? (cursor.position == 0) cursor.rest = some (n + 1))
      (behind : Cuts (cursor.advance (n + 1)) tokens later) : Cuts cursor tokens later
  /-- A token is kept. -/
  | token {cursor later : Cursor} {token : Token} {tokens : List Token} {n : Nat}
      (joins : separatorLength? (cursor.position == 0) cursor.rest = some 0)
      (plain : interpolationAt? cursor.rest = none)
      (begins : simpleToken? cursor = some (token, n + 1))
      (behind : Cuts (cursor.advance (n + 1)) tokens later) : Cuts cursor (token :: tokens) later

namespace Cuts

variable {cursor middle later : Cursor} {front behind tokens : List Token}

theorem trans (first : Cuts cursor front middle) (second : Cuts middle behind later) :
    Cuts cursor (front ++ behind) later := by
  induction first with
  | done => exact second
  | separator separates _ ih => exact .separator separates (ih second)
  | token joins plain begins _ ih => exact .token joins plain begins (ih second)

/-- The tokenizer follows the cuts.  Every step moves on, so that no more steps are needed than there
are characters. -/
theorem exists_steps (cuts : Cuts cursor tokens later) :
    ∃ steps, cursor.position + steps ≤ later.position ∧ ∀ bound read,
      tokensFrom (bound + steps) none cursor read =
        tokensFrom bound none later (tokens.reverse ++ read) := by
  induction cuts with
  | done cursor => exact ⟨0, Nat.le_refl _, fun _ _ => rfl⟩
  | @separator cursor later tokens n separates _ ih =>
      obtain ⟨steps, within, same⟩ := ih
      refine ⟨steps + 1, ?_, fun bound read => ?_⟩
      · simp only [Cursor.advance] at within
        omega
      · rw [← same, ← Nat.add_assoc, tokensFrom]
        cases rest : cursor.rest with
        | nil =>
            rw [rest] at separates
            cases separates
        | cons c more =>
            rw [rest] at separates
            dsimp only
            rw [separates]
  | @token cursor later token tokens n joins plain begins _ ih =>
      obtain ⟨steps, within, same⟩ := ih
      refine ⟨steps + 1, ?_, fun bound read => ?_⟩
      · simp only [Cursor.advance] at within
        omega
      · rw [List.reverse_cons, List.append_assoc, List.singleton_append, ← same,
          ← Nat.add_assoc, tokensFrom]
        cases rest : cursor.rest with
        | nil =>
            unfold simpleToken? at begins
            rw [rest] at begins
            cases begins
        | cons c more =>
            rw [rest] at joins plain
            dsimp only
            rw [joins, plain, begins]
            rfl

end Cuts

/-- A text that is cut up to its end has the tokens that it is cut into. -/
theorem tokens_of_cuts {source : Text} {found : List Token} {later : Cursor}
    (cuts : Cuts { rest := source } found later) (whole : later.rest = [])
    (within : later.position ≤ 2 * source.length + 1) : tokens source = some found := by
  obtain ⟨steps, enough, same⟩ := cuts.exists_steps
  dsimp only at enough
  have bound : 2 * source.length + 2 = (2 * source.length + 1 - steps) + 1 + steps := by omega
  rw [tokens, bound, same, tokensFrom, whole]
  simp

end ClassHarvest.CSharp
