import Mathlib.Data.List.TakeWhile
import ClassHarvest.CSharp.Literal
import ClassHarvest.Proofs.Text.Hexadecimal

/-!
# Escapes

What stands between the quotes of a regular literal is a sequence of plain characters and escapes.  It
is read from the left, one of them at a time; an escape with a number takes as many hexadecimal digits
as its letter allows.
-/

namespace ClassHarvest.CSharp.Literal

variable {c letter : CodePoint} {rest digits : Text}

/-! ## Numbers -/

/-- The letters of the escapes with a number. -/
theorem digitCount?_eq_some {least most : Nat} (takes : digitCount? letter = some (least, most)) :
    (letter = ('U' : CodePoint) ∧ least = 8 ∧ most = 8) ∨ letter ≠ ('\\' : CodePoint) ∧ most = 4 := by
  unfold digitCount? at takes
  split at takes
  · next isLetter =>
      cases takes
      rw [CodePoint.eq_of_ascii_eq isLetter (by decide)]
      exact .inr ⟨by decide, rfl⟩
  · next isLetter =>
      cases takes
      exact .inl ⟨CodePoint.eq_of_ascii_eq isLetter (by decide), rfl, rfl⟩
  · next isLetter =>
      cases takes
      rw [CodePoint.eq_of_ascii_eq isLetter (by decide)]
      exact .inr ⟨by decide, rfl⟩
  · cases takes

/-- What is taken for the digits of an escape. -/
theorem digits?_eq_some (taken : digits? letter rest = some digits) :
    ∃ least most, digitCount? letter = some (least, most) ∧ digits <+: rest ∧
      least ≤ digits.length ∧ digits.length ≤ most ∧ ∀ d ∈ digits, d.isHexDigit = true := by
  unfold digits? at taken
  split at taken
  · cases taken
  next least most takes =>
    dsimp only at taken
    split at taken
    · cases taken
    next enough =>
      cases taken
      refine ⟨least, most, takes, ?_, by omega, ?_, ?_⟩
      · exact (List.takeWhile_prefix _).trans (List.take_prefix most rest)
      · exact (List.takeWhile_prefix _).length_le.trans (List.length_take_le most rest)
      · intro d mem
        exact List.mem_takeWhile_imp mem

/-- No more digits are taken than an escape allows. -/
theorem digits?_append {least : Nat} (takes : digitCount? letter = some (least, digits.length))
    (enough : least ≤ digits.length) (hexadecimal : ∀ d ∈ digits, d.isHexDigit = true) :
    digits? letter (digits ++ rest) = some digits := by
  have whole : digits.takeWhile CodePoint.isHexDigit = digits :=
    List.takeWhile_eq_self_iff.mpr hexadecimal
  simp only [digits?, takes, List.take_left, whole, Nat.not_lt.mpr enough, if_false]

/-! ## Reading one piece after the other -/

/-- The bound on the length matters no more once it is reached. -/
theorem unescapeWithin_eq {t : Text} {bound bound' : Nat} (enough : t.length ≤ bound)
    (enough' : t.length ≤ bound') : unescapeWithin bound t = unescapeWithin bound' t := by
  induction bound generalizing bound' t with
  | zero =>
      rw [List.length_eq_zero_iff.mp (Nat.le_zero.mp enough)]
      cases bound' <;> rfl
  | succ bound ih =>
      cases t with
      | nil => cases bound' <;> rfl
      | cons c rest =>
          rw [List.length_cons] at enough enough'
          obtain ⟨bound', rfl⟩ : ∃ n, bound' = n + 1 := ⟨bound' - 1, by omega⟩
          have next {after : Text} (shorter : after.length ≤ rest.length) :
              unescapeWithin bound after = unescapeWithin bound' after :=
            ih (by omega) (by omega)
          rw [unescapeWithin.eq_def, unescapeWithin.eq_def (bound' + 1)]
          dsimp only
          rw [next (Nat.le_refl _)]
          cases rest with
          | nil => rfl
          | cons letter after =>
              have behind (n : Nat) : (after.drop n).length ≤ (letter :: after).length := by
                rw [List.length_drop, List.length_cons]
                omega
              simp only [next (behind _), next (Nat.le_succ after.length)]

theorem unescapeWithin_of_le {t : Text} {bound : Nat} (enough : t.length ≤ bound) :
    unescapeWithin bound t = unescape t :=
  unescapeWithin_eq enough (Nat.le_refl _)

@[simp]
theorem unescape_nil : unescape [] = .ok [] :=
  rfl

/-- A character other than a backslash stands for itself. -/
theorem unescape_cons (plain : c ≠ ('\\' : CodePoint)) :
    unescape (c :: rest) = (unescape rest).map (c :: ·) := by
  have noBackslash : c.val ≠ 92 := fun same => plain (CodePoint.val_inj same)
  rw [unescape, List.length_cons, unescapeWithin.eq_def]
  simp only [noBackslash, if_false]
  rw [unescapeWithin_of_le (Nat.le_refl _)]
  cases unescape rest <;> rfl

/-- An escape without a number stands for one character. -/
theorem unescape_simple (noNumber : digits? letter rest = none) :
    unescape (('\\' : CodePoint) :: letter :: rest) = (unescape rest).map (escaped letter :: ·) := by
  have backslash : ('\\' : CodePoint).val = 92 := rfl
  rw [unescape, List.length_cons, unescapeWithin, if_pos backslash]
  simp only [noNumber]
  rw [unescapeWithin_of_le (by simp)]
  cases unescape rest <;> rfl

/-- An escape with a number stands for what the number stands for. -/
theorem unescape_numeric (number : digits? letter (digits ++ rest) = some digits) :
    unescape (('\\' : CodePoint) :: letter :: (digits ++ rest)) =
      (numeric letter digits).bind fun value => (unescape rest).map (value ++ ·) := by
  have backslash : ('\\' : CodePoint).val = 92 := rfl
  rw [unescape, List.length_cons, unescapeWithin, if_pos backslash]
  simp only [number, List.drop_left]
  rw [unescapeWithin_of_le (by simp; omega)]
  cases numeric letter digits with
  | error error => rfl
  | ok value => cases unescape rest <;> rfl

/-- The number of a character stands for the character. -/
theorem numeric_of_value (value : Text.hexValue digits = c.val) : numeric letter digits = .ok [c] := by
  have bound := c.isLt
  rw [numeric, value, if_neg (by omega), CodePoint.ofNat?, dif_pos bound]

/-- An escape with as many digits as it can have stands for the character that they number. -/
theorem unescape_number {least : Nat} (takes : digitCount? letter = some (least, digits.length))
    (enough : least ≤ digits.length) (hexadecimal : ∀ d ∈ digits, d.isHexDigit = true)
    (value : Text.hexValue digits = c.val) :
    unescape (('\\' : CodePoint) :: letter :: (digits ++ rest)) = (unescape rest).map (c :: ·) := by
  rw [unescape_numeric (digits?_append takes enough hexadecimal), numeric_of_value value]
  rfl

/-- What holds of the empty text and of a last backslash, and with a text also when a character or an
escape stands in front of it, holds of every text. -/
theorem inductionOnEscapes {motive : Text → Prop} (nil : motive []) (lone : motive [('\\' : CodePoint)])
    (plain : ∀ c rest, c ≠ ('\\' : CodePoint) → motive rest → motive (c :: rest))
    (simple : ∀ letter rest, digits? letter rest = none → motive rest →
      motive (('\\' : CodePoint) :: letter :: rest))
    (number : ∀ letter digits rest, digits? letter (digits ++ rest) = some digits → motive rest →
      motive (('\\' : CodePoint) :: letter :: (digits ++ rest))) (t : Text) : motive t := by
  match t with
  | [] => exact nil
  | c :: rest =>
      have ih (after : Text) (shorter : after.length ≤ rest.length) : motive after :=
        inductionOnEscapes nil lone plain simple number after
      by_cases backslash : c = ('\\' : CodePoint)
      · subst backslash
        match rest, ih with
        | [], _ => exact lone
        | letter :: after, ih =>
            cases taken : digits? letter after with
            | none => exact simple letter after taken (ih after (by simp))
            | some digits =>
                obtain ⟨_, _, _, ⟨behind, rfl⟩, _⟩ := digits?_eq_some taken
                exact number letter digits behind taken (ih behind (by simp; omega))
      · exact plain c rest backslash (ih rest (Nat.le_refl _))
termination_by t.length
decreasing_by
  rw [List.length_cons]
  omega

end ClassHarvest.CSharp.Literal
