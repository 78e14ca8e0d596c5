import Mathlib.Algebra.Group.Nat.Defs
import Mathlib.Data.List.Induction
import ClassHarvest.Text.Basic

/-!
# Hexadecimal numerals

A number is written with as many digits as asked for, in small letters.  It is read back from them up to
their width, in whatever casing they are.
-/

namespace ClassHarvest

namespace CodePoint

/-! ## Digits -/

theorem hexValue?_hexDigit {d : Nat} (small : d < 16) : (hexDigit d).hexValue? = some d := by
  have all : ∀ d < 16, (hexDigit d).hexValue? = some d := by decide
  exact all d small

theorem hexValue?_lt {c : CodePoint} {n : Nat} (digit : c.hexValue? = some n) : n < 16 := by
  simp only [hexValue?, isAsciiDigit, Bool.and_eq_true, decide_eq_true_eq] at digit
  grind

theorem hexValue?_asciiLower (c : CodePoint) : c.asciiLower.hexValue? = c.hexValue? := by
  unfold asciiLower
  split
  · next upper =>
      simp only [isAsciiUpper, Bool.and_eq_true, decide_eq_true_eq] at upper
      have number : (ofNat (c.val + 32)).val = c.val + 32 := val_ofNat (by omega)
      simp only [hexValue?, isAsciiDigit, number, Bool.and_eq_true, decide_eq_true_eq]
      split
      · omega
      · split
        · grind
        · grind
  · rfl

end CodePoint

namespace Text

/-! ## Writing -/

theorem length_hex (width n : Nat) : (hex width n).length = width := by
  simp [hex]

theorem exists_hexDigit_of_mem_hex {width n : Nat} {c : CodePoint} (mem : c ∈ hex width n) :
    ∃ d < 16, c = CodePoint.hexDigit d := by
  obtain ⟨i, _, rfl⟩ := List.mem_map.mp mem
  exact ⟨_, Nat.mod_lt _ (by decide), rfl⟩

theorem isHexDigit_of_mem_hex {width n : Nat} {c : CodePoint} (mem : c ∈ hex width n) :
    c.isHexDigit = true := by
  obtain ⟨d, small, rfl⟩ := exists_hexDigit_of_mem_hex mem
  rw [CodePoint.isHexDigit, CodePoint.hexValue?_hexDigit small]
  rfl

theorem hex_succ (width n : Nat) :
    hex (width + 1) n = hex width (n / 16) ++ [CodePoint.hexDigit (n % 16)] := by
  have digit : ∀ i ∈ List.range width,
      CodePoint.hexDigit (n / Nat.pow 16 (width + 1 - 1 - i) % 16) =
        CodePoint.hexDigit (n / 16 / Nat.pow 16 (width - 1 - i) % 16) := by
    intro i mem
    have small : i < width := List.mem_range.mp mem
    have power : width + 1 - 1 - i = (width - 1 - i) + 1 := by omega
    rw [Nat.div_div_eq_div_mul, power]
    rw [Nat.mul_comm]
    rfl
  rw [hex, List.range_succ, List.map_append, List.map_congr_left digit, hex]
  simp

/-! ## Reading -/

theorem hexValue_concat (t : Text) (c : CodePoint) :
    hexValue (t ++ [c]) = hexValue t * 16 + c.hexValue?.getD 0 := by
  rw [hexValue, List.foldl_append]
  rfl

theorem hexValue_lt (t : Text) : hexValue t < 16 ^ t.length := by
  induction t using List.reverseRecOn with
  | nil => decide
  | append_singleton t c ih =>
      have digit : c.hexValue?.getD 0 < 16 := by
        cases value : c.hexValue? with
        | none => decide
        | some n => exact CodePoint.hexValue?_lt value
      rw [hexValue_concat, List.length_append, List.length_singleton, Nat.pow_succ]
      omega

/-- The digits of a number are read back up to their width. -/
theorem hexValue_hex (width n : Nat) : hexValue (hex width n) = n % 16 ^ width := by
  induction width generalizing n with
  | zero => exact (Nat.mod_one n).symm
  | succ width ih =>
      have digit := CodePoint.hexValue?_hexDigit (d := n % 16) (Nat.mod_lt n (by decide))
      calc
        hexValue (hex (width + 1) n) = n / 16 % 16 ^ width * 16 + n % 16 := by
          rw [hex_succ, hexValue_concat, ih, digit, Option.getD_some]
        _ = n % (16 * 16 ^ width) := by
          rw [Nat.mod_mul]
          omega
        _ = n % 16 ^ (width + 1) := by rw [Nat.pow_succ, Nat.mul_comm]

/-- A number is read back from as many digits as it has. -/
theorem hexValue_hex_of_lt {width n : Nat} (fits : n < 16 ^ width) :
    hexValue (hex width n) = n := by
  rw [hexValue_hex, Nat.mod_eq_of_lt fits]

/-- The value of digits does not depend on their casing. -/
theorem hexValue_map_asciiLower (t : Text) : hexValue (t.map CodePoint.asciiLower) = hexValue t := by
  rw [hexValue, List.foldl_map]
  simp only [CodePoint.hexValue?_asciiLower]
  rfl

end Text

end ClassHarvest
