import ClassHarvest.Text.Basic
import Mathlib.Algebra.Group.Nat.Defs

/-!
# Decimal numerals

The decimal digits of a number are ASCII digits, none of them is a leading zero unless the number is
zero, and the number is read back from them.
-/

namespace ClassHarvest.Text

/-! ## Digits -/

theorem ofNat_eq_map_toDigits (n : Nat) : ofNat n = (Nat.toDigits 10 n).map CodePoint.ofChar := by
  rw [ofNat, ofString, Nat.toList_repr]

theorem isAsciiDigit_ofChar {c : Char} (digit : c.isDigit = true) :
    (CodePoint.ofChar c).isAsciiDigit = true := by
  rw [Char.isDigit_iff_toNat] at digit
  simp only [CodePoint.isAsciiDigit, Bool.and_eq_true, decide_eq_true_eq]
  exact digit

theorem isAsciiDigit_of_mem_ofNat {n : Nat} {c : CodePoint} (mem : c ∈ ofNat n) :
    c.isAsciiDigit = true := by
  rw [ofNat_eq_map_toDigits] at mem
  obtain ⟨d, digitMem, rfl⟩ := List.mem_map.mp mem
  exact isAsciiDigit_ofChar (Nat.isDigit_of_mem_toDigits (by decide) (by decide) digitMem)

theorem ofNat_ne_nil (n : Nat) : ofNat n ≠ [] := by
  simp [ofNat_eq_map_toDigits]

theorem ofNat_of_lt_ten {n : Nat} (small : n < 10) :
    ofNat n = [CodePoint.ofChar (Nat.digitChar n)] := by
  rw [ofNat_eq_map_toDigits, Nat.toDigits_of_lt_base small]
  rfl

theorem ofNat_of_ten_le {n : Nat} (large : 10 ≤ n) :
    ofNat n = ofNat (n / 10) ++ [CodePoint.ofChar (Nat.digitChar (n % 10))] := by
  simp only [ofNat_eq_map_toDigits]
  rw [Nat.toDigits_of_base_le (by decide) large, List.map_append]
  rfl

/-- A numeral begins with a zero only if it is the numeral of zero. -/
theorem eq_zero_of_head?_ofNat {n : Nat} {c : CodePoint} (head : (ofNat n).head? = some c)
    (zero : c.val = 48) : n = 0 := by
  induction n using Nat.strongRecOn with
  | ind n ih =>
      by_cases small : n < 10
      · rw [ofNat_of_lt_ten small, List.head?_cons, Option.some.injEq] at head
        have value : (Nat.digitChar n).toNat = 48 := by rw [← head] at zero; exact zero
        rw [Nat.toNat_digitChar_of_lt_ten small] at value
        omega
      · have large : 10 ≤ n := Nat.le_of_not_lt small
        rw [ofNat_of_ten_le large, List.head?_append, Option.or_of_isSome
          (List.isSome_head?.mpr (ofNat_ne_nil _))] at head
        have quotient := ih (n / 10) (by omega) head
        omega

/-! ## Values -/

theorem decimalValue_map_ofChar (digits : List Char) (n : Nat) :
    (digits.map CodePoint.ofChar).foldl (fun n c => n * 10 + (c.val - 48)) n =
      Nat.ofDigitChars 10 digits n := by
  induction digits generalizing n with
  | nil => simp
  | cons d digits ih =>
      rw [List.map_cons, List.foldl_cons, ih, Nat.ofDigitChars_cons, Nat.mul_comm]
      rfl

/-- A number is read back from its digits. -/
@[simp]
theorem decimalValue_ofNat (n : Nat) : decimalValue (ofNat n) = n := by
  rw [decimalValue, ofNat_eq_map_toDigits, decimalValue_map_ofChar, Nat.ofDigitChars_ten_toDigits]

theorem length_ofNat_le_iff {n k : Nat} (pos : 0 < k) : (ofNat n).length ≤ k ↔ n < 10 ^ k := by
  rw [ofNat_eq_map_toDigits, List.length_map]
  exact Nat.length_toDigits_le_iff (by decide) pos

end ClassHarvest.Text
