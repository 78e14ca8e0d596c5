import ClassHarvest.Pattern.ClassPattern

/-!
# Letters without regard to case

What passes the test for a letter of the alphabet when letter case does not matter: the letter, its
capital, and for an `s` also the long `ſ`.
-/

namespace ClassHarvest

/-! ## Lower case -/

namespace CaseRange

/-- Whether a number lies among those to which a range moves. -/
def reaches (r : CaseRange) (n : Nat) : Bool :=
  (r.first : Int) + r.shift ≤ n && (n : Int) ≤ r.last + r.shift

/-- A code point that is moved comes from a range that reaches its new place. -/
theorem apply_eq_cases {ranges : List CaseRange} {c d : CodePoint} (moved : apply ranges c = d)
    (proper : d.val ≠ 0) :
    c = d ∨ ∃ r ∈ ranges, r.reaches d.val = true ∧ (c.val : Int) + r.shift = d.val := by
  induction ranges with
  | nil => exact Or.inl moved
  | cons r ranges ih =>
      rw [apply] at moved
      split at moved
      · exact Or.inl moved
      split at moved
      · next moves =>
          right
          refine ⟨r, List.mem_cons_self, ?_⟩
          simp only [CaseRange.moves, Bool.and_eq_true, decide_eq_true_eq] at moves
          have place : Int.toNat ((c.val : Int) + r.shift) = d.val := by
            rw [← moved, CodePoint.ofNat, CodePoint.ofNat?] at proper ⊢
            split
            · rfl
            · next large =>
                rw [dif_neg large] at proper
                exact absurd rfl proper
          simp only [reaches, Bool.and_eq_true, decide_eq_true_eq]
          omega
      · rcases ih moved with same | ⟨r', mem, found⟩
        · exact Or.inl same
        · exact Or.inr ⟨r', List.mem_cons_of_mem _ mem, found⟩

end CaseRange

namespace CodePoint

/-- Only a small letter itself and its capital have it as their lower case, if the ranges that reach it
are those of the alphabet. -/
theorem lower_eq_iff_of_letter {c d : CodePoint} (letter : d.isAsciiLower = true)
    (apart : ∀ r ∈ lowerRanges, r.reaches d.val = true → r.shift = 32) :
    c.lower = d ↔ c = d ∨ c = d.asciiUpper := by
  have bounds : 97 ≤ d.val ∧ d.val ≤ 122 := by simpa [isAsciiLower] using letter
  have capital : (ofNat (d.val - 32)).val = d.val - 32 := by
    rw [ofNat, ofNat?, dif_pos (by omega)]
    rfl
  have upper : d.asciiUpper = ofNat (d.val - 32) := by rw [asciiUpper, if_pos letter]
  constructor
  · intro moved
    rcases CaseRange.apply_eq_cases moved (by omega) with same | ⟨r, mem, reaches, place⟩
    · exact Or.inl same
    · right
      rw [apart r mem reaches] at place
      rw [upper]
      apply val_inj
      rw [capital]
      omega
  · rintro (rfl | rfl)
    · unfold lower lowerRanges
      rw [CaseRange.apply, if_neg (by simp; omega), if_neg (by simp [CaseRange.moves]; omega),
        CaseRange.apply, if_pos (by simp; omega)]
    · unfold lower lowerRanges
      rw [upper, CaseRange.apply, capital, if_neg (by simp; omega),
        if_pos (by simp [CaseRange.moves]; omega)]
      apply val_inj
      have back : Int.toNat (((d.val - 32 : Nat) : Int) + 32) = d.val := by omega
      simp only
      rw [back, ofNat, ofNat?, dif_pos d.isLt]
      rfl

/-- Only a code point itself has it as its lower case, if no range reaches it. -/
theorem lower_eq_iff_of_apart {c d : CodePoint} (proper : d.val ≠ 0) (small : d.lower = d)
    (apart : ∀ r ∈ lowerRanges, r.reaches d.val = false) : c.lower = d ↔ c = d := by
  constructor
  · intro moved
    rcases CaseRange.apply_eq_cases moved proper with same | ⟨r, mem, reaches, _⟩
    · exact same
    · rw [apart r mem] at reaches
      cases reaches
  · rintro rfl
    exact small

end CodePoint

namespace Pattern

/-! ## Letters of words -/

/-- Whether a character reads as a small letter: as it stands, as a capital, or as the long `ſ`. -/
def readsAs (letter c : CodePoint) : Bool :=
  c = letter || c = letter.asciiUpper || (letter.val = 115 && c.val = 0x17F)

/-- A letter other than `s` is one of its two cases. -/
theorem passes_letter {letter wanted : CodePoint} (isLetter : letter.isAsciiLower = true)
    (apart : ∀ r ∈ CodePoint.lowerRanges, r.reaches letter.val = true → r.shift = 32)
    (isWanted : wanted.lower = letter) (hasCase : wanted.hasCase = true)
    (single : variantsOf letter = []) (notS : letter.val ≠ 115) (c : CodePoint) :
    (CharTest.one wanted).passes classFlags c = readsAs letter c := by
  have same := @CodePoint.lower_eq_iff_of_letter c letter isLetter apart
  have test : (CharTest.one wanted).passes classFlags c = (c.lower == letter) := by
    unfold CharTest.passes sameCharacter Flags.hasCase Flags.sameLetter Flags.lower classFlags
    simp [hasCase, isWanted, single]
  rw [test, readsAs, Bool.eq_iff_iff]
  simp [same, notS]

/-- An `s` is one of its two cases or the long `ſ`. -/
theorem passes_s (c : CodePoint) :
    (CharTest.one 's').passes classFlags c = readsAs 's' c := by
  have same := @CodePoint.lower_eq_iff_of_letter c 's' (by decide) (by decide +kernel)
  have long := @CodePoint.lower_eq_iff_of_apart c 'ſ' (by decide) (by decide) (by decide +kernel)
  have test : (CharTest.one 's').passes classFlags c = (c.lower == 's' || c.lower == 'ſ') := by
    have hasCase : CodePoint.hasCase 's' = true := by decide
    have small : CodePoint.lower 's' = 's' := by decide
    have variants : c.lower.val ∈ variantsOf 's' ↔ c.lower = 'ſ' := by
      change c.lower.val ∈ [0x17F] ↔ _
      rw [List.mem_singleton]
      exact ⟨fun isVal => CodePoint.val_inj isVal, fun isLong => congrArg CodePoint.val isLong⟩
    unfold CharTest.passes sameCharacter Flags.hasCase Flags.sameLetter Flags.lower classFlags
    rw [Bool.eq_iff_iff]
    simp [hasCase, small, variants]
  have isLong : c = 'ſ' ↔ c.val = 0x17F :=
    ⟨fun isLong => congrArg CodePoint.val isLong, fun isVal => CodePoint.val_inj isVal⟩
  rw [test, readsAs, Bool.eq_iff_iff]
  simp only [Bool.or_eq_true, beq_iff_eq, same, long, isLong, decide_eq_true_eq, Bool.and_eq_true]
  exact or_congr_right ⟨fun isVal => ⟨rfl, isVal⟩, fun both => both.2⟩

/-- The tests for the letters of the words in class patterns. -/
theorem passes_one {wanted : CodePoint} (mem : wanted ∈ ("cslaC" : Text)) (c : CodePoint) :
    (CharTest.one wanted).passes classFlags c = readsAs wanted.asciiLower c := by
  change wanted ∈ (['c', 's', 'l', 'a', 'C'] : Text) at mem
  simp only [List.mem_cons, List.not_mem_nil, or_false] at mem
  rcases mem with rfl | rfl | rfl | rfl | rfl
  · exact passes_letter (by decide) (by decide +kernel) (by decide) (by decide) (by decide) (by decide) c
  · exact passes_s c
  · exact passes_letter (by decide) (by decide +kernel) (by decide) (by decide) (by decide) (by decide) c
  · exact passes_letter (by decide) (by decide +kernel) (by decide) (by decide) (by decide) (by decide) c
  · exact passes_letter (by decide) (by decide +kernel) (by decide) (by decide) (by decide) (by decide) c

/-! ## Other characters -/

/-- A character without cases stands for itself. -/
theorem sameCharacter_plain {wanted : CodePoint} (noCase : wanted.hasCase = false) (c : CodePoint) :
    sameCharacter classFlags wanted c = (c == wanted) := by
  unfold sameCharacter Flags.hasCase classFlags
  simp [noCase]

/-- The test for white space. -/
theorem passes_space (c : CodePoint) :
    (CharTest.set false [.named .space false]).passes classFlags c = c.isSpace := by
  simp [CharTest.passes, setHas, SetItem.hasCase, SetItem.has, CharClass.has, classFlags]

/-- The test for either kind of quotes. -/
theorem passes_quote (c : CodePoint) :
    (CharTest.set false [.one '\'', .one '"']).passes classFlags c = (c == '\'' || c == '"') := by
  have noCase : SetItem.hasCase classFlags (.one '\'') = false ∧
      SetItem.hasCase classFlags (.one '"') = false := by decide
  simp [CharTest.passes, setHas, SetItem.has, noCase]

end Pattern
end ClassHarvest
