import ClassHarvest.Proofs.CSharp.Escapes
import ClassHarvest.Proofs.CSharp.Setting

/-!
# Literals are read back

A text that was written as a regular literal is what the literal denotes, and a literal stays on one
line.
-/

namespace ClassHarvest.CSharp.Literal

/-! ## Characters -/

/-- The letter of a character escapes it and begins no number. -/
theorem escapeLetter?_eq_some {c letter : CodePoint} (escapes : escapeLetter? c = some letter) :
    escaped letter = c ∧ digitCount? letter = none ∧ Text.isLineEnd letter = false := by
  unfold escapeLetter? at escapes
  split at escapes
  case h_11 => cases escapes
  all_goals
    next special =>
      obtain ⟨n, bound⟩ := c
      cases special
      cases escapes
      exact ⟨rfl, rfl, rfl⟩

/-- A character without a letter is neither a backslash nor a quote. -/
theorem escapeLetter?_eq_none {c : CodePoint} (plain : escapeLetter? c = none) :
    c.val ≠ 92 ∧ c.val ≠ 34 := by
  unfold escapeLetter? at plain
  split at plain
  case h_11 noBackslash noQuote _ _ _ _ _ _ _ _ => exact ⟨noBackslash, noQuote⟩
  all_goals cases plain

/-- The three ways to write a character. -/
theorem encodePoint_cases (c : CodePoint) :
    (∃ letter, encodePoint c = [('\\' : CodePoint), letter] ∧ escaped letter = c ∧
      digitCount? letter = none ∧ Text.isLineEnd letter = false) ∨
    (encodePoint c = ('\\' : CodePoint) :: ('u' : CodePoint) :: Text.hex 4 c.val ∧ c.val < 0x10000) ∨
    (encodePoint c = [c] ∧ c.val ≠ 92 ∧ c.val ≠ 34 ∧ Text.isLineEnd c = false) := by
  unfold encodePoint
  split
  · next letter escapes => exact .inl ⟨letter, rfl, escapeLetter?_eq_some escapes⟩
  · next plain =>
      split
      · next separates =>
          refine .inr (.inl ⟨rfl, ?_⟩)
          simp only [isLineSeparator, Bool.or_eq_true, decide_eq_true_eq, beq_iff_eq] at separates
          omega
      · next joins =>
          obtain ⟨noBackslash, noQuote⟩ := escapeLetter?_eq_none plain
          refine .inr (.inr ⟨rfl, noBackslash, noQuote, ?_⟩)
          simp only [isLineSeparator, Bool.or_eq_true, decide_eq_true_eq, beq_iff_eq, not_or] at joins
          simp only [Text.isLineEnd, Bool.or_eq_false_iff, Bool.and_eq_false_iff,
            decide_eq_false_iff_not, beq_eq_false_iff_ne]
          omega

/-- A character is read back. -/
theorem unescape_encodePoint (c : CodePoint) (rest : Text) :
    unescape (encodePoint c ++ rest) = (unescape rest).map (c :: ·) := by
  rcases encodePoint_cases c with ⟨letter, written, escapes, noNumber, _⟩ | ⟨written, small⟩ |
    ⟨written, noBackslash, _⟩
  · have noDigits : digits? letter rest = none := by rw [digits?, noNumber]
    rw [written]
    refine (unescape_simple noDigits).trans ?_
    rw [escapes]
  · have takes : digitCount? 'u' = some (4, (Text.hex 4 c.val).length) := rfl
    have value : Text.hexValue (Text.hex 4 c.val) = c.val := Text.hexValue_hex_of_lt small
    rw [written]
    exact unescape_number takes (Nat.le_refl 4) (fun d mem => Text.isHexDigit_of_mem_hex mem) value
  · rw [written]
    exact unescape_cons fun same => noBackslash (congrArg CodePoint.val same)

/-! ## Literals -/

theorem unescape_flatMap_encodePoint (t : Text) : unescape (t.flatMap encodePoint) = .ok t := by
  induction t with
  | nil => rfl
  | cons c t ih =>
      rw [List.flatMap_cons, unescape_encodePoint, ih]
      rfl

/-- The inside of a literal does not begin with a quote. -/
theorem head?_flatMap_encodePoint (t : Text) :
    (t.flatMap encodePoint).head? ≠ some ('"' : CodePoint) := by
  have backslash : ('\\' : CodePoint) ≠ ('"' : CodePoint) := by decide
  cases t with
  | nil => exact (Option.some_ne_none _).symm
  | cons c t =>
      rw [List.flatMap_cons]
      intro same
      rcases encodePoint_cases c with ⟨_, written, _⟩ | ⟨written, _⟩ | ⟨written, _, noQuote, _⟩
      · rw [written] at same
        exact backslash (Option.some.inj same)
      · rw [written] at same
        exact backslash (Option.some.inj same)
      · rw [written] at same
        exact noQuote (congrArg CodePoint.val (Option.some.inj same))

/-- A text is what its literal denotes. -/
theorem decode_encode (t : Text) : decode (encode t) = .ok (some t) := by
  have read := decode_regular .bare (notRaw_of_head (head?_flatMap_encodePoint t))
  rw [around_bare, unescape_flatMap_encodePoint] at read
  exact read

theorem isLineEnd_of_isHexDigit {c : CodePoint} (digit : c.isHexDigit = true) :
    Text.isLineEnd c = false := by
  have large : 48 ≤ c.val ∧ c.val ≤ 102 := by
    rw [CodePoint.isHexDigit, CodePoint.hexValue?] at digit
    simp only [CodePoint.isAsciiDigit, Bool.and_eq_true, decide_eq_true_eq] at digit
    split at digit
    · omega
    · split at digit
      · omega
      · split at digit
        · omega
        · cases digit
  simp only [Text.isLineEnd, Bool.or_eq_false_iff, Bool.and_eq_false_iff, decide_eq_false_iff_not,
    beq_eq_false_iff_ne]
  omega

/-- A literal stays on one line. -/
theorem isLineEnd_of_mem_encode {t : Text} {c : CodePoint} (mem : c ∈ encode t) :
    Text.isLineEnd c = false := by
  have quote : Text.isLineEnd '"' = false := rfl
  have backslash : Text.isLineEnd '\\' = false := rfl
  rcases List.mem_append.mp mem with inside | last
  · rcases List.mem_cons.mp inside with rfl | inside
    · exact quote
    · obtain ⟨d, _, written⟩ := List.mem_flatMap.mp inside
      rcases encodePoint_cases d with ⟨letter, eq, _, _, joins⟩ | ⟨eq, _⟩ | ⟨eq, _, _, joins⟩
      · rw [eq] at written
        rcases List.mem_cons.mp written with rfl | written
        · exact backslash
        · rw [List.mem_singleton.mp written]
          exact joins
      · rw [eq] at written
        rcases List.mem_cons.mp written with rfl | written
        · exact backslash
        rcases List.mem_cons.mp written with rfl | written
        · rfl
        · exact isLineEnd_of_isHexDigit (Text.isHexDigit_of_mem_hex written)
      · rw [eq] at written
        rw [List.mem_singleton.mp written]
        exact joins
  · rw [List.mem_singleton.mp last]
    exact quote

end ClassHarvest.CSharp.Literal
