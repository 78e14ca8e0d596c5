import ClassHarvest.Proofs.CSharp.RegularLiteral
import ClassHarvest.Proofs.Json.Strings

/-!
# Spellings

Between the quotes of a regular literal a character may stand for itself, or an escape may stand for it:
a letter, or its number in hexadecimal digits.  Spellings of all kinds may follow each other, and the
literal denotes the characters that are spelled.  The one exception are characters beyond `U+FFFF` that
are spelled by the two units of their UTF-16 pair.  Such a pair stays two surrogates; where surrogates
are joined later on, they become the character.
-/

namespace ClassHarvest.CSharp.Literal

/-! ## The spellings of a character -/

/-- The letters of the escapes without a number, and what they stand for. -/
def letterMeanings : List (CodePoint × CodePoint) :=
  [(.ofNat 39, .ofNat 39), ('"', '"'), ('\\', '\\'), ('0', .ofNat 0), ('a', .ofNat 7),
    ('b', .ofNat 8), ('e', .ofNat 27), ('f', .ofNat 12), ('n', .ofNat 10), ('r', .ofNat 13),
    ('t', .ofNat 9), ('v', .ofNat 11)]

/-- A text is a number in hexadecimal digits, each in any casing. -/
def IsHex (width n : Nat) (digits : Text) : Prop :=
  digits.map CodePoint.asciiLower = Text.hex width n

instance (width n : Nat) (digits : Text) : Decidable (IsHex width n digits) :=
  inferInstanceAs (Decidable (_ = _))

/-- A way to write a character between the quotes of a regular literal. -/
inductive Spelling (c : CodePoint) where
  /-- The character stands for itself. -/
  | plain (noQuote : c.val ≠ 34) (noBackslash : c.val ≠ 92) (joins : isNewLine c = false)
  /-- A letter stands for it. -/
  | simple (letter : CodePoint) (means : (letter, c) ∈ letterMeanings)
  /-- Its number behind `\x`. -/
  | hexadecimal (digits : Text) (number : IsHex 4 c.val digits) (small : c.val < 0x10000)
  /-- Its number behind `\u`. -/
  | short (digits : Text) (number : IsHex 4 c.val digits) (small : c.val < 0x10000)
  /-- Its number behind `\U`. -/
  | long (digits : Text) (number : IsHex 8 c.val digits)
  /-- The numbers of its two UTF-16 units, each behind `\u`. -/
  | pair (high low : Text) (large : 0x10000 ≤ c.val) (highNumber : IsHex 4 (Json.surrogates c).1 high)
      (lowNumber : IsHex 4 (Json.surrogates c).2 low)

/-- An escape with a number. -/
def numberEscape (letter : CodePoint) (digits : Text) : Text :=
  ('\\' : CodePoint) :: letter :: digits

namespace Spelling

variable {c : CodePoint}

/-- How the character is written. -/
def text : Spelling c → Text
  | plain _ _ _ => [c]
  | simple letter _ => [('\\' : CodePoint), letter]
  | hexadecimal digits _ _ => numberEscape 'x' digits
  | short digits _ _ => numberEscape 'u' digits
  | long digits _ => numberEscape 'U' digits
  | pair high low _ _ _ => numberEscape 'u' high ++ numberEscape 'u' low

/-- Whether the character is written by its UTF-16 pair. -/
def isPair : Spelling c → Bool
  | pair _ _ _ _ _ => true
  | _ => false

/-- What is read of the character. -/
def units (spelling : Spelling c) : Text :=
  if spelling.isPair then Json.units c else [c]

end Spelling

/-- A Unicode scalar value with one of its spellings. -/
structure Spelled where
  /-- The character. -/
  point : CodePoint
  scalar : point.isSurrogate = false
  /-- How it is written. -/
  spelling : Spelling point

/-- The regular literal of characters with their spellings. -/
def spelledLiteral (spelled : List Spelled) : Text :=
  enquote (spelled.flatMap (·.spelling.text))

/-! ## Reading a spelling -/

section

variable {width n : Nat} {digits : Text}

theorem IsHex.length_eq (number : IsHex width n digits) : digits.length = width := by
  rw [← List.length_map (f := CodePoint.asciiLower), number, Text.length_hex]

theorem IsHex.isHexDigit (number : IsHex width n digits) : ∀ d ∈ digits, d.isHexDigit = true := by
  intro d mem
  have lower : d.asciiLower ∈ Text.hex width n := by
    rw [← number]
    exact List.mem_map_of_mem mem
  have digit := Text.isHexDigit_of_mem_hex lower
  rwa [CodePoint.isHexDigit, CodePoint.hexValue?_asciiLower] at digit

theorem IsHex.hexValue_eq (number : IsHex width n digits) (fits : n < 16 ^ width) :
    Text.hexValue digits = n := by
  rw [← Text.hexValue_map_asciiLower, number, Text.hexValue_hex_of_lt fits]

end

variable {c : CodePoint}

/-- An escape with all digits that its letter allows stands for the character of that number. -/
theorem unescape_isHex {letter : CodePoint} {digits : Text} {width : Nat}
    (takes : ∃ least ≤ width, digitCount? letter = some (least, width))
    (number : IsHex width c.val digits) (fits : c.val < 16 ^ width) (rest : Text) :
    unescape (numberEscape letter digits ++ rest) = (unescape rest).map (c :: ·) := by
  obtain ⟨least, enough, takes⟩ := takes
  rw [← number.length_eq] at takes enough
  exact unescape_number takes enough number.isHexDigit (number.hexValue_eq fits)

theorem letterMeanings_spec :
    ∀ meaning ∈ letterMeanings,
      digitCount? meaning.1 = none ∧ escaped meaning.1 = meaning.2 := by
  decide

namespace Spelling

/-- A spelling is read whatever follows it. -/
theorem unescape_text (spelling : Spelling c) (rest : Text) :
    unescape (spelling.text ++ rest) = (unescape rest).map (spelling.units ++ ·) := by
  have x : ∃ least ≤ 4, digitCount? 'x' = some (least, 4) := ⟨1, by decide, rfl⟩
  have u : ∃ least ≤ 4, digitCount? 'u' = some (least, 4) := ⟨4, Nat.le_refl 4, rfl⟩
  have U : ∃ least ≤ 8, digitCount? 'U' = some (least, 8) := ⟨8, Nat.le_refl 8, rfl⟩
  cases spelling with
  | plain noQuote noBackslash joins =>
      exact unescape_cons fun same => noBackslash (congrArg CodePoint.val same)
  | simple letter means =>
      obtain ⟨noNumber, stands⟩ := letterMeanings_spec _ means
      have noDigits : digits? letter rest = none := by rw [digits?, noNumber]
      have read := unescape_simple noDigits
      rw [stands] at read
      exact read
  | hexadecimal digits number small => exact unescape_isHex x number small rest
  | short digits number small => exact unescape_isHex u number small rest
  | long digits number =>
      have bound := c.isLt
      exact unescape_isHex U number (by omega) rest
  | pair high low large highNumber lowNumber =>
      obtain ⟨_, highLt, _, lowLt⟩ := Json.surrogates_lt large
      -- Each unit is the number of a code point of its own.
      have unit {k : Nat} {digits : Text} (small : k < 0x10000) (number : IsHex 4 k digits)
          (rest : Text) : unescape (numberEscape 'u' digits ++ rest) =
            (unescape rest).map (CodePoint.ofNat k :: ·) := by
        have val : (CodePoint.ofNat k).val = k := CodePoint.val_ofNat (by omega)
        exact unescape_isHex u (by rwa [val]) (by omega) rest
      have both : (pair high low large highNumber lowNumber).units =
          [.ofNat (Json.surrogates c).1, .ofNat (Json.surrogates c).2] := by
        rw [units, isPair, if_pos rfl, Json.units, if_neg (by omega)]
      rw [both, text, List.append_assoc, unit (by omega) highNumber, unit (by omega) lowNumber]
      cases unescape rest <;> rfl

/-- No spelling begins with a quote. -/
theorem exists_text_eq_cons (spelling : Spelling c) :
    ∃ d rest, spelling.text = d :: rest ∧ d ≠ ('"' : CodePoint) := by
  have backslash : ('\\' : CodePoint) ≠ ('"' : CodePoint) := by decide
  cases spelling with
  | plain noQuote _ _ => exact ⟨c, [], rfl, fun same => noQuote (congrArg CodePoint.val same)⟩
  | _ => exact ⟨_, _, rfl, backslash⟩

theorem units_of_not_isPair {spelling : Spelling c} (single : spelling.isPair = false) :
    spelling.units = [c] := by
  rw [units, single]
  rfl

theorem le_val_of_isPair {spelling : Spelling c} (paired : spelling.isPair = true) :
    0x10000 ≤ c.val := by
  cases spelling with
  | pair _ _ large _ _ => exact large
  | _ => cases paired

/-- What is read of a pair is not the character. -/
theorem units_eq_cons_iff {spelling : Spelling c} {t t' : Text} :
    spelling.units ++ t = c :: t' ↔ spelling.isPair = false ∧ t = t' := by
  cases paired : spelling.isPair with
  | false => simp [units_of_not_isPair paired]
  | true =>
      have large := le_val_of_isPair paired
      obtain ⟨_, highLt, _⟩ := Json.surrogates_lt large
      rw [units, paired, if_pos rfl, Json.units, if_neg (by omega)]
      simp only [Bool.true_eq_false, false_and, iff_false]
      intro same
      have first := congrArg CodePoint.val (List.cons.inj same).1
      rw [CodePoint.val_ofNat (by omega)] at first
      omega

/-- Where surrogates are joined a pair becomes the character. -/
theorem joinSurrogates_units (scalar : c.isSurrogate = false) (spelling : Spelling c) (t : Text) :
    Json.joinSurrogates (spelling.units ++ t) = c :: Json.joinSurrogates t := by
  cases paired : spelling.isPair with
  | false =>
      have notHigh : c.isHighSurrogate = false := by
        simp only [CodePoint.isSurrogate, Bool.and_eq_false_iff, decide_eq_false_iff_not] at scalar
        simp only [CodePoint.isHighSurrogate, Bool.and_eq_false_iff, decide_eq_false_iff_not]
        omega
      rw [units_of_not_isPair paired]
      exact Json.joinSurrogates_cons_of_not_high notHigh t
  | true =>
      have large := le_val_of_isPair paired
      rw [units, paired, if_pos rfl, Json.units, if_neg (by omega)]
      exact Json.joinSurrogates_pair large t

end Spelling

/-! ## Reading a literal -/

theorem unescape_spelled (spelled : List Spelled) :
    unescape (spelled.flatMap (·.spelling.text)) = .ok (spelled.flatMap (·.spelling.units)) := by
  induction spelled with
  | nil => rfl
  | cons character spelled ih =>
      rw [List.flatMap_cons, character.spelling.unescape_text, ih]
      rfl

/-- A literal denotes what is read of its characters, whatever surrounds it. -/
theorem decode_spelledLiteral (spelled : List Spelled) (setting : Setting) :
    decode (setting.around (spelledLiteral spelled)) =
      .ok (some (spelled.flatMap (·.spelling.units))) := by
  have first : (spelled.flatMap (·.spelling.text)).head? ≠ some ('"' : CodePoint) := by
    cases spelled with
    | nil => exact (Option.some_ne_none _).symm
    | cons character spelled =>
        obtain ⟨d, rest, written, other⟩ := character.spelling.exists_text_eq_cons
        rw [List.flatMap_cons, written]
        exact fun same => other (Option.some.inj same)
  rw [spelledLiteral, decode_regular setting (notRaw_of_head first), unescape_spelled]
  rfl

theorem flatMap_units_eq_iff {spelled : List Spelled} :
    spelled.flatMap (·.spelling.units) = spelled.map (·.point) ↔
      ∀ character ∈ spelled, character.spelling.isPair = false := by
  induction spelled with
  | nil => simp
  | cons character spelled ih =>
      rw [List.flatMap_cons, List.map_cons, Spelling.units_eq_cons_iff, ih, List.forall_mem_cons]

theorem joinSurrogates_spelled (spelled : List Spelled) :
    Json.joinSurrogates (spelled.flatMap (·.spelling.units)) = spelled.map (·.point) := by
  induction spelled with
  | nil => rfl
  | cons character spelled ih =>
      rw [List.flatMap_cons, Spelling.joinSurrogates_units character.scalar, ih, List.map_cons]

/-- A regular literal denotes the characters that are spelled between its quotes, in whatever mix, if
and only if none is spelled by its UTF-16 pair; and it denotes them in any case once surrogates are
joined.  So two literals without such pairs that spell the same characters denote the same text. -/
theorem decode_spelled (spelled : List Spelled) (setting : Setting) :
    (decode (setting.around (spelledLiteral spelled)) = .ok (some (spelled.map (·.point))) ↔
      ∀ character ∈ spelled, character.spelling.isPair = false) ∧
    (∃ value, decode (setting.around (spelledLiteral spelled)) = .ok (some value) ∧
      Json.joinSurrogates value = spelled.map (·.point)) ∧
    ∀ (other : List Spelled) (setting' : Setting),
      spelled.map (·.point) = other.map (·.point) →
      (∀ character ∈ spelled ++ other, character.spelling.isPair = false) →
      decode (setting.around (spelledLiteral spelled)) =
        decode (setting'.around (spelledLiteral other)) := by
  rw [decode_spelledLiteral]
  refine ⟨?_, ⟨_, rfl, joinSurrogates_spelled spelled⟩, ?_⟩
  · rw [← flatMap_units_eq_iff]
    exact ⟨fun same => Option.some.inj (Except.ok.inj same), fun same => by rw [same]⟩
  · intro other setting' same single
    obtain ⟨first, second⟩ := List.forall_mem_append.mp single
    rw [decode_spelledLiteral, flatMap_units_eq_iff.mpr first, flatMap_units_eq_iff.mpr second, same]

/-- A character of each kind of spelling but the pair. -/
def mixedSpellings : List Spelled :=
  [⟨'p', rfl, .plain (by decide) (by decide) rfl⟩,
    ⟨'-', rfl, .hexadecimal "002D" (by decide) (by decide)⟩,
    ⟨'4', rfl, .short "0034" (by decide) (by decide)⟩,
    ⟨'"', rfl, .simple '"' (by decide)⟩,
    ⟨.ofNat 0x1F600, rfl, .long "0001F600" (by decide)⟩]

/-- The same characters, most of them in other spellings. -/
def otherSpellings : List Spelled :=
  [⟨'p', rfl, .short "0070" (by decide) (by decide)⟩,
    ⟨'-', rfl, .plain (by decide) (by decide) rfl⟩,
    ⟨'4', rfl, .plain (by decide) (by decide) rfl⟩,
    ⟨'"', rfl, .hexadecimal "0022" (by decide) (by decide)⟩,
    ⟨.ofNat 0x1F600, rfl, .plain (by decide) (by decide) rfl⟩]

/-- A character in the spelling of its pair. -/
def pairSpelling : List Spelled :=
  [⟨.ofNat 0x1F600, rfl, .pair "d83d" "DE00" (by decide) (by decide) (by decide)⟩]

theorem decode_spelled_mixed :
    decode " \"p\\x002D\\u0034\\\"\\U0001F600\"u8" = .ok (some "p-4\"😀") ∧
      decode "\"\\ud83d\\uDE00\"" ≠ .ok (some "😀") ∧
      decode (spelledLiteral mixedSpellings) = decode (spelledLiteral otherSpellings) := by
  let setting : Setting := ⟨" ", "u8", [], rfl, .tail _ (.head _), rfl⟩
  refine ⟨?_, ?_, ?_⟩
  · have written : (" \"p\\x002D\\u0034\\\"\\U0001F600\"u8" : Text) =
        setting.around (spelledLiteral mixedSpellings) := rfl
    rw [written]
    exact (decode_spelled mixedSpellings setting).1.mpr (by decide)
  · have written : ("\"\\ud83d\\uDE00\"" : Text) = Setting.bare.around (spelledLiteral pairSpelling) :=
      rfl
    rw [written]
    intro same
    exact absurd ((decode_spelled pairSpelling .bare).1.mp same) (by decide)
  · have same := (decode_spelled mixedSpellings .bare).2.2 otherSpellings .bare rfl (by decide)
    rwa [around_bare, around_bare] at same

end ClassHarvest.CSharp.Literal
