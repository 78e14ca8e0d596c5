import ClassHarvest.Json.Reader
import ClassHarvest.Json.Writer
import ClassHarvest.Proofs.Text.Hexadecimal

/-!
# Strings of JSON documents

A string is written in ASCII, a character above `U+FFFF` as the two units of its UTF-16 pair.  Reading
it back gives the units one by one and joins pairs afterwards, so that it is the text that was written,
except that two surrogates of the text that make a pair have become one character.
-/

namespace ClassHarvest.Json

/-! ## UTF-16 pairs -/

/-- The units as which a code point is written. -/
def units (c : CodePoint) : Text :=
  if c.val < 0x10000 then [c] else [.ofNat (surrogates c).1, .ofNat (surrogates c).2]

theorem surrogates_lt {c : CodePoint} (large : 0x10000 ≤ c.val) :
    0xD800 ≤ (surrogates c).1 ∧ (surrogates c).1 < 0xDC00 ∧
      0xDC00 ≤ (surrogates c).2 ∧ (surrogates c).2 < 0xE000 := by
  have bound := c.isLt
  simp only [surrogates]
  omega

theorem ofSurrogates_surrogates {c : CodePoint} (large : 0x10000 ≤ c.val) :
    CodePoint.ofSurrogates (.ofNat (surrogates c).1) (.ofNat (surrogates c).2) = c := by
  obtain ⟨_, firstLt, _, secondLt⟩ := surrogates_lt large
  rw [CodePoint.ofSurrogates, CodePoint.val_ofNat (by omega), CodePoint.val_ofNat (by omega)]
  have number : 0x10000 + ((surrogates c).1 - 0xD800) * 0x400 + ((surrogates c).2 - 0xDC00) =
      c.val := by
    simp only [surrogates]
    omega
  rw [number, CodePoint.ofNat_val]

theorem isHighSurrogate_of_large {c : CodePoint} (large : 0x10000 ≤ c.val) :
    c.isHighSurrogate = false ∧ c.isLowSurrogate = false := by
  simp only [CodePoint.isHighSurrogate, CodePoint.isLowSurrogate, Bool.and_eq_false_iff,
    decide_eq_false_iff_not]
  omega

theorem le_val_ofSurrogates {c d : CodePoint} (high : c.isHighSurrogate = true)
    (low : d.isLowSurrogate = true) : 0x10000 ≤ (CodePoint.ofSurrogates c d).val := by
  simp only [CodePoint.isHighSurrogate, Bool.and_eq_true, decide_eq_true_eq] at high
  simp only [CodePoint.isLowSurrogate, Bool.and_eq_true, decide_eq_true_eq] at low
  have number : (CodePoint.ofSurrogates c d).val =
      0x10000 + (c.val - 0xD800) * 0x400 + (d.val - 0xDC00) := CodePoint.val_ofNat (by omega)
  omega

theorem joinSurrogates_cons_of_not_high {c : CodePoint} (notHigh : c.isHighSurrogate = false)
    (t : Text) : joinSurrogates (c :: t) = c :: joinSurrogates t := by
  cases t with
  | nil => rfl
  | cons d t => rw [joinSurrogates]; simp [notHigh]

theorem joinSurrogates_pair {c : CodePoint} (large : 0x10000 ≤ c.val) (t : Text) :
    joinSurrogates (.ofNat (surrogates c).1 :: .ofNat (surrogates c).2 :: t) =
      c :: joinSurrogates t := by
  obtain ⟨firstGe, firstLt, secondGe, secondLt⟩ := surrogates_lt large
  have high : (CodePoint.ofNat (surrogates c).1).isHighSurrogate = true := by
    simp only [CodePoint.isHighSurrogate, Bool.and_eq_true, decide_eq_true_eq]
    rw [CodePoint.val_ofNat (by omega)]
    omega
  have low : (CodePoint.ofNat (surrogates c).2).isLowSurrogate = true := by
    simp only [CodePoint.isLowSurrogate, Bool.and_eq_true, decide_eq_true_eq]
    rw [CodePoint.val_ofNat (by omega)]
    omega
  rw [joinSurrogates, ofSurrogates_surrogates large]
  simp [high, low]

/-- Taking characters apart into units and joining the units joins what was a pair before, and nothing
else. -/
theorem joinSurrogates_flatMap_units (t : Text) :
    joinSurrogates (t.flatMap units) = joinSurrogates t := by
  induction t using joinSurrogates.induct with
  | case1 c d rest pair ih =>
      simp only [Bool.and_eq_true] at pair
      have cSmall : c.val < 0x10000 := by
        have high := pair.1
        simp only [CodePoint.isHighSurrogate, Bool.and_eq_true, decide_eq_true_eq] at high
        omega
      have dSmall : d.val < 0x10000 := by
        have low := pair.2
        simp only [CodePoint.isLowSurrogate, Bool.and_eq_true, decide_eq_true_eq] at low
        omega
      simp only [List.flatMap_cons, units, cSmall, dSmall, if_true, List.singleton_append]
      rw [joinSurrogates, joinSurrogates]
      simp [pair, ih]
  | case2 c d rest noPair ih =>
      rw [List.flatMap_cons]
      by_cases small : c.val < 0x10000
      · rw [units, if_pos small, List.singleton_append]
        -- The unit behind `c` is `d` or the first half of `d`; neither makes a pair with `c`.
        obtain ⟨e, after, split_, notLow⟩ : ∃ e after, List.flatMap units (d :: rest) = e :: after ∧
            (c.isHighSurrogate && e.isLowSurrogate) = false := by
          rw [List.flatMap_cons]
          by_cases dSmall : d.val < 0x10000
          · refine ⟨d, rest.flatMap units, by simp [units, dSmall], by simpa using noPair⟩
          · have large : 0x10000 ≤ d.val := by omega
            obtain ⟨firstGe, firstLt, _⟩ := surrogates_lt large
            refine ⟨.ofNat (surrogates d).1, .ofNat (surrogates d).2 :: rest.flatMap units,
              by simp [units, dSmall], ?_⟩
            have notLow : (CodePoint.ofNat (surrogates d).1).isLowSurrogate = false := by
              simp only [CodePoint.isLowSurrogate, Bool.and_eq_false_iff, decide_eq_false_iff_not]
              rw [CodePoint.val_ofNat (by omega)]
              omega
            rw [notLow, Bool.and_false]
        rw [split_] at ih ⊢
        rw [joinSurrogates, joinSurrogates, ih]
        simp [notLow, noPair]
      · have large : 0x10000 ≤ c.val := by omega
        rw [units, if_neg small, List.cons_append, List.cons_append, List.nil_append,
          joinSurrogates_pair large, ih,
          joinSurrogates_cons_of_not_high (isHighSurrogate_of_large large).1]
  | case3 t short =>
      match t with
      | [] => rfl
      | [c] =>
          rw [List.flatMap_cons, List.flatMap_nil, List.append_nil]
          by_cases small : c.val < 0x10000
          · rw [units, if_pos small]
          · have large : 0x10000 ≤ c.val := by omega
            rw [units, if_neg small, joinSurrogates_pair large]
            rfl
      | c :: d :: rest => exact absurd rfl (short c d rest)

theorem head?_joinSurrogates_cons (d : CodePoint) (t : Text) :
    ∃ e rest, joinSurrogates (d :: t) = e :: rest ∧ (e = d ∨ e.isLowSurrogate = false) := by
  cases t with
  | nil => exact ⟨d, [], rfl, Or.inl rfl⟩
  | cons c t =>
      rw [joinSurrogates]
      split
      · next pair =>
          rw [Bool.and_eq_true] at pair
          exact ⟨_, _, rfl, Or.inr (isHighSurrogate_of_large (le_val_ofSurrogates pair.1 pair.2)).2⟩
      · exact ⟨d, _, rfl, Or.inl rfl⟩

/-- Once pairs are joined, none is left. -/
@[simp]
theorem joinSurrogates_joinSurrogates (t : Text) :
    joinSurrogates (joinSurrogates t) = joinSurrogates t := by
  induction t using joinSurrogates.induct with
  | case1 c d rest pair ih =>
      rw [joinSurrogates, if_pos pair]
      rw [Bool.and_eq_true] at pair
      have notHigh := (isHighSurrogate_of_large (le_val_ofSurrogates pair.1 pair.2)).1
      rw [joinSurrogates_cons_of_not_high notHigh, ih]
  | case2 c d rest noPair ih =>
      rw [joinSurrogates, if_neg noPair]
      obtain ⟨e, after, joined, kept⟩ := head?_joinSurrogates_cons d rest
      rw [joined] at ih ⊢
      rw [joinSurrogates, ih]
      rcases kept with rfl | notLow
      · exact if_neg noPair
      · simp [notLow]
  | case3 t short =>
      match t with
      | [] => rfl
      | [c] => rfl
      | c :: d :: rest => exact absurd rfl (short c d rest)

theorem joinSurrogates_eq_self {t : Text} (noHigh : ∀ c ∈ t, c.isHighSurrogate = false) :
    joinSurrogates t = t := by
  induction t with
  | nil => rfl
  | cons c t ih =>
      rw [joinSurrogates_cons_of_not_high (noHigh c List.mem_cons_self),
        ih fun d mem => noHigh d (List.mem_cons_of_mem c mem)]

theorem joinSurrogates_of_hasSurrogate {t : Text} (whole : t.hasSurrogate = false) :
    joinSurrogates t = t := by
  refine joinSurrogates_eq_self fun c mem => ?_
  have noSurrogate := List.any_eq_false.mp whole c mem
  simp only [CodePoint.isSurrogate, Bool.and_eq_true, decide_eq_true_eq] at noSurrogate
  simp only [CodePoint.isHighSurrogate, Bool.and_eq_false_iff, decide_eq_false_iff_not]
  omega

/-! ## Escapes -/

/-- The unit of an escape is read back from its four digits. -/
theorem unit?_hex {n : Nat} (small : n < 0x10000) {rest : Text} (more : rest ≠ []) :
    unit? (Text.hex 4 n ++ rest) = some (.ofNat n, rest) := by
  obtain ⟨next, after, rfl⟩ := List.exists_cons_of_ne_nil more
  have shape : unit? (Text.hex 4 n ++ next :: after) =
      if (Text.hex 4 n).all CodePoint.isHexDigit then
        some (.ofNat (Text.hexValue (Text.hex 4 n)), next :: after)
      else none := rfl
  have digits : (Text.hex 4 n).all CodePoint.isHexDigit = true :=
    List.all_eq_true.mpr fun _ mem => Text.isHexDigit_of_mem_hex mem
  have value : Text.hexValue (Text.hex 4 n) = n := Text.hexValue_hex_of_lt small
  rw [shape, if_pos digits, value]

/-- What is read of a character as it stands inside a string are its units. -/
theorem readUnits_escaped (start : Text) (bound : Nat) (c : CodePoint) {rest : Text}
    (more : rest ≠ []) :
    readUnits start (bound + (units c).length) (escaped c ++ rest) =
      (readUnits start bound rest).map fun (t, after) => (units c ++ t, after) := by
  have unitRead (bound n : Nat) (small : n < 0x10000) {rest : Text} (more : rest ≠ []) :
      readUnits start (bound + 1) (unitEscape n ++ rest) =
        (readUnits start bound rest).map fun (t, after) => (.ofNat n :: t, after) := by
    have shape : unitEscape n ++ rest =
        (⟨92, by decide⟩ : CodePoint) :: ⟨117, by decide⟩ :: (Text.hex 4 n ++ rest) := rfl
    rw [shape, readUnits]
    simp [unit?_hex small more]
  unfold escaped
  split
  case h_8 notQuote notBackslash _ _ _ _ _ =>
      split
      · next printable =>
          simp only [Bool.and_eq_true, decide_eq_true_eq] at printable
          have single : units c = [c] := if_pos (by omega)
          rw [single]
          change readUnits start (bound + 1) (c :: rest) = _
          have noQuote : c.val ≠ 34 := notQuote
          have noBackslash : c.val ≠ 92 := notBackslash
          rw [readUnits.eq_def]
          simp [noQuote, noBackslash, Nat.not_lt.mpr printable.1]
      · split
        · next small =>
            rw [units, if_pos small, List.length_singleton, unitRead bound c.val small more,
              CodePoint.ofNat_val]
            rfl
        · next large =>
            obtain ⟨_, firstLt, _, secondLt⟩ := surrogates_lt (Nat.le_of_not_lt large)
            rw [units, if_neg large, List.append_assoc]
            have moreBehind : unitEscape (surrogates c).2 ++ rest ≠ [] := by simp [more]
            have both := unitRead (bound + 1) (surrogates c).1 (by omega) moreBehind
            rw [unitRead bound (surrogates c).2 (by omega) more] at both
            refine both.trans ?_
            cases readUnits start bound rest <;> rfl
  all_goals
    next special =>
      obtain ⟨n, bound⟩ := c
      cases special
      rfl

/-- What is read of the inside of a string are its units. -/
theorem readUnits_flatMap_escaped (start : Text) (t rest : Text) {bound : Nat}
    (enough : (t.flatMap units).length < bound) :
    readUnits start bound (t.flatMap escaped ++ ('"' : CodePoint) :: rest) =
      .ok (t.flatMap units, rest) := by
  induction t generalizing bound with
  | nil =>
      obtain ⟨bound, rfl⟩ := Nat.exists_eq_succ_of_ne_zero (Nat.ne_of_gt enough)
      rfl
  | cons c t ih =>
      rw [List.flatMap_cons, List.length_append] at enough
      obtain ⟨left, rfl⟩ : ∃ left, bound = left + (units c).length :=
        ⟨bound - (units c).length, by omega⟩
      rw [List.flatMap_cons, List.append_assoc, readUnits_escaped start left c (by simp),
        ih (by omega)]
      rfl

theorem length_units_le_length_escaped (c : CodePoint) :
    (units c).length ≤ (escaped c).length := by
  have unit (n : Nat) : (unitEscape n).length = 6 := rfl
  have twoAtMost : (units c).length ≤ 2 := by
    rw [units]
    split <;> simp
  unfold escaped
  split
  case h_8 =>
      split
      · next printable =>
          simp only [Bool.and_eq_true, decide_eq_true_eq] at printable
          rewrite [units, if_pos (by omega)]
          exact Nat.le_refl _
      · split
        · rw [unit]
          omega
        · rw [List.length_append, unit, unit]
          omega
  all_goals exact twoAtMost

/-- A string is read back, except that its pairs of surrogates have been joined. -/
theorem readString_quoted (t rest : Text) :
    readString (quoted t ++ rest) = .ok (joinSurrogates t, rest) := by
  have shape : quoted t ++ rest =
      ('"' : CodePoint) :: (t.flatMap escaped ++ ('"' : CodePoint) :: rest) := by
    simp [quoted]
  have shorter : (t.flatMap units).length ≤ (t.flatMap escaped).length := by
    induction t with
    | nil => exact Nat.le_refl _
    | cons c t ih =>
        simp only [List.flatMap_cons, List.length_append]
        exact Nat.add_le_add (length_units_le_length_escaped c) (ih (by simp [quoted]))
  rw [shape, readString, List.drop_one, List.tail_cons, readUnits_flatMap_escaped]
  · rw [← joinSurrogates_flatMap_units t]
    rfl
  · simp only [List.length_cons, List.length_append]
    omega

end ClassHarvest.Json
