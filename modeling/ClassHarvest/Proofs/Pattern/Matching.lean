import Mathlib.Data.List.TakeWhile
import ClassHarvest.Pattern.Matcher

/-!
# Matching in front of a rest

A place in a text is told by the rest of the text behind it.  For the expressions that leave a matcher
no choice, this module says of which rest the continuation is asked.
-/

namespace ClassHarvest.Pattern

/-! ## Places -/

/-- The cursor in front of a rest of a text. -/
def Cursor.before (text : Array CodePoint) (rest : Text) (marks : Marks) : Cursor :=
  ⟨text.size - rest.length, marks⟩

variable {text : Array CodePoint} {flags : Flags} {rest : Text} {marks : Marks} {k : Continuation}
  {test : CharTest}

theorem length_le_size (suffix : rest <:+ text.toList) : rest.length ≤ text.size := by
  simpa using suffix.length_le

theorem getElem?_before (suffix : rest <:+ text.toList) :
    text[text.size - rest.length]? = rest.head? := by
  obtain ⟨front, whole⟩ := suffix
  have size : text.size = front.length + rest.length := by
    rw [← Array.length_toList, ← whole, List.length_append]
  rw [← Array.getElem?_toList, ← whole, size, Nat.add_sub_cancel,
    List.getElem?_append_right (Nat.le_refl _), Nat.sub_self, List.head?_eq_getElem?]

/-- One character further. -/
theorem before_succ {c : CodePoint} (suffix : c :: rest <:+ text.toList) :
    { Cursor.before text (c :: rest) marks with
      position := (Cursor.before text (c :: rest) marks).position + 1 } =
        Cursor.before text rest marks := by
  have bound := length_le_size suffix
  simp only [Cursor.before, List.length_cons] at bound ⊢
  congr 1
  omega

theorem tail_suffix {c : CodePoint} (suffix : c :: rest <:+ text.toList) : rest <:+ text.toList :=
  (List.suffix_cons c rest).trans suffix

/-- The stretch of a text between two places. -/
theorem extract_between {value : Text} (suffix : value ++ rest <:+ text.toList) :
    (text.extract (text.size - (value ++ rest).length) (text.size - rest.length)).toList = value := by
  obtain ⟨front, whole⟩ := suffix
  have size : text.size = front.length + (value.length + rest.length) := by
    rw [← Array.length_toList, ← whole, List.length_append, List.length_append]
  have first : text.size - (value ++ rest).length = front.length := by
    rw [size, List.length_append, Nat.add_sub_cancel]
  have last : text.size - rest.length = front.length + value.length := by omega
  rw [Array.toList_extract, List.extract_eq_take_drop, first, last, ← whole, List.drop_left,
    Nat.add_sub_cancel_left, List.take_left]

/-! ## Groups -/

theorem Marks.ends_set (marks : Marks) (index : Nat) (ends : Option Nat × Option Nat) :
    (marks.set index ends).ends index = ends := by
  simp [Marks.set, Marks.ends]

theorem Marks.ends_set_of_ne {marks : Marks} {index other : Nat} {ends : Option Nat × Option Nat}
    (apart : other ≠ index) : (marks.set index ends).ends other = marks.ends other := by
  have lookup : (marks.filter (·.1 != index)).lookup other = marks.lookup other := by
    induction marks with
    | nil => rfl
    | cons mark marks ih =>
        rw [List.filter_cons, List.lookup_cons]
        split
        · rw [List.lookup_cons, ih]
        · next removed =>
            have same : mark.1 = index := by simpa using removed
            have differs : (other == mark.1) = false := by simpa [same] using apart
            rw [ih, differs]
  have differs : (other == index) = false := by simpa using apart
  rw [Marks.ends, Marks.set, List.lookup_cons, differs, lookup, Marks.ends]

/-! ## Single characters -/

theorem run_char_nil :
    (Regex.char test).run text flags (.before text [] marks) k = none := by
  simp [Regex.run, Cursor.before]

theorem run_char_cons {c : CodePoint} (suffix : c :: rest <:+ text.toList) :
    (Regex.char test).run text flags (.before text (c :: rest) marks) k =
      if test.passes flags c then k (.before text rest marks) else none := by
  have here : text[(Cursor.before text (c :: rest) marks).position]? = some c :=
    getElem?_before suffix
  rw [Regex.run, before_succ suffix]
  simp only [here, Option.any_some]

/-! ## Repetitions of a character -/

/-- A repetition without bounds works on all that is left. -/
theorem repeatChar_before (suffix : rest <:+ text.toList) (greed : Greed) :
    repeatChar flags text greed 0 none test (.before text rest marks) k =
      let cursor := Cursor.before text rest marks
      match greed with
      | .greedy =>
        tryDown k cursor (runEnd flags text test cursor.position rest.length - cursor.position)
      | .reluctant => tryUp flags text test k cursor rest.length
      | .possessive =>
        k { cursor with position := runEnd flags text test cursor.position rest.length } := by
  have bound := length_le_size suffix
  have left : text.size - (text.size - rest.length) = rest.length := by omega
  simp only [repeatChar, Cursor.before, left, runEnd, Nat.add_zero, Nat.sub_zero, Nat.zero_add,
    Option.getD_none, Nat.min_self, Nat.not_lt_zero, Nat.lt_irrefl, decide_false, Bool.or_self]
  cases greed <;> rfl

theorem runEnd_before (suffix : rest <:+ text.toList) :
    runEnd flags text test (text.size - rest.length) rest.length =
      text.size - (rest.dropWhile fun c => test.passes flags c).length := by
  induction rest with
  | nil => rfl
  | cons c rest ih =>
      have bound := length_le_size suffix
      have next : text.size - (c :: rest).length + 1 = text.size - rest.length := by
        rw [List.length_cons] at bound ⊢
        omega
      have here := getElem?_before suffix
      rw [List.length_cons, runEnd, ← List.length_cons, next, ih (tail_suffix suffix),
        List.dropWhile_cons]
      simp only [here, List.head?_cons, Option.any_some]
      split <;> rfl

theorem tryDown_of_blocked {cursor : Cursor} {extra : Nat}
    (blocked : ∀ fewer < extra, k { cursor with position := cursor.position + fewer } = none) :
    tryDown k cursor extra = k { cursor with position := cursor.position + extra } := by
  have below : ∀ fewer < extra, tryDown k cursor fewer = none := by
    intro fewer isFewer
    induction fewer with
    | zero => exact blocked 0 isFewer
    | succ fewer ih =>
        rw [tryDown, blocked (fewer + 1) isFewer]
        exact ih (Nat.lt_of_succ_lt isFewer)
  cases extra with
  | zero => rfl
  | succ extra =>
      rw [tryDown, below extra (Nat.lt_succ_self _)]
      cases k { cursor with position := cursor.position + (extra + 1) } <;> rfl

/-- A repetition that prefers more rounds takes all characters that pass, if what follows cannot begin
with one of them. -/
theorem run_greedy (suffix : rest <:+ text.toList)
    (blocked : ∀ c behind, c :: behind <:+ text.toList → test.passes flags c = true →
      k (.before text (c :: behind) marks) = none) :
    (Regex.repeat .greedy 0 none (.char test)).run text flags (.before text rest marks) k =
      k (.before text (rest.dropWhile fun c => test.passes flags c) marks) := by
  let passes (c : CodePoint) : Bool := test.passes flags c
  have bound := length_le_size suffix
  have split : (rest.takeWhile passes).length + (rest.dropWhile passes).length = rest.length := by
    rw [← List.length_append, List.takeWhile_append_dropWhile]
  have run : (Regex.repeat .greedy 0 none (.char test)).run text flags (.before text rest marks) k =
      repeatChar flags text .greedy 0 none test (.before text rest marks) k := by
    rw [Regex.run, Regex.charTest?]
  rw [run, repeatChar_before suffix]
  simp only [Cursor.before]
  rw [runEnd_before suffix, tryDown_of_blocked]
  · have place : text.size - rest.length +
        (text.size - (rest.dropWhile passes).length - (text.size - rest.length)) =
          text.size - (rest.dropWhile passes).length := by omega
    exact congrArg (fun position => k ⟨position, marks⟩) place
  · intro fewer isFewer
    change fewer < text.size - (rest.dropWhile passes).length - (text.size - rest.length) at isFewer
    have inside : fewer < (rest.takeWhile passes).length := by omega
    -- A character that passes stands at every place on the way.
    obtain ⟨c, behind, isRest⟩ : ∃ c behind, rest.drop fewer = c :: behind :=
      List.exists_cons_of_ne_nil (List.drop_eq_nil_iff.not.mpr (by omega))
    have isTaken : (rest.takeWhile passes)[fewer]? = some c := by
      have whole : rest[fewer]? = some c := by
        rw [← List.head?_drop, isRest, List.head?_cons]
      rw [← List.takeWhile_append_dropWhile (p := passes) (l := rest),
        List.getElem?_append_left inside] at whole
      exact whole
    have isPassing : passes c = true := List.mem_takeWhile_imp (List.mem_of_getElem? isTaken)
    have stopped := blocked c behind (isRest ▸ (List.drop_suffix fewer rest).trans suffix) isPassing
    rw [← isRest, Cursor.before, List.length_drop] at stopped
    have place : text.size - (rest.length - fewer) = text.size - rest.length + fewer := by omega
    rw [← place]
    exact stopped

theorem run_reluctant_nil : (Regex.repeat .reluctant 0 none (.char test)).run text flags
    (.before text [] marks) k = k (.before text [] marks) := by
  rw [Regex.run, Regex.charTest?]
  simp only
  rw [repeatChar_before (List.nil_suffix)]
  rfl

/-- A repetition that prefers fewer rounds asks first whether it may stop. -/
theorem run_reluctant_cons {c : CodePoint} (suffix : c :: rest <:+ text.toList) :
    (Regex.repeat .reluctant 0 none (.char test)).run text flags (.before text (c :: rest) marks) k =
      match k (.before text (c :: rest) marks) with
      | some result => some result
      | none =>
        if test.passes flags c then
          (Regex.repeat .reluctant 0 none (.char test)).run text flags (.before text rest marks) k
        else none := by
  have here : text[(Cursor.before text (c :: rest) marks).position]? = some c :=
    getElem?_before suffix
  simp only [Regex.run, Regex.charTest?]
  rw [repeatChar_before suffix, repeatChar_before (tail_suffix suffix)]
  simp only [List.length_cons]
  rewrite [tryUp, before_succ suffix, here]
  rfl

/-- An expression that may be left out. -/
theorem run_optional {body : Regex} (noTest : body.charTest? = none) {cursor : Cursor} :
    (Regex.repeat .greedy 0 (some 1) body).run text flags cursor k =
      match body.run text flags cursor k with
      | some result => some result
      | none => k cursor := by
  have once (rounds : Nat) (last : Option Nat) (cursor : Cursor) :
      repeatGreedy (body.run text flags) 0 (some 1) k rounds 1 last cursor = k cursor := by
    cases rounds with
    | zero => rfl
    | succ rounds => simp [repeatGreedy, mayRepeat]
  have run : (Regex.repeat .greedy 0 (some 1) body).run text flags cursor k =
      repeatBody text .greedy 0 (some 1) (body.run text flags) cursor k := by
    rw [Regex.run, noTest]
  rw [run]
  unfold repeatBody
  rw [Nat.zero_add]
  simp only
  rw [repeatGreedy]
  have again : (repeatGreedy (body.run text flags) 0 (some 1) k (text.size - cursor.position + 1)
      (0 + 1) (some cursor.position)) = k := funext fun _ => once _ _ _
  rewrite [again]
  rfl

end ClassHarvest.Pattern
