import ClassHarvest.Pattern.ClassPattern

/-!
# What a class pattern extracts

The class lists that are found in a text are stretches of it, and so have only characters of it.
-/

namespace ClassHarvest.Pattern

variable {text : Array CodePoint} {found : Match} {value : Text}

theorem mem_of_captured {program : Program} {group : Text}
    (captured : program.captured text found group = some (some value)) :
    ∀ c ∈ value, c ∈ text.toList := by
  unfold Program.captured at captured
  obtain ⟨index, _, spanned⟩ := Option.map_eq_some_iff.mp captured
  obtain ⟨⟨first, last⟩, _, rfl⟩ := Option.map_eq_some_iff.mp spanned
  intro c mem
  change c ∈ (text.extract first last).toList at mem
  rw [Array.toList_extract, List.extract_eq_take_drop] at mem
  exact List.mem_of_mem_drop (List.mem_of_mem_take mem)

theorem mem_of_firstCaptured {program : Program} {groups : List Text}
    (captured : firstCaptured program text found groups = .ok (some value)) :
    ∀ c ∈ value, c ∈ text.toList := by
  induction groups with
  | nil => cases captured
  | cons group rest ih =>
      rw [firstCaptured] at captured
      split at captured
      · cases captured
      · exact ih captured
      · next value' isCaptured =>
          cases captured
          exact mem_of_captured isCaptured

theorem mem_of_valuesOf {pattern : ClassPattern} {signal : Signal} {matchesFound : List Match}
    {asked asked' : Nat} {values : List Text}
    (given : valuesOf pattern text signal asked matchesFound = .ok (values, asked')) :
    ∀ value ∈ values, ∀ c ∈ value, c ∈ text.toList := by
  induction matchesFound generalizing asked values with
  | nil =>
      rw [valuesOf] at given
      cases given
      intro value mem
      cases mem
  | cons found rest ih =>
      rw [valuesOf] at given
      split at given
      · cases given
      split at given
      · cases given
      next value? isValue =>
      split at given
      · cases given
      next others asked'' isRest =>
      cases given
      intro value mem
      rcases List.mem_append.mp mem with first | others
      · rw [Option.mem_toList] at first
        rw [Option.mem_def.mp first] at isValue
        exact mem_of_firstCaptured isValue
      · exact ih isRest value others

/-- What is extracted has only characters of the text. -/
theorem ClassPattern.mem_of_extract {pattern : ClassPattern} {text : Text} {values : List Text}
    (extracted : pattern.extract text = .ok values) : ∀ value ∈ values, ∀ c ∈ value, c ∈ text := by
  unfold ClassPattern.extract ClassPattern.extractUnder at extracted
  cases given : valuesOf pattern text.toArray Signal.never 0
      (pattern.program.regex.allMatches pattern.program.flags text.toArray) with
  | error error =>
      rw [given] at extracted
      cases extracted
  | ok result =>
      rw [given] at extracted
      cases extracted
      intro value mem c inValue
      simpa using mem_of_valuesOf given value mem c inValue

end ClassHarvest.Pattern
