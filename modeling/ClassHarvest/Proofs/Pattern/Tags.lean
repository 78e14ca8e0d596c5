import ClassHarvest.Proofs.Pattern.DefaultPattern

/-!
# Class lists and tags

No class list holds a `<`, nor does anything around it that is read with it.  So a `<` divides a text
into two that are searched one after the other, and no match lies on both sides.
-/

namespace ClassHarvest.Pattern

/-! ## Readers that stop at a tag -/

/-- The character that begins a tag. -/
abbrev tag : CodePoint := '<'

/-- A reader that takes from the front of a text what it would take if the text ended before the first
tag behind it. -/
def StopsAtTags {α : Type} (read : Text → Option (α × Text)) : Prop :=
  ∀ a b, read (a ++ tag :: b) = (read a).map fun (value, rest) => (value, rest ++ tag :: b)

/-- A reader without a value that stops at tags. -/
def PassesToTags (read : Text → Option Text) : Prop :=
  ∀ a b, read (a ++ tag :: b) = (read a).map (· ++ tag :: b)

variable {read : Text → Option Text}

theorem PassesToTags.nil (passes : PassesToTags read) (refuses : read [] = none) (b : Text) :
    read (tag :: b) = none := by
  rw [← List.nil_append (tag :: b), passes, refuses]
  rfl

theorem PassesToTags.bind {next : Text → Option Text} (passes : PassesToTags read)
    (passesOn : PassesToTags next) : PassesToTags fun t => (read t).bind next := by
  intro a b
  simp only [passes a b]
  cases read a with
  | none => rfl
  | some rest => exact passesOn rest b

theorem PassesToTags.bind_stops {α : Type} {next : Text → Option (α × Text)}
    (passes : PassesToTags read) (stops : StopsAtTags next) :
    StopsAtTags fun t => (read t).bind next := by
  intro a b
  simp only [passes a b]
  cases read a with
  | none => rfl
  | some rest => exact stops rest b

theorem StopsAtTags.or {α : Type} {first second : Text → Option (α × Text)}
    (stops : StopsAtTags first) (stops' : StopsAtTags second) :
    StopsAtTags fun t => (first t).or (second t) := by
  intro a b
  simp only [stops a b, stops' a b]
  cases first a <;> rfl

/-! ## Words, characters and spaces -/

theorem passesToTags_afterWord {word : Text}
    (letters : ∀ letter ∈ word, readsAs letter tag = false) : PassesToTags (afterWord word) := by
  intro a b
  induction word generalizing a with
  | nil => rfl
  | cons letter word ih =>
      cases a with
      | nil => exact if_neg (by simp [letters letter List.mem_cons_self])
      | cons c a =>
          rw [List.cons_append, afterWord, afterWord,
            ih (fun other mem => letters other (List.mem_cons_of_mem _ mem))]
          split <;> rfl

theorem passesToTags_afterChar {wanted : CodePoint} (other : tag ≠ wanted) :
    PassesToTags (afterChar wanted) := by
  intro a b
  cases a with
  | nil => exact if_neg other
  | cons c a =>
      rw [List.cons_append, afterChar, afterChar]
      split <;> rfl

theorem afterSpace_append_tag (a b : Text) : afterSpace (a ++ tag :: b) = afterSpace a ++ tag :: b := by
  unfold afterSpace
  induction a with
  | nil => rfl
  | cons c a ih =>
      rw [List.cons_append, List.dropWhile_cons, List.dropWhile_cons, ih]
      split <;> rfl

/-- White space and then a character. -/
theorem passesToTags_spaced {wanted : CodePoint} (other : tag ≠ wanted) :
    PassesToTags fun t => afterChar wanted (afterSpace t) := by
  intro a b
  simp only [afterSpace_append_tag]
  exact passesToTags_afterChar other _ _

theorem stopsAtTags_quote : StopsAtTags fun t => quote? (afterSpace t) := by
  intro a b
  simp only [afterSpace_append_tag]
  cases afterSpace a with
  | nil => rfl
  | cons c a =>
      simp only [List.cons_append, quote?]
      split <;> rfl

/-! ## Values -/

theorem stopsAtTags_valueUpTo {ending : Text → Option Text} (passes : PassesToTags ending)
    (refuses : ending [] = none) : StopsAtTags (valueUpTo ending) := by
  intro a b
  induction a with
  | nil =>
      simp only [List.nil_append, valueUpTo, passes.nil refuses b, if_true]
      rfl
  | cons c a ih =>
      have here := passes (c :: a) b
      rw [List.cons_append] at here ⊢
      rw [valueUpTo, valueUpTo, here, ih]
      cases ending (c :: a) with
      | some rest => rfl
      | none =>
          simp only [Option.map_none]
          split
          · rfl
          · simp only [Option.map_map]
            rfl

theorem passesToTags_callEnding : PassesToTags callEnding :=
  (passesToTags_afterChar (by decide)).bind (passesToTags_spaced (by decide))

theorem stopsAtTags_attribute : StopsAtTags attribute? := by
  have long : PassesToTags (afterWord "cssclass") := passesToTags_afterWord (by decide)
  have short : PassesToTags (afterWord "class") := passesToTags_afterWord (by decide)
  have word : PassesToTags fun t => (afterWord "cssclass" t).or (afterWord "class" t) := by
    intro a b
    simp only [long a b, short a b]
    cases afterWord "cssclass" a <;> rfl
  have opening : StopsAtTags attributeOpening? :=
    word.bind_stops ((passesToTags_spaced (by decide)).bind_stops stopsAtTags_quote)
  intro a b
  rw [attribute?, attribute?, opening]
  cases opened : attributeOpening? a with
  | none => rfl
  | some found =>
      obtain ⟨quote, inner⟩ := found
      have isQuote := (suffix_of_attributeOpening opened).2
      have other : tag ≠ quote := by rcases isQuote with rfl | rfl <;> decide
      exact stopsAtTags_valueUpTo (passesToTags_afterChar other) rfl inner b

theorem stopsAtTags_call : StopsAtTags call? := by
  have opening : PassesToTags callOpening? :=
    (passesToTags_afterWord (by decide)).bind
      ((passesToTags_spaced (by decide)).bind (passesToTags_spaced (by decide)))
  exact opening.bind_stops (stopsAtTags_valueUpTo passesToTags_callEnding rfl)

theorem stopsAtTags_classList : StopsAtTags classList? :=
  stopsAtTags_attribute.or stopsAtTags_call

/-! ## Texts -/

theorem classList_tag (b : Text) : classList? (tag :: b) = none := by
  rw [← List.nil_append (tag :: b), stopsAtTags_classList]
  rfl

/-- The scan of a text with a tag in it is the scan of what stands before the tag and then of what
stands behind. -/
theorem classLists_append_tag (a b : Text) :
    classLists (a ++ tag :: b) = classLists a ++ classLists b := by
  induction a using classLists.induct with
  | case1 =>
      rw [List.nil_append, classLists_of_none (classList_tag b), classLists, List.nil_append]
  | case2 c a value rest read ih =>
      have here := stopsAtTags_classList (c :: a) b
      rw [read] at here
      rw [classLists_of_some here, classLists_of_some read, ih, List.cons_append]
  | case3 c a read ih =>
      have here := stopsAtTags_classList (c :: a) b
      rw [read, List.cons_append] at here
      rw [List.cons_append, classLists_of_none here, classLists_of_none read, ih]

/-- A class list that begins before a tag ends before it. -/
theorem length_lt_of_classList {here behind value a b : Text} (isHere : here <:+ a ++ tag :: b)
    (begins : b.length < here.length) (read : classList? here = some (value, behind)) :
    b.length < behind.length := by
  rcases List.suffix_or_suffix_of_suffix (List.suffix_append a (tag :: b)) isHere with
    ⟨front, rfl⟩ | inside
  · rw [stopsAtTags_classList] at read
    obtain ⟨⟨_, rest⟩, _, same⟩ := Option.map_eq_some_iff.mp read
    cases same
    rw [List.length_append, List.length_cons]
    omega
  · have whole : here = tag :: b := inside.eq_of_length_le begins
    rw [whole, classList_tag] at read
    cases read

/-- A `<` divides a text: what the default pattern extracts from the whole is what it extracts from
the part before it and then what it extracts from the part behind it, and every match lies in one of
the two. -/
theorem extract_append_tag : ∃ pattern, ClassPattern.compile defaultPattern = .ok pattern ∧
    ∀ a b, ∃ before behind, pattern.extract a = .ok before ∧ pattern.extract b = .ok behind ∧
      pattern.extract (a ++ tag :: b) = .ok (before ++ behind) ∧
      ∀ found ∈ pattern.program.regex.allMatches pattern.program.flags (a ++ tag :: b).toArray,
        found.stop ≤ a.length ∨ a.length < found.start := by
  refine ⟨_, compile_defaultPattern, fun a b => ⟨classLists a, classLists b,
    (defaultPattern_finds a).1, (defaultPattern_finds b).1, ?_, ?_⟩⟩
  · rw [(defaultPattern_finds _).1, classLists_append_tag]
  · intro found mem
    obtain ⟨here, value, behind, isHere, read, start, stop⟩ := (defaultPattern_finds _).2 found mem
    rw [List.length_append, List.length_cons] at start stop
    by_cases begins : b.length < here.length
    · have ends := length_lt_of_classList isHere begins read
      omega
    · omega

end ClassHarvest.Pattern
