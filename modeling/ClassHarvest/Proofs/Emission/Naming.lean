import ClassHarvest.Proofs.CSharp.Pieces
import ClassHarvest.Proofs.Emission.Preservation
import ClassHarvest.Proofs.Emission.Texts
import ClassHarvest.Proofs.Files.Names

/-!
# Names of files and methods

The file of a category is named after the words of the category in small letters, its method after the
words in capitals.  Both leave out what separates the words, so different categories may have the same
file, or the same method, and a method may be that with all class names, or no identifier.  What
follows says exactly when.
-/

namespace ClassHarvest

/-! ## Capitals -/

namespace CodePoint

theorem val_asciiUpper (c : CodePoint) :
    c.asciiUpper.val = if c.isAsciiLower then c.val - 32 else c.val := by
  unfold asciiUpper
  split
  · exact val_ofNat (Nat.lt_of_le_of_lt (Nat.sub_le _ _) c.isLt)
  · rfl

theorem isAsciiAlnum_asciiUpper (c : CodePoint) : c.asciiUpper.isAsciiAlnum = c.isAsciiAlnum := by
  rw [Bool.eq_iff_iff]
  simp only [isAsciiAlnum, isAsciiLetter, isAsciiUpper,
    isAsciiLower, isAsciiDigit, val_asciiUpper, Bool.or_eq_true,
    Bool.and_eq_true, decide_eq_true_eq]
  split <;> omega

theorem isAsciiDigit_asciiUpper (c : CodePoint) : c.asciiUpper.isAsciiDigit = c.isAsciiDigit := by
  rw [Bool.eq_iff_iff]
  simp only [isAsciiDigit, isAsciiLower, val_asciiUpper, Bool.and_eq_true,
    decide_eq_true_eq]
  split <;> omega

end CodePoint

namespace Emission

open CSharp

/-! ## Stretches -/

section

variable {p : CodePoint → Bool} {t word : Text} {c : CodePoint}

theorem flatten_stretches (p : CodePoint → Bool) (t : Text) :
    (stretches p t).flatten = t.filter p := by
  have go (current t : Text) :
      (stretches.go p current t).flatten = current.reverse ++ t.filter p := by
    induction t generalizing current with
    | nil => cases current <;> simp [stretches.go]
    | cons c t ih =>
        rw [stretches.go]
        by_cases passes : p c = true
        · rw [if_pos passes, ih, List.filter_cons_of_pos passes]
          simp
        · rw [if_neg passes, List.filter_cons_of_neg passes]
          cases current with
          | nil => exact ih []
          | cons d current => simp [ih]
  exact go [] t

theorem ne_nil_of_mem_stretches (mem : word ∈ stretches p t) : word ≠ [] := by
  have go (current t : Text) : ∀ word ∈ stretches.go p current t, word ≠ [] := by
    induction t generalizing current with
    | nil => cases current <;> simp [stretches.go]
    | cons c t ih =>
        rw [stretches.go]
        split
        · exact ih _
        · cases current with
          | nil => exact ih []
          | cons d current => simpa using ih []
  exact go [] t word mem

theorem of_mem_stretches (mem : word ∈ stretches p t) (inside : c ∈ word) : p c = true := by
  have inAll : c ∈ (stretches p t).flatten := List.mem_flatten.mpr ⟨word, mem, inside⟩
  rw [flatten_stretches] at inAll
  exact (List.mem_filter.mp inAll).2

end

/-! ## Files -/

/-- The words of a category that the name of its file tells. -/
def fileWords (category : Text) : List Text :=
  stretches isSlugChar category.lower

theorem hyphen_not_mem_fileWords {category word : Text} (mem : word ∈ fileWords category) :
    ('-' : CodePoint) ∉ word := by
  intro inside
  have slug := of_mem_stretches mem inside
  exact absurd slug (by decide)

theorem join_fileWords_inj {category other : Text}
    (same : Text.join "-" (fileWords category) = Text.join "-" (fileWords other)) :
    fileWords category = fileWords other := by
  -- The join of no words is empty, that of some begins with a word, which is not.
  have nonempty {category : Text} (some : fileWords category ≠ []) :
      Text.join "-" (fileWords category) ≠ [] := by
    have apart : ∀ word ∈ fileWords category, word ≠ [] := fun _ => ne_nil_of_mem_stretches
    intro empty
    obtain ⟨first, others, shape⟩ := List.exists_cons_of_ne_nil some
    have cut := Text.splitOn_join some fun _ => hyphen_not_mem_fileWords
    have empty' : Text.join [('-' : CodePoint)] (fileWords category) = [] := empty
    rw [empty', Text.splitOn] at cut
    exact apart [] (cut ▸ List.mem_singleton_self []) rfl
  by_cases none : fileWords category = []
  · by_cases none' : fileWords other = []
    · rw [none, none']
    · exact absurd (by rw [← same, none]; rfl) (nonempty none')
  · by_cases none' : fileWords other = []
    · exact absurd (by rw [same, none']; rfl) (nonempty none)
    · have cut := Text.splitOn_join none fun _ => hyphen_not_mem_fileWords
      have cut' := Text.splitOn_join none' fun _ => hyphen_not_mem_fileWords
      exact cut.symm.trans ((congrArg (Text.splitOn '-') same).trans cut')

/-- Two categories have the same file just if they have the same words in small letters. -/
theorem artifactName_eq_iff {category other : Text} :
    artifactName category = artifactName other ↔ fileWords category = fileWords other := by
  constructor
  · intro same
    rw [artifactName, artifactName, List.append_left_inj, List.append_right_inj] at same
    exact join_fileWords_inj same
  · intro same
    have words : stretches isSlugChar category.lower = stretches isSlugChar other.lower := same
    rw [artifactName, artifactName, words]

/-- No category has the file with all class names. -/
theorem artifactName_ne_combinedArtifact (category : Text) :
    artifactName category ≠ combinedArtifact := by
  intro same
  have lengths := congrArg List.length same
  have start : artifactStart.length = 13 := rfl
  have behind : artifactEnd.length = 9 := rfl
  have whole : combinedArtifact.length = 21 := rfl
  rw [artifactName, List.length_append, List.length_append, start, behind, whole] at lengths
  omega

/-! ## Methods -/

/-- The words of a category in capitals, without what separates them. -/
def methodWords (category : Text) : Text :=
  ((stretches CodePoint.isAsciiAlnum category).map capitalized).flatten

/-- What the method of a category is named after: the words of the category, two of the usual categories
in the singular.  The method for helpers has a name of its own. -/
def methodStem? (category : Text) : Option Text :=
  if category = Text.ofString "helpers" then none
  else if category = Text.ofString "attributes" then some "Attribute"
  else if category = Text.ofString "files" then some "File"
  else some (methodWords category)

/-- The name of a method with a stem, or the name of its own. -/
def methodNamed : Option Text → Text
  | none => "CssClassCallValues"
  | some stem => stem ++ Text.ofString "ClassValues"

theorem methodNamed_inj {stem? stem?' : Option Text} :
    methodNamed stem? = methodNamed stem?' ↔ stem? = stem?' := by
  have apart (stem : Text) : methodNamed none ≠ methodNamed (some stem) := by
    intro same
    have last : (Text.ofString "ClassValues").isSuffixOf (methodNamed none) = true := by
      rw [same, List.isSuffixOf_iff_suffix]
      exact List.suffix_append _ _
    exact absurd last (by decide)
  refine ⟨fun same => ?_, fun same => by rw [same]⟩
  cases stem? with
  | none =>
      cases stem?' with
      | none => rfl
      | some stem => exact absurd same (apart stem)
  | some stem =>
      cases stem?' with
      | none => exact absurd same.symm (apart stem)
      | some stem' => rw [List.append_cancel_right same]

theorem accessorFor_eq (mode : Mode) (category : Text) :
    (Emitter.withAccessors mode []).accessorFor category = methodNamed (methodStem? category) := by
  unfold methodStem?
  split
  · next isHelpers =>
      subst isHelpers
      cases mode <;> decide
  split
  · next isAttributes =>
      subst isAttributes
      cases mode <;> decide
  split
  · next isFiles =>
      subst isFiles
      cases mode <;> decide
  · next notHelpers notAttributes notFiles =>
      by_cases isMarkup : category = Text.ofString "markup"
      · subst isMarkup
        cases mode <;> decide
      · have unnamed : (Emitter.withAccessors mode []).accessors.get? category = none := by
          change Dictionary.get? category defaultAccessors = none
          simp only [defaultAccessors, Dictionary.get?_cons, Ne.symm notHelpers,
            Ne.symm notAttributes, Ne.symm notFiles, Ne.symm isMarkup, if_false, Dictionary.get?_nil]
        rw [Emitter.accessorFor, unnamed]
        rfl

/-- The method with all class names has the name of that for a category `css`. -/
theorem combinedAccessor_eq : combinedAccessor = methodNamed (some "Css") := by
  decide

/-! ## Identifiers -/

/-- Whether the words of a category begin with a digit. -/
def startsWithDigit (category : Text) : Bool :=
  (category.find? CodePoint.isAsciiAlnum).any CodePoint.isAsciiDigit

theorem head?_methodWords (category : Text) : (methodWords category).head? =
    (category.find? CodePoint.isAsciiAlnum).map CodePoint.asciiUpper := by
  have nonempty : ∀ word ∈ stretches CodePoint.isAsciiAlnum category, word ≠ [] :=
    fun _ => ne_nil_of_mem_stretches
  rw [← List.head?_filter, ← flatten_stretches, methodWords]
  cases shape : stretches CodePoint.isAsciiAlnum category with
  | nil => rfl
  | cons word words =>
      rw [shape] at nonempty
      obtain ⟨c, rest, rfl⟩ := List.exists_cons_of_ne_nil (nonempty word List.mem_cons_self)
      rfl

theorem isAsciiAlnum_of_mem_methodWords {category : Text} {c : CodePoint}
    (mem : c ∈ methodWords category) : c.isAsciiAlnum = true := by
  obtain ⟨capital, isCapital, inside⟩ := List.mem_flatten.mp mem
  obtain ⟨word, isWord, rfl⟩ := List.mem_map.mp isCapital
  cases word with
  | nil => cases inside
  | cons d rest =>
      have alnum : ∀ e ∈ d :: rest, e.isAsciiAlnum = true := fun e => of_mem_stretches isWord
      rcases List.mem_cons.mp inside with rfl | inside
      · rw [CodePoint.isAsciiAlnum_asciiUpper]
        exact alnum d List.mem_cons_self
      · exact alnum c (List.mem_cons_of_mem _ inside)

/-- Names of methods consist of ASCII letters and digits. -/
theorem isAsciiAlnum_of_mem_methodNamed {category : Text} {c : CodePoint}
    (mem : c ∈ methodNamed (methodStem? category)) : c.isAsciiAlnum = true := by
  have usual : ∀ t ∈ [methodNamed none, methodNamed (some "Attribute"), methodNamed (some "File")],
      ∀ c ∈ t, c.isAsciiAlnum = true := by
    decide
  have ending : ∀ c ∈ Text.ofString "ClassValues", c.isAsciiAlnum = true := by decide
  unfold methodStem? at mem
  split at mem
  · exact usual _ (by simp) c mem
  split at mem
  · exact usual _ (by simp) c mem
  split at mem
  · exact usual _ (by simp) c mem
  · rcases List.mem_append.mp mem with inside | inside
    · exact isAsciiAlnum_of_mem_methodWords inside
    · exact ending c inside

/-- The name of the method of a category begins with a digit just if the words of the category do. -/
theorem head?_methodNamed (category : Text) :
    (methodNamed (methodStem? category)).head?.any CodePoint.isAsciiDigit =
      startsWithDigit category := by
  unfold methodStem?
  split
  · next isHelpers => rw [isHelpers]; decide
  split
  · next isAttributes => rw [isAttributes]; decide
  split
  · next isFiles => rw [isFiles]; decide
  · rw [methodNamed, List.head?_append, head?_methodWords, startsWithDigit]
    cases category.find? CodePoint.isAsciiAlnum with
    | none => rfl
    | some c => exact c.isAsciiDigit_asciiUpper

/-- The numbers of the ASCII letters and digits. -/
def alnumNumbers : List Nat :=
  List.range' 48 10 ++ List.range' 65 26 ++ List.range' 97 26

theorem mem_alnumNumbers {c : CodePoint} (alnum : c.isAsciiAlnum = true) : c.val ∈ alnumNumbers := by
  simp only [CodePoint.isAsciiAlnum, CodePoint.isAsciiLetter, CodePoint.isAsciiUpper,
    CodePoint.isAsciiLower, CodePoint.isAsciiDigit, Bool.or_eq_true, Bool.and_eq_true,
    decide_eq_true_eq] at alnum
  simp only [alnumNumbers, List.mem_append, List.mem_range'_1]
  omega

theorem isIdentifierText_of_alnum {name : Text} (alnum : ∀ c ∈ name, c.isAsciiAlnum = true) :
    isIdentifierText name = true := by
  have parts : ∀ n ∈ alnumNumbers, Bounds.has CodePoint.identifierPartBounds n = true := by
    decide +kernel
  rw [isIdentifierText, List.all_eq_true]
  intro c mem
  rw [CodePoint.isIdentifierPart, parts _ (mem_alnumNumbers (alnum c mem))]
  rfl

/-- A text of ASCII letters and digits that is longer than every keyword is an identifier just if it
does not begin with a digit. -/
theorem isIdentifier_iff_of_alnum {name : Text} (alnum : ∀ c ∈ name, c.isAsciiAlnum = true)
    (long : 10 < name.length) :
    IsIdentifier name ↔ name.head?.any CodePoint.isAsciiDigit = false := by
  have parts : ∀ n ∈ alnumNumbers, Bounds.has CodePoint.namePartBounds n = true ∧
      Bounds.has CodePoint.nameStartBounds n = !(48 ≤ n && n ≤ 57) := by
    decide +kernel
  have short : ∀ keyword ∈ Grammar.keywords, keyword.length ≤ 10 := by decide
  have noKeyword : name ∉ Grammar.keywords := fun mem => absurd long (Nat.not_lt.mpr (short _ mem))
  cases name with
  | nil => cases long
  | cons c rest =>
      have start := (parts _ (mem_alnumNumbers (alnum c List.mem_cons_self))).2
      have others : rest.all (fun d => Bounds.has CodePoint.namePartBounds d.val) = true :=
        List.all_eq_true.mpr fun d mem =>
          (parts _ (mem_alnumNumbers (alnum d (List.mem_cons_of_mem _ mem)))).1
      have noMark : (some c == some ('@' : CodePoint)) = false := by
        rw [beq_eq_false_iff_ne]
        rintro same
        cases same
        exact absurd (alnum _ List.mem_cons_self) (by decide)
      rw [IsIdentifier, and_iff_left noKeyword, isWordText, Text.isName, start, others,
        List.head?_cons, noMark]
      simp only [CodePoint.isAsciiDigit, Bool.and_true, Bool.false_and, Bool.or_false,
        Option.any_some, Bool.not_eq_true']

/-- The method of a category is an identifier just if its words do not begin with a digit. -/
theorem isIdentifier_accessorFor_iff (mode : Mode) (category : Text) :
    IsIdentifier ((Emitter.withAccessors mode []).accessorFor category) ↔
      startsWithDigit category = false := by
  have long : 10 < (methodNamed (methodStem? category)).length := by
    cases methodStem? category with
    | none => decide
    | some stem =>
        have ending : (Text.ofString "ClassValues").length = 11 := rfl
        rw [methodNamed, List.length_append, ending]
        omega
  rw [accessorFor_eq, isIdentifier_iff_of_alnum (fun _ => isAsciiAlnum_of_mem_methodNamed) long,
    head?_methodNamed]

/-! ## Emission -/

theorem nodup_map_concat_iff {α β : Type} {f : α → β} {xs : List α} {y : β} :
    (xs.map f ++ [y]).Nodup ↔ xs.Pairwise (fun a b => f a ≠ f b) ∧ ∀ a ∈ xs, f a ≠ y := by
  rw [List.nodup_append', List.Nodup, List.pairwise_map]
  simp

theorem isIdentifierText_accessorFor (mode : Mode) (category : Text) :
    isIdentifierText ((Emitter.withAccessors mode []).accessorFor category) = true := by
  rw [accessorFor_eq]
  exact isIdentifierText_of_alnum fun _ => isAsciiAlnum_of_mem_methodNamed

/-- The methods that the files of a class set declare. -/
theorem methods_emit (set : ClassSet) :
    ((Emitter.withAccessors .categories []).emit set).map (·.method?.map Method.name) =
      (set.categories.keys.map (fun category => methodNamed (methodStem? category)) ++
        [combinedAccessor]).map some := by
  let emitter := Emitter.withAccessors .categories []
  have ofCategory (category : Text) (classes : List Text) :
      (emitter.ofCategory set category classes).method?.map Method.name =
        some (methodNamed (methodStem? category)) := by
    obtain ⟨⟨method, isMethod, isName⟩, _⟩ :=
      method_ofCategory classes (isIdentifierText_accessorFor .categories category)
    rw [isMethod, Option.map_some, isName, accessorFor_eq]
  have ofUnion : (emitter.unionOf set).method?.map Method.name = some combinedAccessor := by
    obtain ⟨⟨method, isMethod, isName⟩, _⟩ :=
      method_unionOf fun category _ => isIdentifierText_accessorFor .categories category
    rw [isMethod, Option.map_some, isName]
  have files : emitter.emit set =
      set.categories.map (fun pair => emitter.ofCategory set pair.1 pair.2) ++
        [emitter.unionOf set] :=
    rfl
  rw [files, List.map_append, List.map_append, List.map_singleton, List.map_singleton, ofUnion,
    List.append_left_inj, Dictionary.keys, List.map_map, List.map_map, List.map_map]
  apply List.map_congr_left
  intro pair _
  simp only [Function.comp_apply, ofCategory]

/-- The files of a class set have different names just if no two of its categories have the same words
in small letters.  The methods that they declare have different names just if no two categories give
the same stem, and none gives that of the method with all class names.  They are identifiers just if
the words of no category begin with a digit. -/
theorem emit_apart_iff (set : ClassSet) :
    let artifacts := (Emitter.withAccessors .categories []).emit set
    ((artifacts.map (·.name)).Nodup ↔
      set.categories.keys.Pairwise fun category other => fileWords category ≠ fileWords other) ∧
    ∃ methods : List Text, artifacts.map (·.method?.map Method.name) = methods.map some ∧
      (methods.Nodup ↔
        set.categories.keys.Pairwise (fun category other =>
          methodStem? category ≠ methodStem? other) ∧
        ∀ category ∈ set.categories.keys, methodStem? category ≠ some (Text.ofString "Css")) ∧
      ((∀ method ∈ methods, IsIdentifier method) ↔
        ∀ category ∈ set.categories.keys, startsWithDigit category = false) := by
  refine ⟨?_, _, methods_emit set, ?_, ?_⟩
  · rw [names_emit_categories rfl, nodup_map_concat_iff,
      and_iff_left fun category _ => artifactName_ne_combinedArtifact category]
    simp only [Ne, artifactName_eq_iff]
  · rw [nodup_map_concat_iff, combinedAccessor_eq]
    simp only [Ne, methodNamed_inj]
  · have combined : IsIdentifier combinedAccessor := isIdentifier_of_plain (by decide) (by decide)
    rw [List.forall_mem_append, List.forall_mem_map, List.forall_mem_singleton,
      and_iff_left combined]
    simp only [← accessorFor_eq .categories, isIdentifier_accessorFor_iff]

/-- Two categories that have the same file and the same method. -/
example : fileWords "View Tags" = fileWords "view-tags" ∧
    methodStem? "View Tags" = methodStem? "view-tags" := by
  decide +kernel

end Emission
end ClassHarvest
