import ClassHarvest.Emission.Emitter
import ClassHarvest.Proofs.ClassSet
import ClassHarvest.Proofs.Emission.Targets
import ClassHarvest.Proofs.Text.Join

/-!
# Generated files declare the marker once more

A generated file, read as source text, declares one class: the marker, with its modifiers, in the
namespace that stands for its own.  No scanner takes class names from such a file, whatever class
names are in it.
-/

namespace ClassHarvest

open CSharp Grammar Scan

/-! ## White space -/

/-- The characters that are white space. -/
def spaces : List Nat := [
  9, 10, 11, 12, 13, 28, 29, 30, 31, 32, 0x85, 0xA0, 0x1680, 0x2000, 0x2001, 0x2002, 0x2003, 0x2004,
  0x2005, 0x2006, 0x2007, 0x2008, 0x2009, 0x200A, 0x2028, 0x2029, 0x202F, 0x205F, 0x3000]

theorem mem_spaces {c : CodePoint} (space : c.isSpace = true) : c.val ∈ spaces := by
  simp only [CodePoint.isSpace, Bool.or_eq_true, Bool.and_eq_true, decide_eq_true_eq,
    beq_iff_eq] at space
  simp only [spaces, List.mem_cons, List.not_mem_nil, or_false]
  omega

theorem isSpace_of_mem_word {t : Text} (is : isWordText t = true) : ∀ c ∈ t, c.isSpace = false := by
  have noStart : ∀ n ∈ spaces, Bounds.has CodePoint.nameStartBounds n = false := by decide +kernel
  have noPart : ∀ n ∈ spaces, Bounds.has CodePoint.namePartBounds n = false := by decide +kernel
  obtain ⟨first, name, spelled, starts, parts⟩ := exists_of_isWordText is
  have own : ∀ c ∈ first :: name, c.isSpace = false := by
    intro c mem
    rw [Bool.eq_false_iff]
    intro space
    rcases List.mem_cons.mp mem with rfl | mem
    · rw [noStart c.val (mem_spaces space)] at starts
      cases starts
    · have part := List.all_eq_true.mp parts c mem
      rw [noPart c.val (mem_spaces space)] at part
      cases part
  rcases spelled with rfl | rfl
  · exact own
  · rw [List.forall_mem_cons]
    exact ⟨rfl, own⟩

/-- Words with dots between them have no white space. -/
theorem isSpace_of_mem_join {parts : List Text} (are : ∀ t ∈ parts, isWordText t = true) :
    ∀ c ∈ Text.join "." parts, c.isSpace = false :=
  Text.forall_mem_join (by decide) fun t mem => isSpace_of_mem_word (are t mem)

section

variable {t : Text} (inked : ∀ c ∈ t, c.isSpace = false)
include inked

theorem withoutSpace_eq_self : t.withoutSpace = t :=
  List.filter_eq_self.mpr fun c mem => by rw [inked c mem, Bool.not_false]

theorem strip_eq_self : t.strip = t := by
  have kept {u : Text} (inked : ∀ c ∈ u, c.isSpace = false) :
      u.dropWhile CodePoint.isSpace = u := by
    cases u with
    | nil => rfl
    | cons c u => exact List.dropWhile_cons_of_neg (by simp [inked c List.mem_cons_self])
  rw [Text.strip, Text.trim, Text.trimStart, kept inked, Text.trimEnd, kept (by simpa using inked),
    List.reverse_reverse]

/-- A namespace without white space stands for itself, unless it is empty. -/
theorem resolveNamespace_eq_self (nonempty : t ≠ []) :
    ClassSet.resolveNamespace (some t) = t := by
  obtain ⟨c, behind, rfl⟩ := List.exists_cons_of_ne_nil nonempty
  have notBlank : (Text.isBlank (c :: behind)) = false := by
    rw [Text.isBlank, List.all_cons, inked c List.mem_cons_self, Bool.false_and]
  have notGlobal : c :: behind ≠ ClassSet.globalNamespace := by
    intro same
    have space : (' ' : CodePoint) ∈ c :: behind := same ▸ by decide
    cases inked _ space
  simp [ClassSet.resolveNamespace, notBlank, notGlobal, strip_eq_self inked]

end

/-- A marker that a source text may declare: its namespace is empty or a dotted name, and `partial`
is the last of its modifiers. -/
structure Marker.IsDeclarable (marker : Marker) : Prop where
  «namespace» : ∃ parts, (∀ part ∈ parts, IsIdentifier part) ∧
    marker.namespace = Text.join "." parts
  name : IsIdentifier marker.name
  modifiers : ∃ words, (∀ word ∈ words, word ∈ modifierWords) ∧
    words.getLast? = some (Text.ofString "partial") ∧ marker.modifiers = Text.join " " words

namespace Emission

/-! ## Targets -/

/-- A class that a file may declare. -/
structure Target.IsDeclarable (target : Target) : Prop where
  «namespace» : ∃ parts ≠ [], (∀ part ∈ parts, IsIdentifier part) ∧
    target.namespace = Text.join "." parts
  typeName : IsIdentifier target.typeName
  modifiers : ∃ words ≠ [], (∀ word ∈ words, word ∈ modifierWords) ∧
    target.modifiers = Text.join " " words

/-- A text is in order and declares one class, and no scanner finds class names in it. -/
structure Redeclares (text : Text) (target : Target) : Prop where
  inOrder : (parse? text).isSome = true
  read (path hash : Text) : ∃ unit, SourceUnit.read path hash text = .ok unit ∧
    (∃ declaration, unit.declarations = [declaration] ∧
      declaration.namespace = target.namespace ∧ declaration.name = target.typeName ∧
      declaration.modifierText = target.modifiers) ∧
    ∀ (scanner : Scanner) settings signal, scanner.scanUnit settings signal unit = pure []

theorem Target.IsDeclarable.redeclares {target : Target} (declarable : target.IsDeclarable)
    {lines : List Text} (layout : MemberLayout lines) :
    Redeclares (target.wrap lines) target := by
  obtain ⟨space, name, modifiers⟩ := target
  obtain ⟨⟨parts, some, identifiers, same⟩, identifier, ⟨words, some', are, same'⟩⟩ := declarable
  dsimp only at same same' identifier
  subst same same'
  obtain ⟨space, line, own, spans, nodes, parsed, spaceText, ownText, covers, silent⟩ :=
    exists_parse?_wrap layout identifiers some are some' identifier
  refine ⟨by rw [parsed]; rfl, fun path hash => ?_⟩
  obtain ⟨unit, reads, declarations, quiet⟩ := SourceUnit.exists_read parsed silent path hash
  refine ⟨unit, reads, ⟨_, declarations, ?_, ownText, covers⟩,
    fun scanner settings signal => scanner.scanUnit_silent quiet settings signal⟩
  have inked := isSpace_of_mem_join fun t mem => (identifiers t mem).1
  dsimp only at spaceText ⊢
  rw [spaceText, withoutSpace_eq_self inked]

/-- The class that receives the methods of a marker. -/
theorem isDeclarable_targetOf {marker : Marker} (declarable : marker.IsDeclarable)
    (findings : List Finding) (categories : List Text) :
    (targetOf (ClassSet.aggregate marker findings categories)).IsDeclarable := by
  obtain ⟨⟨parts, identifiers, space⟩, name, ⟨words, are, last, modifiers⟩⟩ := declarable
  have nonempty : words ≠ [] := by
    rintro rfl
    cases last
  refine ⟨?_, name, words, nonempty, are, modifiers⟩
  change ∃ parts' ≠ [], _ ∧ ClassSet.resolveNamespace (some marker.namespace) = _
  rw [space]
  by_cases none : parts = []
  · have root : IsIdentifier ClassSet.rootNamespace :=
      isIdentifier_of_plain (by decide) (by decide)
    refine ⟨[ClassSet.rootNamespace], by simp, by simpa using root, ?_⟩
    rw [none]
    rfl
  · have nonempty : Text.join "." parts ≠ [] := by
      obtain ⟨first, mem, behind, begins⟩ := exists_textOf_separated (.sign ".") none
      have is := (identifiers first mem).1
      rw [textOf_separated, Piece.text] at begins
      intro empty
      rw [empty] at begins
      rw [(List.append_eq_nil_iff.mp begins.symm).1] at is
      cases is
    exact ⟨parts, none, identifiers,
      resolveNamespace_eq_self (isSpace_of_mem_join fun t mem => (identifiers t mem).1) nonempty⟩

/-! ## Artifacts -/

/-- The categories of the scanners that come with the program. -/
def builtInCategories : List Text :=
  Scanner.builtIn.map (·.category)

theorem isIdentifier_accessorFor (mode : Mode) : ∀ category ∈ builtInCategories,
    IsIdentifier ((Emitter.withAccessors mode []).accessorFor category) ∧
      (Emitter.withAccessors mode []).accessorFor category ∉ startWords := by
  have plain : ∀ category ∈ builtInCategories,
      isPlainWord ((Emitter.withAccessors mode []).accessorFor category) = true ∧
        (Emitter.withAccessors mode []).accessorFor category ∉ keywords ∧
        (Emitter.withAccessors mode []).accessorFor category ∉ startWords := by
    cases mode <;> decide +kernel
  intro category mem
  obtain ⟨letters, notKeyword, notStart⟩ := plain category mem
  exact ⟨isIdentifier_of_plain letters notKeyword, notStart⟩

theorem joined_of_mem_categoryCounts {set : ClassSet}
    (joined : ∀ category ∈ set.categories.keys, Joined category) :
    ∀ remark ∈ categoryCounts set, Joined remark := by
  intro remark mem
  obtain ⟨⟨category, classes⟩, isCategory, rfl⟩ := List.mem_map.mp mem
  have named : Joined category := joined category (List.mem_map_of_mem isCategory)
  have unit : Joined
      (if classes.length = 1 then Text.ofString "class" else Text.ofString "classes") := by
    split <;> decide
  exact (((named.append (by decide)).append (.ofNat _)).append (by decide)).append unit

/-- Every file for a class set declares its target, whose members are an accessor or a combiner. -/
theorem redeclares_of_mem_emit {set : ClassSet} (declarable : (targetOf set).IsDeclarable)
    (known : ∀ category ∈ set.categories.keys, category ∈ builtInCategories) {mode : Mode}
    {artifact : Artifact} (mem : artifact ∈ (Emitter.withAccessors mode []).emit set) :
    Redeclares artifact.text (targetOf set) := by
  have named : IsIdentifier combinedAccessor := isIdentifier_of_plain (by decide) (by decide)
  have isPublic : ("public" : Text) ∈ modifierWords := by decide
  have isPrivate : ("private" : Text) ∈ modifierWords := by decide
  unfold Emitter.emit at mem
  split at mem
  · have joined : ∀ category ∈ builtInCategories, Joined category := by decide
    have summary : Joined combinedSummary := by decide
    rw [List.mem_singleton.mp mem]
    exact declarable.redeclares (Accessor.layout _ isPublic named (isComment_comments summary
      (joined_of_mem_categoryCounts fun category mem => joined category (known category mem))))
  · rcases List.mem_append.mp mem with ofCategory | isUnion
    · obtain ⟨⟨category, classes⟩, isCategory, rfl⟩ := List.mem_map.mp ofCategory
      have method :=
        isIdentifier_accessorFor mode category (known category (List.mem_map_of_mem isCategory))
      exact declarable.redeclares (Accessor.layout _ isPrivate method.1
        (isComment_comments (List.forall_mem_nil _) (List.forall_mem_nil _)))
    · rw [List.mem_singleton.mp isUnion]
      refine declarable.redeclares (Combiner.layout _ named ?_)
      rw [List.forall_mem_map]
      exact fun entry isCategory =>
        isIdentifier_accessorFor mode entry.1 (known entry.1 (List.mem_map_of_mem isCategory))

end Emission
end ClassHarvest
