import ClassHarvest.Generation
import ClassHarvest.Proofs.ClassSet
import ClassHarvest.Proofs.Emission.Reading
import ClassHarvest.Proofs.Text.Decimal
import Mathlib.Data.List.Nodup

/-!
# What generated texts are made of

A generated text has no carriage return, so it is read as it was written, and every surrogate in a
class name is in one of the texts.  The files for different categories have different names.
-/

namespace ClassHarvest.Emission

open CSharp

/-! ## Escaped markup -/

/-- The characters with which markup is escaped. -/
def entityChars : Text :=
  "&amplt;gt;#3439;"

theorem of_mem_markupEscaped {t : Text} {c : CodePoint} (mem : c ∈ markupEscaped t) :
    c ∈ t ∨ c ∈ entityChars := by
  obtain ⟨d, inText, written⟩ := List.mem_flatMap.mp mem
  have names : ∀ name ∈ ["&amp;", "&lt;", "&gt;", "&#34;", "&#39;"],
      ∀ c ∈ Text.ofString name, c ∈ entityChars := by
    decide
  split at written
  · exact .inr (names "&amp;" (by simp) c written)
  · exact .inr (names "&lt;" (by simp) c written)
  · exact .inr (names "&gt;" (by simp) c written)
  · exact .inr (names "&#34;" (by simp) c written)
  · exact .inr (names "&#39;" (by simp) c written)
  · exact .inl (List.mem_singleton.mp written ▸ inText)

theorem Joined.markupEscaped {t : Text} (joined : Joined t) : Joined (markupEscaped t) := by
  have entities : Joined entityChars := by decide
  exact fun c mem => (of_mem_markupEscaped mem).elim (joined c) (entities c)

theorem Joined.ofNat (n : Nat) : Joined (Text.ofNat n) := by
  intro c mem
  have digit := Text.isAsciiDigit_of_mem_ofNat mem
  simp only [CodePoint.isAsciiDigit, Bool.and_eq_true, decide_eq_true_eq] at digit
  simp only [Text.isLineEnd, Bool.or_eq_false_iff, Bool.and_eq_false_iff,
    decide_eq_false_iff_not, beq_eq_false_iff_ne]
  omega

/-! ## Texts without carriage returns -/

/-- All lines in a text end with line feeds. -/
def Feeds (t : Text) : Prop :=
  ∀ c ∈ t, c.val ≠ 13

instance (t : Text) : Decidable (Feeds t) :=
  inferInstanceAs (Decidable (∀ c ∈ t, c.val ≠ 13))

namespace Feeds

variable {t u : Text} {lines : List Text}

theorem append (feeds : Feeds t) (feeds' : Feeds u) : Feeds (t ++ u) :=
  fun c mem => (List.mem_append.mp mem).elim (feeds c) (feeds' c)

theorem of_joined (joined : Joined t) : Feeds t := by
  intro c mem isReturn
  have inside := joined c mem
  simp [Text.isLineEnd, isReturn] at inside

theorem of_subset (feeds : Feeds t) (subset : u ⊆ t) : Feeds u :=
  fun c mem => feeds c (subset mem)

theorem indented (feeds : Feeds t) (width : Nat) : Feeds (indented width t) := by
  refine append (fun c mem => ?_) feeds
  rw [List.eq_of_mem_replicate mem]
  decide

theorem ofNat (n : Nat) : Feeds (Text.ofNat n) :=
  of_joined (.ofNat n)

theorem unlines (all : ∀ line ∈ lines, Feeds line) : Feeds (unlines lines) := by
  intro c mem
  obtain ⟨line, isLine, inLine⟩ := List.mem_flatMap.mp mem
  exact append (all line isLine) (by decide) c inLine

theorem markupEscaped (feeds : Feeds t) : Feeds (markupEscaped t) := by
  have entities : Feeds entityChars := by decide
  exact fun c mem => (of_mem_markupEscaped mem).elim (feeds c) (entities c)

theorem documentation {tag : Text} (named : Feeds tag) (all : ∀ line ∈ lines, Feeds line) :
    ∀ line ∈ documentation tag lines, Feeds line := by
  unfold Emission.documentation
  simp only [List.forall_mem_append, List.forall_mem_cons, List.forall_mem_map]
  refine ⟨⟨?_, fun line mem => append (by decide) (all line mem)⟩, ?_, List.forall_mem_nil _⟩
  · exact append (append (by decide) named) (by decide)
  · exact append (append (by decide) named) (by decide)

end Feeds

/-! ## Generated files -/

/-- The names that stand in a file are without carriage returns. -/
structure Target.Feeds (target : Target) : Prop where
  space : Emission.Feeds target.namespace
  typeName : Emission.Feeds target.typeName
  modifiers : Emission.Feeds target.modifiers

theorem Target.Feeds.wrap {target : Target} (feeds : target.Feeds) {body : List Text}
    (all : ∀ line ∈ body, Emission.Feeds line) : Emission.Feeds (target.wrap body) := by
  apply Emission.Feeds.unlines
  have fixed : ∀ line ∈ header ++ [indented 4 "\x7b", indented 4 "\x7d", "\x7b", "\x7d"],
      Emission.Feeds line := by decide
  simp only [List.forall_mem_append, List.forall_mem_cons] at fixed ⊢
  obtain ⟨ofHeader, openInner, closeInner, openOuter, closeOuter, _⟩ := fixed
  refine ⟨⟨⟨ofHeader, ?_, openOuter, ?_, openInner, List.forall_mem_nil _⟩, all⟩, closeInner,
    closeOuter, List.forall_mem_nil _⟩
  · exact Emission.Feeds.append (by decide) feeds.space
  · exact ((feeds.modifiers.append (by decide)).append feeds.typeName).indented 4

theorem feeds_render_accessor {accessor : Accessor} (target : accessor.target.Feeds)
    (name : Feeds accessor.name) (visibility : Feeds accessor.visibility)
    (summary : Feeds accessor.summary) (remarks : ∀ remark ∈ accessor.remarks, Feeds remark) :
    Feeds accessor.render := by
  have head : Feeds accessor.head :=
    ((visibility.append (by decide)).append name).append (by decide)
  apply target.wrap
  rw [List.forall_mem_append, List.forall_mem_map]
  constructor
  · intro line mem
    apply Feeds.indented
    rcases List.mem_append.mp mem with ofSummary | ofRemarks
    · split at ofSummary
      · cases ofSummary
      · exact Feeds.documentation (by decide) (by simpa using summary) line ofSummary
    · split at ofRemarks
      · cases ofRemarks
      · refine Feeds.documentation (by decide) ?_ line ofRemarks
        rw [List.forall_mem_map]
        exact fun remark isRemark => (remarks remark isRemark).markupEscaped.append (by decide)
  · unfold Accessor.valueLines
    split
    · rw [List.forall_mem_singleton]
      exact (head.append (by decide)).indented 8
    · simp only [List.forall_mem_append, List.forall_mem_singleton, List.forall_mem_map]
      refine ⟨⟨(head.append (by decide)).indented 8, fun line mem => ?_⟩, by decide⟩
      exact (Feeds.of_joined (joined_of_mem_literalLines mem)).indented 12

theorem feeds_render_combiner {combiner : Combiner} (target : combiner.target.Feeds)
    (name : Feeds combiner.name) (sources : ∀ source ∈ combiner.sources, Feeds source) :
    Feeds combiner.render := by
  apply target.wrap
  unfold Combiner.lines
  have summary : ∀ line ∈ documentation "summary" [combinedSummary], Feeds line := by decide
  simp only [List.forall_mem_append, List.forall_mem_cons, List.forall_mem_map]
  refine ⟨⟨⟨fun line mem => (summary line mem).indented 8, ?_, by decide, by decide,
    List.forall_mem_nil _⟩, fun source mem => ?_⟩, by decide, by decide, List.forall_mem_nil _⟩
  · exact (Feeds.append (Feeds.append (by decide) name) (by decide)).indented 8
  · exact (Feeds.append (Feeds.append (by decide) (sources source mem)) (by decide)).indented 12

/-! ## Emission -/

variable {emitter : Emitter} {set : ClassSet}

/-- The names that an emission writes are without carriage returns. -/
structure FeedsNames (emitter : Emitter) (set : ClassSet) : Prop where
  target : (targetOf set).Feeds
  categories : ∀ category ∈ set.categories.keys,
    Feeds category ∧ Feeds (emitter.accessorFor category)

/-- Generated texts have no carriage returns. -/
theorem feeds_of_mem_emit (names : FeedsNames emitter set) {artifact : Artifact}
    (mem : artifact ∈ emitter.emit set) : Feeds artifact.text := by
  have isPublic : Feeds "public" := by decide
  have isPrivate : Feeds "private" := by decide
  have named : Feeds combinedAccessor := by decide
  have summary : Feeds combinedSummary := by decide
  unfold Emitter.emit at mem
  split at mem
  · rw [List.mem_singleton.mp mem]
    refine feeds_render_accessor names.target named isPublic summary ?_
    intro remark isRemark
    obtain ⟨⟨category, classes⟩, isCategory, rfl⟩ := List.mem_map.mp isRemark
    have named := (names.categories category (List.mem_map_of_mem isCategory)).1
    refine Feeds.append (Feeds.append (Feeds.append (Feeds.append named (by decide))
      (Feeds.ofNat _)) (by decide)) ?_
    split <;> decide
  · rcases List.mem_append.mp mem with ofCategory | isUnion
    · obtain ⟨⟨category, classes⟩, isCategory, rfl⟩ := List.mem_map.mp ofCategory
      exact feeds_render_accessor names.target
        (names.categories category (List.mem_map_of_mem isCategory)).2 isPrivate
        (List.forall_mem_nil _) (List.forall_mem_nil _)
    · rw [List.mem_singleton.mp isUnion]
      refine feeds_render_combiner names.target named ?_
      rw [List.forall_mem_map]
      exact fun entry isCategory => (names.categories entry.1 (List.mem_map_of_mem isCategory)).2

/-- The names of the files in categories mode. -/
theorem names_emit_categories (mode : emitter.mode = .categories) :
    (emitter.emit set).map (·.name) =
      set.categories.keys.map artifactName ++ [combinedArtifact] := by
  unfold Emitter.emit
  rw [mode, Dictionary.keys, List.map_map]
  dsimp only
  rw [List.map_append, List.map_map]
  rfl

/-! ## Characters of class names -/

/-- A surrogate stands in a literal as it is. -/
theorem mem_encode_of_isSurrogate {t : Text} {c : CodePoint} (surrogate : c.isSurrogate = true)
    (mem : c ∈ t) : c ∈ Literal.encode t := by
  have asItIs : Literal.encodePoint c = [c] := by
    have large : 0xD800 ≤ c.val ∧ c.val ≤ 0xDFFF := by
      simpa [CodePoint.isSurrogate] using surrogate
    have unescaped : Literal.escapeLetter? c = none := by
      unfold Literal.escapeLetter?
      split
      case h_11 => rfl
      all_goals omega
    have inside : (decide (c.val < 0x20) || Literal.isLineSeparator c) = false := by
      simp only [Literal.isLineSeparator, Bool.or_eq_false_iff, decide_eq_false_iff_not, beq_eq_false_iff_ne]
      omega
    rw [Literal.encodePoint, unescaped]
    dsimp only
    rw [inside]
    rfl
  refine List.mem_append_left _ (List.mem_cons_of_mem _ (List.mem_flatMap.mpr ⟨c, mem, ?_⟩))
  rw [asItIs]
  exact List.mem_singleton.mpr rfl

theorem exists_mem_literalLines {classes : List Text} {literal : Text} (mem : literal ∈ classes) :
    ∃ line ∈ literalLines classes, Literal.encode literal ⊆ line := by
  induction classes using literalLines.induct with
  | case1 => cases mem
  | case2 last =>
      rw [List.mem_singleton.mp mem]
      exact ⟨_, List.mem_cons_self, List.Subset.refl _⟩
  | case3 first rest further ih =>
      rw [literalLines.eq_3 _ _ further]
      rcases List.mem_cons.mp mem with rfl | later
      · exact ⟨_, List.mem_cons_self, List.subset_append_left _ _⟩
      · obtain ⟨line, isLine, subset⟩ := ih later
        exact ⟨line, List.mem_cons_of_mem _ isLine, subset⟩

/-- The literals of a method stand in its file. -/
theorem encode_subset_render {accessor : Accessor} {literal : Text}
    (mem : literal ∈ accessor.literals) : Literal.encode literal ⊆ accessor.render := by
  obtain ⟨line, isLine, subset⟩ := exists_mem_literalLines mem
  have given : accessor.literals.isEmpty = false := by
    cases literals : accessor.literals with
    | nil => rw [literals] at mem; cases mem
    | cons _ _ => rfl
  have isValueLine : indented 12 line ∈ accessor.valueLines := by
    unfold Accessor.valueLines
    rw [given]
    exact List.mem_append_left _ (List.mem_append_right _ (List.mem_map_of_mem isLine))
  intro c inLiteral
  refine List.mem_flatMap.mpr ⟨indented 12 line, ?_, ?_⟩
  · simp [isValueLine]
  · exact List.mem_append_left _ (List.mem_append_right _ (subset inLiteral))

end ClassHarvest.Emission

/-! ## Generations -/

namespace ClassHarvest.Generation

open Emission Scan

variable {scanners : List Scanner} {findings : List Finding} {mode : Mode} {marker : Option Marker}

/-- The category of each finding is that of a scanner. -/
def Known (scanners : List Scanner) (findings : List Finding) : Prop :=
  ∀ finding ∈ findings, finding.category ∈ scanners.map (·.category)

theorem nodup_categories (own : ∀ scanner ∈ scanners, scanner ∈ Scanner.builtIn)
    (nodup : scanners.Nodup) : (scanners.map (·.category)).Nodup := by
  have apart : (Scanner.builtIn.map (·.category)).Nodup := by decide
  apply nodup.map_on
  intro scanner mem scanner' mem' same
  exact List.inj_on_of_nodup_map apart (own _ mem) (own _ mem') same

theorem keys_aggregate (own : ∀ scanner ∈ scanners, scanner ∈ Scanner.builtIn)
    (nodup : scanners.Nodup) (known : Known scanners findings) (marker : Marker) :
    (ClassSet.aggregate marker findings (scanners.map (·.category))).categories.keys =
      scanners.map (·.category) := by
  rw [ClassSet.categories_aggregate (nodup_categories own nodup) known, Dictionary.keys, List.map_map]
  exact List.map_id _

theorem feeds_accessorFor (own : ∀ scanner ∈ scanners, scanner ∈ Scanner.builtIn) {scanner : Scanner}
    (mem : scanner ∈ scanners) : Feeds ((emitterFor scanners mode).accessorFor scanner.category) := by
  have accessors : ∀ scanner ∈ Scanner.builtIn, Feeds scanner.accessor ∧
      Feeds (accessorName scanner.category) := by decide
  have defaults : ∀ pair ∈ defaultAccessors, Feeds pair.2 := by decide
  unfold Emitter.accessorFor
  split
  · next name found =>
      split
      · exact (accessors scanner (own scanner mem)).2
      · rcases Dictionary.of_mem_foldl_put (Dictionary.mem_of_get?_eq_some found) with named | isDefault
        · rcases Dictionary.of_mem_foldl_put named with named | absurd
          · obtain ⟨scanner', mem', same⟩ := List.mem_map.mp named
            have isScanner := own scanner' (List.mem_filter.mp mem').1
            exact (Prod.mk.inj same).2 ▸ (accessors scanner' isScanner).1
          · cases absurd
        · exact defaults _ isDefault
  · exact (accessors scanner (own scanner mem)).2

theorem strip_subset (t : Text) : t.strip ⊆ t := by
  intro c mem
  have inside := List.dropWhile_subset _ (List.mem_reverse.mp mem)
  exact List.dropWhile_subset _ (List.mem_reverse.mp inside)

theorem feeds_resolveNamespace {space : Text} (feeds : Feeds space) :
    Feeds (ClassSet.resolveNamespace (some space)) := by
  unfold ClassSet.resolveNamespace
  dsimp only
  split
  · decide
  · exact feeds.of_subset (strip_subset space)

/-- Generated texts have no carriage returns if the names in the marker have none. -/
theorem feeds_of_mem_finish (own : ∀ scanner ∈ scanners, scanner ∈ Scanner.builtIn)
    (nodup : scanners.Nodup) (known : Known scanners findings)
    (named : ∀ chosen ∈ marker,
      Feeds chosen.namespace ∧ Feeds chosen.name ∧ Feeds chosen.modifiers) {artifact : Artifact}
    (mem : artifact ∈ (finish marker findings scanners (emitterFor scanners mode)).artifacts) :
    Feeds artifact.text := by
  cases marker with
  | none => cases mem
  | some chosen =>
      obtain ⟨space, name, modifiers⟩ := named chosen rfl
      have categories : ∀ scanner ∈ Scanner.builtIn, Feeds scanner.category := by decide
      change artifact ∈ (emitterFor scanners mode).emit _ at mem
      apply feeds_of_mem_emit _ mem
      refine ⟨⟨feeds_resolveNamespace space, name, modifiers⟩, ?_⟩
      rw [keys_aggregate own nodup known, List.forall_mem_map]
      exact fun scanner used => ⟨categories _ (own _ used), feeds_accessorFor own used⟩

/-- No two generated files have the same name. -/
theorem nodup_names_finish (own : ∀ scanner ∈ scanners, scanner ∈ Scanner.builtIn)
    (nodup : scanners.Nodup) (known : Known scanners findings) :
    ((finish marker findings scanners (emitterFor scanners mode)).artifacts.map (·.name)).Nodup := by
  cases marker with
  | none => exact List.nodup_nil
  | some chosen =>
      have names : (Scanner.builtIn.map fun scanner => artifactName scanner.category).Nodup ∧
          combinedArtifact ∉ Scanner.builtIn.map fun scanner => artifactName scanner.category := by
        decide
      change (((emitterFor scanners mode).emit _).map (·.name)).Nodup
      cases mode with
      | combined => exact List.nodup_singleton _
      | categories =>
          rw [names_emit_categories rfl, keys_aggregate own nodup known, List.map_map]
          apply List.Nodup.append
          · apply nodup.map_on
            intro scanner mem scanner' mem' same
            exact List.inj_on_of_nodup_map names.1 (own _ mem) (own _ mem') same
          · exact List.nodup_singleton _
          · intro name ofCategory isUnion
            obtain ⟨scanner, mem, isName⟩ := List.mem_map.mp ofCategory
            apply names.2
            rw [← List.mem_singleton.mp isUnion, ← isName]
            exact List.mem_map_of_mem (own _ mem)

/-- Every surrogate in a class name is in a generated text. -/
theorem exists_mem_finish (own : ∀ scanner ∈ scanners, scanner ∈ Scanner.builtIn)
    (nodup : scanners.Nodup) (known : Known scanners findings) {chosen : Marker} {finding : Finding}
    (mem : finding ∈ findings) {name : Text} (isName : name ∈ finding.classes) {c : CodePoint}
    (inName : c ∈ name) (surrogate : c.isSurrogate = true) :
    ∃ artifact ∈ (finish (some chosen) findings scanners (emitterFor scanners mode)).artifacts,
      c ∈ artifact.text := by
  have written := mem_encode_of_isSurrogate surrogate inName
  have inGroup : finding.classes ∈ ClassSet.groupOf findings finding.category :=
    List.mem_map_of_mem (List.mem_filter.mpr ⟨mem, by simp⟩)
  have inCategory : name ∈ ClassSet.union (ClassSet.groupOf findings finding.category) :=
    ClassSet.mem_union.mpr ⟨_, inGroup, isName⟩
  have isEntry : (finding.category, ClassSet.union (ClassSet.groupOf findings finding.category)) ∈
      (ClassSet.aggregate chosen findings (scanners.map (·.category))).categories := by
    rw [ClassSet.categories_aggregate (nodup_categories own nodup) known]
    exact List.mem_map_of_mem (known finding mem)
  unfold finish Emitter.emit
  cases mode with
  | combined =>
      refine ⟨_, List.mem_cons_self, encode_subset_render ?_ written⟩
      exact ClassSet.mem_union.mpr ⟨_, List.mem_map_of_mem isEntry, inCategory⟩
  | categories =>
      refine ⟨_, List.mem_append_left _ (List.mem_map_of_mem isEntry), ?_⟩
      exact encode_subset_render inCategory written

end ClassHarvest.Generation
