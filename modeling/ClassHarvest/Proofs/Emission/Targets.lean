import ClassHarvest.Proofs.Emission.Members

/-!
# The text around the members of a class

A file that declares a class is laid out in pieces that fit when its members are.  Read as source
text it is one class in a namespace, and the names and the modifiers stand where they were written.
-/

namespace ClassHarvest.Emission

open CSharp Grammar

/-! ## Pieces -/

/-- What stands before the name of the namespace. -/
def frontLayout : List Piece :=
  commentLines 0 header ++ [.word "namespace", .blank " "]

/-- What stands between the name of the namespace and the modifiers. -/
def innerLayout : List Piece :=
  .blank [('\n' : CodePoint)] ::
    (lineOf 0 [.sign "\x7b"] ++ [.blank (List.replicate 4 (' ' : CodePoint))])

/-- What stands between the modifiers and the name of the class. -/
def classLayout : List Piece :=
  [.blank " ", .word "class", .blank " "]

/-- What stands between the name of the class and its members. -/
def openLayout : List Piece :=
  .blank [('\n' : CodePoint)] :: lineOf 4 [.sign "\x7b"]

/-- What stands behind the members. -/
def closeLayout : List Piece :=
  lineOf 4 [.sign "\x7d"] ++ lineOf 0 [.sign "\x7d"]

/-- A file that declares a class with some members. -/
def targetLayout (parts modifiers : List Text) (name : Text) (members : List Piece) : List Piece :=
  frontLayout ++ (separated (.sign ".") parts ++ (innerLayout ++
    (separated (.blank " ") modifiers ++ (classLayout ++ (.word name ::
      (openLayout ++ (members ++ closeLayout)))))))

section

variable {parts modifiers : List Text} {name : Text} {members : List Piece}

theorem textOf_targetLayout {lines : List Text} (same : textOf members = unlines lines) :
    textOf (targetLayout parts modifiers name members) =
      Target.wrap ⟨Text.join "." parts, name, Text.join " " modifiers⟩ lines := by
  have front : textOf frontLayout = unlines header ++ "namespace " := rfl
  have inner : textOf innerLayout =
      [('\n' : CodePoint)] ++ unlines ["\x7b"] ++ List.replicate 4 (' ' : CodePoint) := rfl
  have word : textOf classLayout = " class " := rfl
  have opens : textOf openLayout = [('\n' : CodePoint)] ++ unlines [indented 4 "\x7b"] := rfl
  have closes : textOf closeLayout = unlines [indented 4 "\x7d", "\x7d"] := rfl
  simp only [targetLayout, textOf_append, textOf_cons, textOf_separated, front, inner, word, opens,
    closes, same, Target.wrap]
  simp [unlines, Piece.text, indented]

theorem fit_targetLayout (identifiers : ∀ t ∈ parts, IsIdentifier t)
    (words : ∀ t ∈ modifiers, t ∈ modifierWords) (identifier : IsIdentifier name)
    (fits : Fit (textOf closeLayout) members) :
    Fit [] (targetLayout parts modifiers name members) := by
  have front {rest : Text} : Fit rest frontLayout :=
    fit_append.mpr ⟨fit_commentLines isComment_header,
      ⟨isWordText_of_plain (by decide), rfl⟩, fits_space, trivial⟩
  have inner {rest : Text} : Fit rest innerLayout :=
    ⟨fits_lineFeed, fit_append.mpr ⟨fit_fixedLine (by decide), fits_spaces 4, trivial⟩⟩
  have opens {rest : Text} : Fit rest openLayout := ⟨fits_lineFeed, fit_fixedLine (by decide)⟩
  have closes : Fit [] closeLayout :=
    fit_append.mpr ⟨fit_fixedLine (by decide), fit_fixedLine (by decide)⟩
  simp only [targetLayout, fit_append, Fit]
  refine ⟨front, fit_dotted (fun t mem => (identifiers t mem).1) rfl, inner,
    fit_spaced (fun t mem => isWordText_of_mem_modifierWords t (words t mem)) rfl,
    ⟨fits_space, ⟨isWordText_of_plain (by decide), rfl⟩, fits_space, trivial⟩,
    ⟨identifier.1, rfl⟩, opens, ?_, closes⟩
  rw [List.append_nil]
  exact fits

end

/-! ## Tokens -/

/-- Where the modifiers begin. -/
def classStart (parts : List Text) : Nat :=
  (textOf frontLayout).length + (textOf (separated (.sign ".") parts)).length +
    (textOf innerLayout).length

/-- Where the name of the class begins. -/
def nameStart (parts modifiers : List Text) : Nat :=
  classStart parts + (textOf (separated (.blank " ") modifiers)).length +
    (textOf classLayout).length

/-- Where the name of the namespace stands. -/
def namespaceSpan (parts : List Text) : Span :=
  ⟨(textOf frontLayout).length,
    (textOf frontLayout).length + (textOf (separated (.sign ".") parts)).length⟩

/-- Where the name of the class stands. -/
def nameSpan (parts modifiers : List Text) (name : Text) : Span :=
  ⟨nameStart parts modifiers, nameStart parts modifiers + name.length⟩

theorem placed_targetLayout (cursor : Cursor) (parts modifiers : List Text) (name : Text)
    (members : List Piece) :
    ∃ n b c o q q' inside, placed cursor (targetLayout parts modifiers name members) =
      .word n "namespace" ::
        (placed (cursor.advance (textOf frontLayout).length) (separated (.sign ".") parts) ++
        .sign b "\x7b" ::
          (placed (cursor.advance (classStart parts)) (separated (.blank " ") modifiers) ++
          .word c "class" ::
            .word ((cursor.advance (nameStart parts modifiers)).place name.length) name ::
            .sign o "\x7b" :: (placed inside members ++ [.sign q "\x7d", .sign q' "\x7d"]))) := by
  have front (cursor : Cursor) : ∃ p, placed cursor frontLayout = [.word p "namespace"] := by
    rw [frontLayout, placed_append, placed_commentLines]
    exact ⟨_, rfl⟩
  have inner (cursor : Cursor) : ∃ p, placed cursor innerLayout = [.sign p "\x7b"] := ⟨_, rfl⟩
  have word (cursor : Cursor) : ∃ p, placed cursor classLayout = [.word p "class"] := ⟨_, rfl⟩
  have opens (cursor : Cursor) : ∃ p, placed cursor openLayout = [.sign p "\x7b"] := ⟨_, rfl⟩
  have closes (cursor : Cursor) :
      ∃ p q, placed cursor closeLayout = [.sign p "\x7d", .sign q "\x7d"] :=
    ⟨_, _, rfl⟩
  simp only [targetLayout, placed_append, placed_word, Cursor.advance_advance]
  obtain ⟨n, front⟩ := front cursor
  obtain ⟨b, inner⟩ := inner (cursor.advance
    ((textOf frontLayout).length + (textOf (separated (.sign ".") parts)).length))
  obtain ⟨c, word⟩ := word (cursor.advance
    (classStart parts + (textOf (separated (.blank " ") modifiers)).length))
  obtain ⟨o, opens⟩ := opens (cursor.advance (nameStart parts modifiers + name.length))
  obtain ⟨q, q', closes⟩ := closes (cursor.advance (nameStart parts modifiers + name.length +
    (textOf openLayout).length + (textOf members).length))
  simp only [classStart, nameStart] at word opens closes ⊢
  rw [front, inner, word, opens, closes]
  exact ⟨n, b, c, o, q, q', _, rfl⟩

/-- A file is read as one class in a namespace.  Its names stand where they were written, and the
modifiers begin and end where they did. -/
theorem run_targetLayout {parts modifiers : List Text} {name : Text} {lines : List Text}
    (layout : MemberLayout lines) (identifiers : ∀ t ∈ parts, t ∉ keywords) (some : parts ≠ [])
    (words : ∀ t ∈ modifiers, t ∈ modifierWords) (some' : modifiers ≠ [])
    (notKeyword : name ∉ keywords) {cursor : Cursor} (begins : cursor.position = 0) (d stop : Nat) :
    ∃ line spans nodes later,
      (sourceText (rules (d + 7 + 1))).run
        ⟨placed cursor (targetLayout parts modifiers name layout.pieces), stop⟩ =
        .some ([.namespaceBlock (namespaceSpan parts)
          [.classDeclaration line (nameSpan parts modifiers name) spans nodes]], ⟨[], later⟩) ∧
      spans.head?.map (·.start) = .some (classStart parts) ∧
      spans.getLast?.map (·.stop) =
        .some (classStart parts + (textOf (separated (.blank " ") modifiers)).length) ∧
      ∀ node ∈ nodes, node.IsSilent := by
  have position (n : Nat) : (cursor.advance n).position = n := by
    rw [Cursor.advance, begins, Nat.zero_add]
  obtain ⟨n, b, c, o, q, q', inside, split⟩ :=
    placed_targetLayout cursor parts modifiers name layout.pieces
  have named := named_dotted some identifiers (cursor.advance (textOf frontLayout).length)
  have modifying := modifying_spaced words (cursor.advance (classStart parts))
  obtain ⟨first, last, isHead, isLast, starts, stops⟩ :=
    exists_ends_separated (.sign ".") some (cursor.advance (textOf frontLayout).length)
  obtain ⟨first', last', isHead', isLast', starts', stops'⟩ :=
    exists_ends_separated (.blank " ") some' (cursor.advance (classStart parts))
  rw [Cursor.advance_advance] at stops stops'
  rw [position] at starts starts' stops stops'
  have ends : endOf (placed (cursor.advance (textOf frontLayout).length)
      (separated (.sign ".") parts)) = last.place.stop := by
    rw [endOf, isLast]
    rfl
  cases before : placed (cursor.advance (classStart parts)) (separated (.blank " ") modifiers) with
  | nil =>
      rw [before] at isHead'
      cases isHead'
  | cons word following =>
      rw [before] at modifying isHead' isLast' split
      obtain ⟨line, nodes, silent, reads⟩ :=
        exists_run_sourceText_class named isHead modifying notKeyword
          (layout.silent d inside q [.sign q' "\x7d"] rfl) stop
      refine ⟨line, (word :: following).map Token.span, nodes, q'.stop, ?_, ?_, ?_, silent⟩
      · rw [split, reads, starts, ends, stops, Cursor.place, position]
        rfl
      · rw [List.head?_map, isHead', Option.map_some, Option.map_some, Token.span, starts']
      · rw [List.getLast?_map, isLast', Option.map_some, Option.map_some, Token.span, stops']

/-! ## Names in the text -/

section

variable {parts modifiers : List Text} {name : Text} (members : List Piece)

theorem text_namespaceSpan :
    (namespaceSpan parts).text (textOf (targetLayout parts modifiers name members)).toArray =
      Text.join "." parts := by
  rw [targetLayout, textOf_append, textOf_append, ← List.append_assoc, Span.text_append rfl rfl,
    textOf_separated]
  rfl

theorem coveringText_targetLayout {spans : List Span}
    (starts : spans.head?.map (·.start) = some (classStart parts))
    (stops : spans.getLast?.map (·.stop) =
      some (classStart parts + (textOf (separated (.blank " ") modifiers)).length)) :
    coveringText (textOf (targetLayout parts modifiers name members)).toArray spans =
      Text.join " " modifiers := by
  have front : classStart parts = (textOf
      (frontLayout ++ separated (.sign ".") parts ++ innerLayout)).length := by
    simp only [textOf_append, List.length_append, classStart]
  have split : targetLayout parts modifiers name members =
      frontLayout ++ separated (.sign ".") parts ++ innerLayout ++
        separated (.blank " ") modifiers ++
        (classLayout ++ (.word name :: (openLayout ++ (members ++ closeLayout)))) := by
    simp only [targetLayout, List.append_assoc]
  rw [front] at starts stops
  rw [split, textOf_append, textOf_append _ (separated _ _), coveringText_append starts stops,
    textOf_separated]
  rfl

theorem text_nameSpan :
    (nameSpan parts modifiers name).text
      (textOf (targetLayout parts modifiers name members)).toArray = name := by
  have front : nameStart parts modifiers = (textOf
      (frontLayout ++ separated (.sign ".") parts ++ innerLayout ++
        separated (.blank " ") modifiers ++ classLayout)).length := by
    simp only [textOf_append, List.length_append, nameStart, classStart]
  have split : targetLayout parts modifiers name members =
      frontLayout ++ separated (.sign ".") parts ++ innerLayout ++
        separated (.blank " ") modifiers ++ classLayout ++
        (.word name :: (openLayout ++ (members ++ closeLayout))) := by
    simp only [targetLayout, List.append_assoc]
  rw [nameSpan, front, split, textOf_append _ (.word name :: _), textOf_cons, ← List.append_assoc]
  exact Span.text_append rfl rfl

end

/-! ## Parsing -/

/-- A file with a member is parsed as one class in a namespace, with the names and the modifiers
that were given, and no call in the class has a literal. -/
theorem exists_parse?_wrap {parts modifiers : List Text} {name : Text} {lines : List Text}
    (layout : MemberLayout lines) (identifiers : ∀ t ∈ parts, IsIdentifier t) (some : parts ≠ [])
    (words : ∀ t ∈ modifiers, t ∈ modifierWords) (some' : modifiers ≠ [])
    (identifier : IsIdentifier name) :
    let target : Target := ⟨Text.join "." parts, name, Text.join " " modifiers⟩
    let text := target.wrap lines
    ∃ space line own spans nodes,
      parse? text = .some [.namespaceBlock space [.classDeclaration line own spans nodes]] ∧
      space.text text.toArray = target.namespace ∧ own.text text.toArray = target.typeName ∧
      coveringText text.toArray spans = target.modifiers ∧ ∀ node ∈ nodes, node.IsSilent := by
  intro target text
  have same : textOf (targetLayout parts modifiers name layout.pieces) = text :=
    textOf_targetLayout layout.same
  have tokenized := tokens_textOf (fit_targetLayout identifiers words identifier (layout.fits _))
  have nonempty : text ≠ [] := by
    rw [← same, targetLayout, textOf_append]
    exact List.cons_ne_nil _ _
  -- The rules are unrolled deeper than the text is long, hence more than seven times.
  obtain ⟨n, length⟩ := Nat.exists_eq_succ_of_ne_zero (mt List.length_eq_zero_iff.mp nonempty)
  have depth : 8 * text.length + 8 = 8 * n + 8 + 7 + 1 := by omega
  have begins : ({ rest := text } : Cursor).position = 0 := rfl
  obtain ⟨line, spans, nodes, later, runs, starts, stops, silent⟩ :=
    run_targetLayout layout (fun t mem => (identifiers t mem).2) some words some' identifier.2
      begins (8 * n + 8) 0
  have parsed : parse? text = .some [.namespaceBlock (namespaceSpan parts)
      [.classDeclaration line (nameSpan parts modifiers name) spans nodes]] := by
    rw [parse?, ← same, tokenized, same, depth, Option.bind_eq_bind, Option.bind_some, runs]
    rfl
  refine ⟨_, line, _, spans, nodes, parsed, ?_, ?_, ?_, silent⟩
  · rw [← same]
    exact text_namespaceSpan layout.pieces
  · rw [← same]
    exact text_nameSpan layout.pieces
  · rw [← same]
    exact coveringText_targetLayout layout.pieces starts stops

end ClassHarvest.Emission
