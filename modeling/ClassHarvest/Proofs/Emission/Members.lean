import ClassHarvest.Proofs.CSharp.Pieces
import ClassHarvest.Proofs.CSharp.Silence
import ClassHarvest.Proofs.Emission.Texts

/-!
# The members of generated classes

The lines of an accessor and those of a combiner are laid out in pieces that fit, whatever the class
names are.  Each is read as one member of a class, and no call in it has a literal among its
arguments.
-/

namespace ClassHarvest.Emission

open CSharp Grammar

/-! ## Lines -/

/-- A line of pieces behind some spaces, with its end. -/
def lineOf (width : Nat) (pieces : List Piece) : List Piece :=
  .blank (List.replicate width (' ' : CodePoint)) ::
    (pieces ++ [.blank [('\n' : CodePoint)]])

section

variable {width : Nat} {rest : Text} {pieces : List Piece}

theorem textOf_lineOf (width : Nat) (pieces : List Piece) :
    textOf (lineOf width pieces) = unlines [indented width (textOf pieces)] := by
  simp [lineOf, unlines, indented, Piece.text]

theorem fits_spaces (width : Nat) :
    Piece.Fits rest (.blank (List.replicate width (' ' : CodePoint))) := by
  rw [Piece.fits_blank]
  intro c mem
  rw [List.eq_of_mem_replicate mem]
  rfl

theorem fits_lineFeed : Piece.Fits rest (.blank [('\n' : CodePoint)]) :=
  Piece.fits_blank.mpr (by decide)

theorem fit_lineOf (fit : Fit (('\n' : CodePoint) :: rest) pieces) :
    Fit rest (lineOf width pieces) :=
  ⟨fits_spaces width, fit_append.mpr ⟨fit, fits_lineFeed, trivial⟩⟩

theorem fit_fixedLine (plain : fitPlainly [('\n' : CodePoint)] pieces = true) :
    Fit rest (lineOf width pieces) :=
  fit_lineOf (fit_of_plainly plain)

theorem placed_lineOf (width : Nat) (pieces : List Piece) (cursor : Cursor) :
    placed cursor (lineOf width pieces) = placed (cursor.advance width) pieces := by
  rw [lineOf, placed_blank, List.length_replicate, placed_append, placed_blank, placed_nil,
    List.append_nil]

end

/-! ## Comments -/

/-- A comment up to the end of its line. -/
def IsComment (t : Text) : Prop :=
  Text.ofString "//" <+: t ∧ Joined t

instance (t : Text) : Decidable (IsComment t) :=
  inferInstanceAs (Decidable (_ ∧ _))

/-- Lines of comments. -/
def commentLines (width : Nat) (comments : List Text) : List Piece :=
  comments.flatMap fun comment => lineOf width [.comment comment]

theorem commentLines_cons (width : Nat) (comment : Text) (comments : List Text) :
    commentLines width (comment :: comments) =
      lineOf width [.comment comment] ++ commentLines width comments :=
  rfl

theorem textOf_commentLines (width : Nat) (comments : List Text) :
    textOf (commentLines width comments) = unlines (comments.map (indented width)) := by
  induction comments with
  | nil => rfl
  | cons comment comments ih =>
      rw [commentLines_cons, textOf_append, textOf_lineOf, ih, List.map_cons, unlines_cons]
      simp [unlines, Piece.text]

theorem endsLine_of_joined {t : Text} (joined : Joined t) : ∀ c ∈ t, endsLine c = false := by
  intro c mem
  have inside := joined c mem
  simp only [Text.isLineEnd, Bool.or_eq_false_iff, Bool.and_eq_false_iff,
    decide_eq_false_iff_not] at inside
  simp only [endsLine, Bool.or_eq_false_iff, beq_eq_false_iff_ne]
  omega

theorem fit_commentLines {width : Nat} {rest : Text} {comments : List Text}
    (are : ∀ t ∈ comments, IsComment t) : Fit rest (commentLines width comments) := by
  induction comments with
  | nil => trivial
  | cons comment comments ih =>
      obtain ⟨slashes, joined⟩ := are comment List.mem_cons_self
      rw [commentLines_cons, fit_append]
      exact ⟨fit_lineOf ⟨⟨slashes, endsLine_of_joined joined, rfl⟩, trivial⟩,
        ih fun t mem => are t (List.mem_cons_of_mem _ mem)⟩

/-- Comments have no tokens. -/
theorem placed_commentLines (width : Nat) (comments : List Text) (cursor : Cursor) :
    placed cursor (commentLines width comments) = [] := by
  induction comments generalizing cursor with
  | nil => rfl
  | cons comment comments ih =>
      rw [commentLines_cons, placed_append, placed_lineOf, ih]
      rfl

theorem isComment_header : ∀ t ∈ header, IsComment t := by
  decide

theorem isComment_documentation {tag : Text} {lines : List Text} (named : Joined tag)
    (all : ∀ line ∈ lines, Joined line) : ∀ t ∈ documentation tag lines, IsComment t := by
  have comment {start t : Text} (isComment : IsComment start) (joined : Joined t) :
      IsComment (start ++ t) :=
    ⟨isComment.1.trans (List.prefix_append _ _), isComment.2.append joined⟩
  unfold documentation
  simp only [List.forall_mem_append, List.forall_mem_cons, List.forall_mem_map]
  refine ⟨⟨?_, fun line mem => comment (by decide) (all line mem)⟩, ?_, List.forall_mem_nil _⟩
  · rw [List.append_assoc]
    exact comment (by decide) (named.append (by decide))
  · rw [List.append_assoc]
    exact comment (by decide) (named.append (by decide))

theorem isComment_comments {accessor : Accessor} (summary : Joined accessor.summary)
    (remarks : ∀ remark ∈ accessor.remarks, Joined remark) :
    ∀ t ∈ accessor.comments, IsComment t := by
  unfold Accessor.comments
  rw [List.forall_mem_append]
  constructor
  · split
    · exact List.forall_mem_nil _
    · exact isComment_documentation (by decide) (by simpa using summary)
  · split
    · exact List.forall_mem_nil _
    · refine isComment_documentation (by decide) ?_
      rw [List.forall_mem_map]
      exact fun remark mem => (remarks remark mem).markupEscaped.append (by decide)

/-! ## Methods -/

/-- The head of a method without parameters. -/
def methodHead (visibility name : Text) : List Piece := [
  .word visibility, .blank " ", .word "static", .blank " ", .word "string", .sign "[", .sign "]",
  .blank " ", .word name, .sign "(", .sign ")"]

theorem isWordText_of_mem_modifierWords : ∀ t ∈ modifierWords, isWordText t = true := by
  have plain : ∀ t ∈ modifierWords, isPlainWord t = true := by decide +kernel
  exact fun t mem => isWordText_of_plain (plain t mem)

theorem fits_space {rest : Text} : Piece.Fits rest (.blank " ") :=
  Piece.fits_blank.mpr (by decide)

theorem fit_methodHead {visibility name rest : Text} (visible : visibility ∈ modifierWords)
    (named : isWordText name = true) (ends : endsSign rest = true) :
    Fit rest (methodHead visibility name) :=
  ⟨⟨isWordText_of_mem_modifierWords visibility visible, rfl⟩, fits_space,
    ⟨isWordText_of_plain (by decide), rfl⟩, fits_space, ⟨isWordText_of_plain (by decide), rfl⟩,
    ⟨by decide, rfl⟩,
    ⟨by decide, rfl⟩, fits_space, ⟨named, rfl⟩, ⟨by decide, rfl⟩, ⟨by decide, ends⟩, trivial⟩

/-- A method is read as one member, in front of the end of its class. -/
theorem silently_method {visibility name : Text} (visible : visibility ∈ modifierWords)
    (notKeyword : name ∉ keywords) {cursor : Cursor} {d : Nat} {tokens rest : List Token}
    {ending : String} {b q : Place} (noUsing : rest.head?.any (Token.isWord "using") = false)
    (reads : ∀ stop, ∃ nodes after, (∀ node ∈ nodes, node.IsSilent) ∧
      (body (rules (d + 1))).run ⟨.sign b ending :: tokens, stop⟩ =
        some (nodes, ⟨.sign q "\x7d" :: rest, after⟩))
    (shorter : rest.length ≤ tokens.length) :
    Silently (rules (d + 2) .declaration)
      (placed cursor (methodHead visibility name) ++ .sign b ending :: tokens)
      (.sign q "\x7d" :: rest) := by
  have are (p p' : Place) : Modifying [.word p visibility, .word p' "static"] := by
    have static : ("static" : Text) ∈ modifierWords := by decide
    intro word mem
    simp only [List.mem_cons, List.not_mem_nil, or_false] at mem
    rcases mem with rfl | rfl
    · simpa using visible
    · simpa using static
  simp only [methodHead, placed_word, placed_sign, placed_blank, placed_nil, List.cons_append,
    List.nil_append]
  refine .more (fun stop => ?_) ?_ (.stop fun stop => run_declaration_closing noUsing)
  · obtain ⟨nodes, after, silent, runs⟩ := reads _
    obtain ⟨read, same, declares⟩ := exists_run_method (are _ _) notKeyword runs
    exact ⟨read, after, same ▸ silent, declares⟩
  · simp only [List.length_cons]
    omega

/-! ## Accessors -/

/-- The expression for an array without elements. -/
def emptyArray : List Piece := [
  .word "System", .sign ".", .word "Array", .sign ".", .word "Empty", .sign "<", .word "string",
  .sign ">", .sign "(", .sign ")"]

theorem exists_run_emptyArray (cursor : Cursor) (d stop : Nat) (p : Place) (rest : List Token) :
    ∃ read after line callee, read.nodes = [.invocation line callee [] []] ∧
      (rules (d + 3) (.expression 0 true)).run
        ⟨placed cursor emptyArray ++ .sign p ";" :: rest, stop⟩ =
        some (read, ⟨.sign p ";" :: rest, after⟩) := by
  have named (p p' p'' q q' q'' o c : Place) : Named [.word p "System", .sign q ".",
      .word p' "Array", .sign q' ".", .word p'' "Empty", .sign o "<", .word q'' "string",
      .sign c ">"] :=
    .dot (by decide) (.dot (by decide) (.generic (by decide)))
  have closes : ";" ∈ closers := by decide
  simp only [emptyArray, placed_word, placed_sign, placed_nil, List.cons_append, List.nil_append]
  obtain ⟨read, line, callee, nodes, _, reads⟩ :=
    exists_run_expression_call (named _ _ _ _ _ _ _ _) rfl closes rfl run_arguments_nil
      (Nat.lt_succ_of_lt (Nat.lt_succ_self _)) stop
  exact ⟨read, _, line, callee, nodes, reads⟩

/-- Literals in lines of their own, with a comma behind each but the last. -/
def literalLayout : List Text → List Piece
  | [] => []
  | [last] => lineOf 12 [.literal (Literal.encode last)]
  | first :: rest =>
    lineOf 12 [.literal (Literal.encode first), .sign ","] ++ literalLayout rest

theorem literals_placed {classes : List Text} (nonempty : classes ≠ []) (cursor : Cursor) :
    Literals (placed cursor (literalLayout classes)) := by
  induction classes using literalLayout.induct generalizing cursor with
  | case1 => exact absurd rfl nonempty
  | case2 last => exact .last
  | case3 first rest further ih =>
      have nonempty : rest ≠ [] := by
        rintro rfl
        exact further rfl
      rw [literalLayout.eq_3 _ _ further, placed_append, placed_lineOf]
      exact .more (ih nonempty _)

theorem textOf_literalLayout (classes : List Text) :
    textOf (literalLayout classes) = unlines ((literalLines classes).map (indented 12)) := by
  induction classes using literalLayout.induct with
  | case1 => rfl
  | case2 last => simp [literalLayout, literalLines, textOf_lineOf, Piece.text]
  | case3 first rest further ih =>
      rw [literalLayout.eq_3 _ _ further, literalLines.eq_3 _ _ further, textOf_append, ih,
        textOf_lineOf, List.map_cons, unlines_cons]
      simp [unlines, Piece.text]
      rfl

theorem fit_literalLayout {rest : Text} (classes : List Text) :
    Fit rest (literalLayout classes) := by
  induction classes using literalLayout.induct with
  | case1 => trivial
  | case2 last => exact fit_lineOf ⟨⟨Literal.isRegular_encode last, rfl⟩, trivial⟩
  | case3 first rest further ih =>
      rw [literalLayout.eq_3 _ _ further, fit_append]
      exact ⟨fit_lineOf ⟨⟨Literal.isRegular_encode first, rfl⟩, ⟨by decide, rfl⟩, trivial⟩, ih⟩

/-- What stands between the head of an accessor and its value. -/
def arrow : List Piece := [.blank " ", .sign "=>", .blank " "]

/-- The beginning of an array, up to its elements. -/
def arrayStart : List Piece := [
  .word "new", .blank " ", .word "string", .sign "[", .sign "]", .blank " ", .sign "\x7b"]

/-- The lines of an accessor. -/
def accessorLayout (visibility name : Text) (classes : List Text) : List Piece :=
  if classes.isEmpty then
    lineOf 8 (methodHead visibility name ++ (arrow ++ emptyArray ++ [.sign ";"]))
  else
    lineOf 8 (methodHead visibility name ++ (arrow ++ arrayStart)) ++ literalLayout classes ++
      lineOf 8 [.sign "\x7d", .sign ";"]

theorem textOf_accessorLayout (accessor : Accessor) :
    textOf (accessorLayout accessor.visibility accessor.name accessor.literals) =
      unlines accessor.valueLines := by
  have head : textOf (methodHead accessor.visibility accessor.name) ++ textOf arrow =
      accessor.head := by
    simp [methodHead, arrow, Piece.text, Accessor.head]
    rfl
  have empty : textOf emptyArray ++ textOf [.sign ";"] =
      Text.ofString "System.Array.Empty<string>();" := rfl
  have start : textOf arrayStart = Text.ofString "new string[] \x7b" := rfl
  unfold accessorLayout Accessor.valueLines
  split
  · rw [textOf_lineOf, textOf_append, textOf_append, textOf_append, List.append_assoc, empty,
      ← List.append_assoc, head]
  · rw [textOf_append, textOf_append, textOf_lineOf, textOf_lineOf, textOf_literalLayout,
      textOf_append, textOf_append, start, ← List.append_assoc, head]
    simp [unlines]
    rfl

theorem fit_accessorLayout {visibility name rest : Text} (visible : visibility ∈ modifierWords)
    (named : isWordText name = true) (classes : List Text) :
    Fit rest (accessorLayout visibility name classes) := by
  unfold accessorLayout
  split
  · exact fit_lineOf (fit_append.mpr
      ⟨fit_methodHead visible named rfl, fit_of_plainly (by decide +kernel)⟩)
  · rw [fit_append, fit_append]
    exact ⟨⟨fit_lineOf (fit_append.mpr
      ⟨fit_methodHead visible named rfl, fit_of_plainly (by decide +kernel)⟩),
      fit_literalLayout classes⟩, fit_fixedLine (by decide)⟩

theorem silently_accessor {visibility name : Text} (visible : visibility ∈ modifierWords)
    (notKeyword : name ∉ keywords) (classes : List Text) {cursor : Cursor} {d : Nat}
    {rest : List Token} {q : Place} (noUsing : rest.head?.any (Token.isWord "using") = false) :
    Silently (rules (d + 5) .declaration)
      (placed cursor (accessorLayout visibility name classes) ++ .sign q "\x7d" :: rest)
      (.sign q "\x7d" :: rest) := by
  have closes : ";" ∈ closers := by decide
  unfold accessorLayout
  split
  · simp only [placed_lineOf, arrow, placed_append, List.append_assoc, placed_sign, placed_blank,
      placed_nil, List.cons_append, List.nil_append]
    refine silently_method visible notKeyword noUsing (fun stop => ?_) ?_
    · obtain ⟨read, after, line, callee, nodes, reads⟩ := exists_run_emptyArray _ (d + 1) _ _ _
      refine ⟨_, _, ?_, run_body_arrow reads⟩
      rw [nodes]
      exact Node.isSilent_singleton (List.forall_mem_nil _) (List.forall_mem_nil _)
    · simp only [List.length_append, List.length_cons]
      omega
  · next some =>
    have literals (cursor : Cursor) : Literals (placed cursor (literalLayout classes)) :=
      literals_placed (by simpa using some) cursor
    simp only [placed_lineOf, arrow, arrayStart, placed_append, List.append_assoc, placed_word,
      placed_sign, placed_blank, placed_nil, List.cons_append, List.nil_append]
    refine silently_method visible notKeyword noUsing (fun stop => ?_) ?_
    · exact ⟨_, _, List.forall_mem_nil _,
        run_body_arrow (run_expression_array (literals _) closes)⟩
    · simp only [List.length_append, List.length_cons]
      omega

/-! ## Combiners -/

/-- The statement that makes a set. -/
def variableLayout : List Piece := lineOf 12 [
  .word "var", .blank " ", .word "output", .blank " ", .sign "=", .blank " ", .word "new",
  .blank " ", .word "System", .sign ".", .word "Collections", .sign ".", .word "Generic",
  .sign ".", .word "HashSet", .sign "<", .word "string", .sign ">", .sign "(", .word "System",
  .sign ".", .word "StringComparer", .sign ".", .word "Ordinal", .sign ")", .sign ";"]

/-- The statement that adds what a method gives. -/
def sourceLayout (source : Text) : List Piece := lineOf 12 [
  .word "output", .sign ".", .word "UnionWith", .sign "(", .word source, .sign "(", .sign ")",
  .sign ")", .sign ";"]

/-- The statement that gives the set as an array. -/
def returnLayout : List Piece := lineOf 12 [
  .word "return", .blank " ", .word "System", .sign ".", .word "Linq", .sign ".",
  .word "Enumerable", .sign ".", .word "ToArray", .sign "(", .word "output", .sign ")", .sign ";"]

/-- The lines of a combiner. -/
def combinerLayout (combiner : Combiner) : List Piece :=
  commentLines 8 (documentation "summary" [combinedSummary]) ++
    (lineOf 8 (methodHead "public" combiner.name) ++ (lineOf 8 [.sign "\x7b"] ++
      (variableLayout ++ (combiner.sources.flatMap sourceLayout ++ (returnLayout ++
        lineOf 8 [.sign "\x7d"])))))

theorem textOf_sourceLayouts (sources : List Text) :
    textOf (sources.flatMap sourceLayout) =
      unlines (sources.map fun source =>
        indented 12 ("output.UnionWith(" ++ source ++ "());")) := by
  induction sources with
  | nil => rfl
  | cons source sources ih =>
      rw [List.flatMap_cons, textOf_append, ih, sourceLayout, textOf_lineOf, List.map_cons,
        unlines_cons]
      simp [unlines, indented, Piece.text]
      rfl

theorem textOf_combinerLayout (combiner : Combiner) :
    textOf (combinerLayout combiner) = unlines combiner.lines := by
  have head : textOf (methodHead "public" combiner.name) =
      Text.ofString "public static string[] " ++ combiner.name ++ "()" := by
    simp [methodHead, Piece.text]
    rfl
  have start : textOf variableLayout = unlines [indented 12
      ("var output = new System.Collections.Generic.HashSet<string>" ++
        Text.ofString "(System.StringComparer.Ordinal);")] := rfl
  have last : textOf returnLayout =
      unlines [indented 12 "return System.Linq.Enumerable.ToArray(output);"] := rfl
  simp only [combinerLayout, textOf_append, textOf_commentLines, textOf_lineOf,
    textOf_sourceLayouts, head, start, last, Combiner.lines]
  simp [unlines, Piece.text]

theorem fit_sourceLayouts {sources : List Text} {rest : Text}
    (named : ∀ source ∈ sources, isWordText source = true) :
    Fit rest (sources.flatMap sourceLayout) := by
  induction sources with
  | nil => trivial
  | cons source sources ih =>
      have word := named source List.mem_cons_self
      have ends (t : Text) : endsSign (source ++ t) = true := endsSign_append word
      rw [List.flatMap_cons, fit_append]
      refine ⟨fit_lineOf ⟨⟨isWordText_of_plain (by decide), rfl⟩, ⟨by decide, rfl⟩,
        ⟨isWordText_of_plain (by decide), rfl⟩, ⟨by decide, ?_⟩, ⟨word, rfl⟩,
        fit_of_plainly (by decide)⟩,
        ih fun s mem => named s (List.mem_cons_of_mem source mem)⟩
      rw [textOf_cons, List.append_assoc]
      exact ends _

theorem fit_combinerLayout {combiner : Combiner} {rest : Text}
    (named : isWordText combiner.name = true)
    (sources : ∀ source ∈ combiner.sources, isWordText source = true) :
    Fit rest (combinerLayout combiner) := by
  have comments : ∀ t ∈ documentation "summary" [combinedSummary], IsComment t := by decide
  simp only [combinerLayout, fit_append]
  exact ⟨fit_commentLines comments, fit_lineOf (fit_methodHead (by decide) named rfl),
    fit_fixedLine (by decide), fit_fixedLine (by decide +kernel), fit_sourceLayouts sources,
    fit_fixedLine (by decide +kernel), fit_fixedLine (by decide)⟩

/-! ## Reading combiners -/

section

variable {d : Nat} {tokens rest : List Token}

theorem silently_variable (behind : Silently (rules (d + 5) .statement) tokens rest)
    (cursor : Cursor) :
    Silently (rules (d + 5) .statement) (placed cursor variableLayout ++ tokens) rest := by
  have created (p₁ p₂ p₃ p₄ p₅ q₁ q₂ q₃ q₄ q₅ : Place) : Named [.word p₁ "System", .sign q₁ ".",
      .word p₂ "Collections", .sign q₂ ".", .word p₃ "Generic", .sign q₃ ".", .word p₄ "HashSet",
      .sign q₄ "<", .word p₅ "string", .sign q₅ ">"] :=
    .dot (by decide) (.dot (by decide) (.dot (by decide) (.generic (by decide))))
  have comparer (p₁ p₂ p₃ q₁ q₂ : Place) : Named [.word p₁ "System", .sign q₁ ".",
      .word p₂ "StringComparer", .sign q₂ ".", .word p₃ "Ordinal"] :=
    .dot (by decide) (.dot (by decide) (.name (by decide)))
  have notKeyword : ("output" : Text) ∉ keywords := by decide
  rw [variableLayout, placed_lineOf]
  simp only [placed_word, placed_sign, placed_blank, placed_nil, List.cons_append, List.nil_append]
  refine .more (fun stop => ?_) (by simp only [List.length_cons]; omega) behind
  obtain ⟨read, nodes, reads⟩ := exists_run_statement_object (created _ _ _ _ _ _ _ _ _ _) rfl
    (comparer _ _ _ _ _) rfl d stop tokens notKeyword
  exact ⟨read, _, nodes ▸ List.forall_mem_nil _, reads⟩

theorem silently_sources {sources : List Text}
    (named : ∀ source ∈ sources, source ∉ keywords ∧ source ∉ startWords)
    (behind : Silently (rules (d + 5) .statement) tokens rest) (cursor : Cursor) :
    Silently (rules (d + 5) .statement)
      (placed cursor (sources.flatMap sourceLayout) ++ tokens) rest := by
  have method (p₁ p₂ q : Place) :
      Named [.word p₁ "output", .sign q ".", .word p₂ "UnionWith"] :=
    .dot (by decide) (.name (by decide))
  induction sources generalizing cursor with
  | nil => exact behind
  | cons source sources ih =>
      obtain ⟨notKeyword, notStart⟩ := named source List.mem_cons_self
      have plain (p : Place) : PlainStart [.word p source] := by simpa [PlainStart] using notStart
      rw [List.flatMap_cons, placed_append, List.append_assoc]
      have further := ih (fun s mem => named s (List.mem_cons_of_mem _ mem))
        (cursor.advance (textOf (sourceLayout source)).length)
      rw [sourceLayout, placed_lineOf] at *
      simp only [placed_word, placed_sign, placed_nil, List.cons_append, List.nil_append]
      refine .more (fun stop => ?_) (by simp only [List.length_cons]; omega) further
      obtain ⟨read, silent, reads⟩ := exists_run_statement_call (method _ _ _) rfl
        (.name notKeyword) (plain _) d stop _ rfl
      exact ⟨read, _, silent, reads⟩

theorem silently_return (behind : Silently (rules (d + 5) .statement) tokens rest)
    (cursor : Cursor) :
    Silently (rules (d + 5) .statement) (placed cursor returnLayout ++ tokens) rest := by
  have method (p₁ p₂ p₃ p₄ q₁ q₂ q₃ : Place) : Named [.word p₁ "System", .sign q₁ ".",
      .word p₂ "Linq", .sign q₂ ".", .word p₃ "Enumerable", .sign q₃ ".", .word p₄ "ToArray"] :=
    .dot (by decide) (.dot (by decide) (.dot (by decide) (.name (by decide))))
  have output (p : Place) : Named [.word p "output"] := .name (by decide)
  rw [returnLayout, placed_lineOf]
  simp only [placed_word, placed_sign, placed_blank, placed_nil, List.cons_append, List.nil_append]
  refine .more (fun stop => ?_) (by simp only [List.length_cons]; omega) behind
  obtain ⟨read, silent, reads⟩ := exists_run_statement_return (method _ _ _ _ _ _ _) rfl
    (output _) rfl d stop tokens rfl
  exact ⟨read, _, silent, reads⟩

/-- A block is read as a body, with the nodes of its statements. -/
theorem reads_block {b q : Place}
    (statements : Silently (rules d .statement) tokens (.sign q "\x7d" :: rest)) (stop : Nat) :
    ∃ nodes after, (∀ node ∈ nodes, node.IsSilent) ∧
      (body (rules (d + 1))).run ⟨.sign b "\x7b" :: tokens, stop⟩ =
        some (nodes, ⟨rest, after⟩) := by
  obtain ⟨phrases, after, silent, repeats⟩ := statements b.stop
  exact ⟨_, _, silent, run_body_block (run_block repeats)⟩

theorem silently_combiner {combiner : Combiner} (notKeyword : combiner.name ∉ keywords)
    (sources : ∀ source ∈ combiner.sources, source ∉ keywords ∧ source ∉ startWords)
    {cursor : Cursor} {q : Place} (noUsing : rest.head?.any (Token.isWord "using") = false) :
    Silently (rules (d + 7) .declaration)
      (placed cursor (combinerLayout combiner) ++ .sign q "\x7d" :: rest)
      (.sign q "\x7d" :: rest) := by
  simp only [combinerLayout, placed_lineOf, placed_commentLines, placed_append, List.append_assoc,
    placed_sign, placed_nil, List.cons_append, List.nil_append]
  refine silently_method (by decide) notKeyword noUsing (reads_block
    (silently_variable (silently_sources sources
      (silently_return (.stop fun stop => run_statement_closing) _) _) _)) ?_
  simp only [List.length_append, List.length_cons]
  omega

end

/-! ## Layouts -/

/-- A layout for the lines of a member of a class, in which no call has a literal. -/
structure MemberLayout (lines : List Text) where
  /-- The pieces of which it consists. -/
  pieces : List Piece
  same : textOf pieces = unlines lines
  fits : ∀ rest, Fit rest pieces
  silent : ∀ d cursor q rest, rest.head?.any (Token.isWord "using") = false →
    Silently (rules (d + 7) .declaration) (placed cursor pieces ++ .sign q "\x7d" :: rest)
      (.sign q "\x7d" :: rest)

/-- The layout of an accessor with its comments. -/
def Accessor.layout (accessor : Accessor) (visible : accessor.visibility ∈ modifierWords)
    (named : IsIdentifier accessor.name) (comments : ∀ t ∈ accessor.comments, IsComment t) :
    MemberLayout (accessor.comments.map (indented 8) ++ accessor.valueLines) where
  pieces := commentLines 8 accessor.comments ++
    accessorLayout accessor.visibility accessor.name accessor.literals
  same := by
    rw [textOf_append, textOf_commentLines, textOf_accessorLayout]
    exact List.flatMap_append.symm
  fits _ := fit_append.mpr ⟨fit_commentLines comments, fit_accessorLayout visible named.1 _⟩
  silent _ _ _ _ noUsing := by
    rw [placed_append, placed_commentLines, List.nil_append]
    exact silently_accessor visible named.2 _ noUsing

/-- The layout of a combiner.  The names of the methods that it calls begin no statement of another
kind. -/
def Combiner.layout (combiner : Combiner) (named : IsIdentifier combiner.name)
    (sources : ∀ source ∈ combiner.sources, IsIdentifier source ∧ source ∉ startWords) :
    MemberLayout combiner.lines where
  pieces := combinerLayout combiner
  same := textOf_combinerLayout combiner
  fits _ := fit_combinerLayout named.1 fun source mem => (sources source mem).1.1
  silent _ _ _ _ noUsing :=
    silently_combiner named.2
      (fun source mem => ⟨(sources source mem).1.2, (sources source mem).2⟩) noUsing

end ClassHarvest.Emission
