import ClassHarvest.Proofs.CSharp.Setting
import ClassHarvest.Proofs.Files.Names

/-!
# Verbatim and raw literals

In a verbatim literal a quote is doubled, and in a raw literal nothing is escaped: it denotes what
stands between its quotes, or over several lines the lines between the first and the last, from which
the indentation of the last line is cut.  A text that is written as such a literal is what the literal
denotes.
-/

namespace ClassHarvest.CSharp.Literal

/-! ## Verbatim literals -/

/-- A text with every quote doubled. -/
def doubled (t : Text) : Text :=
  t.flatMap fun c => if c = ('"' : CodePoint) then [c, c] else [c]

/-- A text as a verbatim literal. -/
def verbatim (t : Text) : Text :=
  ('@' : CodePoint) :: enquote (doubled t)

theorem undouble_cons {c : CodePoint} (noQuote : c ≠ ('"' : CodePoint)) (t : Text) :
    undouble (c :: t) = c :: undouble t := by
  have other : c.val ≠ 34 := fun same => noQuote (CodePoint.val_inj same)
  cases t with
  | nil => rfl
  | cons d t =>
      rw [undouble]
      simp [other]

theorem undouble_doubled (t : Text) : undouble (doubled t) = t := by
  induction t with
  | nil => rfl
  | cons c t ih =>
      rw [doubled, List.flatMap_cons]
      by_cases quote : c = ('"' : CodePoint)
      · subst quote
        exact congrArg _ ih
      · rw [if_neg quote, List.singleton_append, undouble_cons quote]
        exact congrArg _ ih

/-! ## What stands between the quotes of a raw literal -/

/-- As many quotes. -/
def quotes (n : Nat) : Text :=
  List.replicate n ('"' : CodePoint)

variable {n : Nat} {c : CodePoint} {body rest t indent line : Text}

theorem decodeRaw_quotes (three : 3 ≤ n) (noQuote : c ≠ ('"' : CodePoint)) :
    decodeRaw (quotes n ++ (c :: rest ++ quotes n)) = some (dedent (c :: rest)) := by
  have other : c.val ≠ 34 := fun same => noQuote (CodePoint.val_inj same)
  have opening : (quotes n ++ (c :: rest ++ quotes n)).takeWhile (·.val == 34) = quotes n := by
    have all : ∀ d ∈ quotes n, (d.val == 34) = true := by
      intro d mem
      rw [(List.mem_replicate.mp mem).2]
      rfl
    rw [List.takeWhile_append_of_pos all, List.cons_append,
      List.takeWhile_cons_of_neg (by simpa using other), List.append_nil]
  have length : (quotes n).length = n := List.length_replicate
  have closing : (List.replicate n ('"' : CodePoint)).isSuffixOf
      (quotes n ++ (c :: rest ++ quotes n)) = true := by
    rw [List.isSuffixOf_iff_suffix, ← List.append_assoc]
    exact List.suffix_append _ _
  have long : (quotes n ++ (c :: rest ++ quotes n)).length = 2 * n + (c :: rest).length := by
    rw [List.length_append, List.length_append, length]
    omega
  have inside : ((quotes n ++ (c :: rest ++ quotes n)).drop n).take
      (2 * n + (c :: rest).length - 2 * n) = c :: rest := by
    rw [List.drop_left' length, Nat.add_sub_cancel_left, List.take_left]
  simp only [decodeRaw, opening, length, closing, long, inside]
  rw [if_neg]
  simp
  omega

/-- Between three or more quotes stands what is freed from its indentation, unless it begins with
another quote. -/
theorem decode_quotes (setting : Setting) (three : 3 ≤ n) (noQuote : c ≠ ('"' : CodePoint)) :
    decode (setting.around (quotes n ++ (c :: rest ++ quotes n))) =
      .ok (some (dedent (c :: rest))) := by
  obtain ⟨m, rfl⟩ := Nat.exists_eq_add_of_le three
  have last : quotes (3 + m) = quotes (2 + m) ++ [('"' : CodePoint)] := by
    rw [quotes, quotes, ← List.replicate_succ']
    congr 1
    omega
  have raw : threeQuotes <+: quotes (3 + m) ++ (c :: rest ++ quotes (3 + m)) := by
    rw [quotes, List.replicate_add, List.append_assoc]
    exact List.prefix_append _ _
  have closed : IsClosed (quotes (3 + m) ++ (c :: rest ++ quotes (3 + m))) := by
    constructor
    · obtain ⟨behind, same⟩ := raw
      rw [← same]
      rfl
    · rw [last, ← List.append_assoc, ← List.append_assoc, List.getLast?_concat]
  rw [decode_raw setting closed raw, decodeRaw_quotes three noQuote]

/-- A text on one line has no indentation. -/
theorem dedent_of_not_mem (joins : ('\n' : CodePoint) ∉ body) : dedent body = body := by
  have none : body.any (·.val == 10) = false := by
    rw [List.any_eq_false]
    intro c mem isFeed
    have same : c.val = 10 := by simpa using isFeed
    have feed : c = ('\n' : CodePoint) := CodePoint.val_inj same
    exact joins (feed ▸ mem)
  rw [dedent, none]
  rfl

/-! ## Lines -/

/-- What ends a line of source text. -/
inductive LineEnd where
  /-- A line feed. -/
  | feed
  /-- A carriage return and a line feed. -/
  | returnFeed

/-- The characters of a line end. -/
def LineEnd.text : LineEnd → Text
  | .feed => "\n"
  | .returnFeed => "\r\n"

/-- A text that can stand on a line: no line feed is in it, and no carriage return at its end would be
taken for a part of the line end. -/
structure IsLine (t : Text) : Prop where
  joins : ('\n' : CodePoint) ∉ t
  noReturn : t.getLast? ≠ some ('\r' : CodePoint)

theorem isLine_of_spaces (spaces : ∀ c ∈ t, c = (' ' : CodePoint) ∨ c = ('\t' : CodePoint)) :
    IsLine t := by
  have feed : ('\n' : CodePoint) ≠ ' ' ∧ ('\n' : CodePoint) ≠ '\t' := by decide
  have carriage : ('\r' : CodePoint) ≠ ' ' ∧ ('\r' : CodePoint) ≠ '\t' := by decide
  constructor
  · intro mem
    rcases spaces _ mem with same | same
    · exact feed.1 same
    · exact feed.2 same
  · intro last
    rcases spaces _ (List.mem_of_getLast? last) with same | same
    · exact carriage.1 same
    · exact carriage.2 same

theorem IsLine.append {s : Text} (first : IsLine s) (second : IsLine t) : IsLine (s ++ t) := by
  constructor
  · rw [List.mem_append, not_or]
    exact ⟨first.joins, second.joins⟩
  · rw [List.getLast?_append]
    cases last : t.getLast? with
    | none => exact first.noReturn
    | some c =>
        rw [Option.some_or, ← last]
        exact second.noReturn

/-- A line with its end. -/
def lineText (line : Text × LineEnd) : Text :=
  line.1 ++ line.2.text

theorem trimEnd_eq_self {p : CodePoint → Bool} (last : t.getLast?.any p = false) :
    t.trimEnd p = t := by
  rcases List.eq_nil_or_concat' t with rfl | ⟨init, c, rfl⟩
  · rfl
  · rw [List.getLast?_concat, Option.any_some] at last
    rw [Text.trimEnd, List.reverse_append, List.reverse_singleton, List.singleton_append,
      List.dropWhile_cons_of_neg (by simp [last])]
    simp

theorem trimEnd_concat {p : CodePoint → Bool} (fits : p c = true) :
    Text.trimEnd (t ++ [c]) p = t.trimEnd p := by
  rw [Text.trimEnd, List.reverse_append, List.reverse_singleton, List.singleton_append,
    List.dropWhile_cons_of_pos fits, Text.trimEnd]

theorem IsLine.trimEnd_eq (isLine : IsLine t) : t.trimEnd (·.val == 13) = t := by
  apply trimEnd_eq_self
  rw [Option.any_eq_false]
  intro c last
  rw [beq_eq_false_iff_ne]
  intro same
  have isReturn : c = ('\r' : CodePoint) := CodePoint.val_inj same
  exact isLine.noReturn (isReturn ▸ last)

/-- Lines are read back from their text, with what follows them as the last line. -/
theorem splitOn_lineText {lines : List (Text × LineEnd)} (are : ∀ line ∈ lines, IsLine line.1)
    (last : IsLine t) :
    (Text.splitOn '\n' (lines.flatMap lineText ++ t)).map (Text.trimEnd · (·.val == 13)) =
      lines.map (·.1) ++ [t] := by
  induction lines with
  | nil =>
      rw [List.flatMap_nil, List.nil_append, Text.splitOn_of_not_mem last.joins, List.map_singleton,
        last.trimEnd_eq]
      rfl
  | cons line lines ih =>
      obtain ⟨isLine, others⟩ := List.forall_mem_cons.mp are
      have ih := ih others
      obtain ⟨line, ending⟩ := line
      rw [List.flatMap_cons, List.append_assoc, List.map_cons, List.cons_append, ← ih]
      cases ending with
      | feed =>
          have shape (rest : Text) : lineText (line, .feed) ++ rest = line ++ ('\n' : CodePoint) :: rest := by
            rw [lineText, List.append_assoc]
            rfl
          rw [shape, Text.splitOn_append_cons isLine.joins, List.map_cons, isLine.trimEnd_eq]
      | returnFeed =>
          have shape (rest : Text) : lineText (line, .returnFeed) ++ rest =
              (line ++ [('\r' : CodePoint)]) ++ ('\n' : CodePoint) :: rest := by
            rw [lineText, List.append_assoc, List.append_assoc]
            rfl
          have joins : ('\n' : CodePoint) ∉ line ++ [('\r' : CodePoint)] := by
            rw [List.mem_append, List.mem_singleton, not_or]
            exact ⟨isLine.joins, by decide⟩
          rw [shape, Text.splitOn_append_cons joins, List.map_cons, trimEnd_concat (by rfl),
            isLine.trimEnd_eq]

/-! ## Raw literals over several lines -/

/-- A raw literal over several lines, each with its end.  The last line holds nothing but the
indentation and the closing quotes. -/
structure RawBlock where
  /-- The number of quotes on either side. -/
  count : Nat
  /-- What stands behind the opening quotes on their line. -/
  opening : Text × LineEnd
  /-- The lines between the first and the last. -/
  lines : List (Text × LineEnd)
  /-- The white space in front of the closing quotes. -/
  indent : Text
  three_le_count : 3 ≤ count
  isLine : ∀ line ∈ opening :: lines, IsLine line.1
  head?_opening : opening.1.head? ≠ some ('"' : CodePoint)
  spaces : ∀ c ∈ indent, c = (' ' : CodePoint) ∨ c = ('\t' : CodePoint)

namespace RawBlock

/-- The literal itself. -/
def text (block : RawBlock) : Text :=
  quotes block.count ++
    ((block.opening :: block.lines).flatMap lineText ++ block.indent ++ quotes block.count)

/-- From every line between the first and the last the indentation is cut. -/
theorem dedent_eq (block : RawBlock) :
    dedent ((block.opening :: block.lines).flatMap lineText ++ block.indent) =
      Text.join [('\n' : CodePoint)] (block.lines.map fun line => unindent block.indent line.1) := by
  have feeds : ((block.opening :: block.lines).flatMap lineText ++ block.indent).any (·.val == 10) =
      true := by
    rw [List.any_eq_true]
    refine ⟨('\n' : CodePoint), ?_, rfl⟩
    rw [List.flatMap_cons, lineText]
    cases block.opening.2 <;> simp [LineEnd.text, Text.ofString]
  have lines := splitOn_lineText block.isLine (isLine_of_spaces block.spaces)
  rw [dedent, feeds, if_pos rfl]
  simp only [lines, List.map_cons, List.cons_append, List.drop_succ_cons, List.drop_zero,
    List.dropLast_concat]
  rw [← List.cons_append, List.getLastD_concat, List.map_map]
  rfl

theorem decode_text (block : RawBlock) (setting : Setting) :
    decode (setting.around block.text) =
      .ok (some (Text.join [('\n' : CodePoint)]
        (block.lines.map fun line => unindent block.indent line.1))) := by
  obtain ⟨c, rest, begins, noQuote⟩ : ∃ c rest,
      (block.opening :: block.lines).flatMap lineText ++ block.indent = c :: rest ∧
        c ≠ ('"' : CodePoint) := by
    have head := block.head?_opening
    rw [List.flatMap_cons, lineText]
    cases first : block.opening.1 with
    | nil =>
        cases block.opening.2
        · exact ⟨_, _, rfl, by decide⟩
        · exact ⟨_, _, rfl, by decide⟩
    | cons c t =>
        rw [first] at head
        exact ⟨c, _, rfl, fun same => head (congrArg some same)⟩
  rw [text, begins, decode_quotes setting block.three_le_count noQuote, ← begins, dedent_eq]

end RawBlock

/-- What a line contributes to the text of a raw literal: the indentation is cut from it, and a line of
white space that ends inside the indentation contributes an empty line. -/
inductive Contributes (indent : Text) : Text → Text → Prop
  /-- The line begins with the indentation. -/
  | cut (content : Text) : Contributes indent (indent ++ content) content
  /-- The line is a proper beginning of the indentation. -/
  | blank {line : Text} (begins : line <+: indent) (proper : line ≠ indent) :
      Contributes indent line []

theorem Contributes.subset {content : Text} (contributes : Contributes indent line content) :
    content ⊆ line := by
  cases contributes with
  | cut content => exact List.subset_append_right indent content
  | blank _ _ => exact List.nil_subset line

theorem unindent_append (indent content : Text) : unindent indent (indent ++ content) = content := by
  rw [unindent, if_pos (List.isPrefixOf_iff_prefix.mpr (List.prefix_append indent content)),
    List.drop_left]

theorem unindent_subset (indent line : Text) : unindent indent line ⊆ line := by
  unfold unindent
  split
  · exact List.drop_subset _ _
  · exact List.Subset.refl line

theorem not_mem_of_contributes {lines contents : List Text}
    (contribute : List.Forall₂ (Contributes indent) lines contents)
    (absent : ∀ line ∈ lines, c ∉ line) : ∀ content ∈ contents, c ∉ content := by
  induction contribute with
  | nil => exact fun content mem => nomatch mem
  | cons first _ ih =>
      obtain ⟨absent, others⟩ := List.forall_mem_cons.mp absent
      exact List.forall_mem_cons.mpr ⟨fun mem => absent (first.subset mem), ih others⟩

/-- A line of white space that ends inside the indentation is left as it is, so that it contributes
what it should only if it is empty. -/
theorem Contributes.unindent_eq_iff {content : Text} (contributes : Contributes indent line content) :
    unindent indent line = content ↔ indent <+: line ∨ line = [] := by
  cases contributes with
  | cut content => exact iff_of_true (unindent_append indent content) (.inl (List.prefix_append _ _))
  | blank begins proper =>
      have notPrefix : ¬ indent <+: line := by
        intro longer
        exact proper (begins.eq_of_length (begins.length_le.antisymm longer.length_le))
      rw [unindent, if_neg (by rwa [List.isPrefixOf_iff_prefix])]
      simp [notPrefix]

theorem map_unindent_eq_iff {lines contents : List Text}
    (contribute : List.Forall₂ (Contributes indent) lines contents) :
    lines.map (unindent indent) = contents ↔ ∀ line ∈ lines, indent <+: line ∨ line = [] := by
  induction contribute with
  | nil => simp
  | cons first _ ih =>
      rw [List.map_cons, List.cons.injEq, first.unindent_eq_iff, ih, List.forall_mem_cons]

/-- Texts without line feeds are told apart by the text of all of them, if they are equally many. -/
theorem join_feeds_inj {ts us : List Text} (same : ts.length = us.length)
    (joins : ∀ t ∈ ts, ('\n' : CodePoint) ∉ t) (joins' : ∀ u ∈ us, ('\n' : CodePoint) ∉ u) :
    Text.join [('\n' : CodePoint)] ts = Text.join [('\n' : CodePoint)] us ↔ ts = us := by
  constructor
  · intro joined
    rcases List.eq_nil_or_concat' ts with rfl | ⟨_, _, rfl⟩
    · exact (List.length_eq_zero_iff.mp same.symm).symm
    · have nonempty : us ≠ [] := by
        rintro rfl
        simp at same
      rw [← Text.splitOn_join (by simp) joins, joined, Text.splitOn_join nonempty joins']
  · rintro rfl
    rfl

/-- If every line of a raw literal begins with the indentation or is a beginning of it, then the
literal denotes the lines without the indentation, unless a line of white space that ends inside the
indentation is not empty. -/
theorem decode_rawBlock_iff (block : RawBlock) (setting : Setting) (contents : List Text)
    (contribute : List.Forall₂ (Contributes block.indent) (block.lines.map (·.1)) contents) :
    decode (setting.around block.text) = .ok (some (Text.join [('\n' : CodePoint)] contents)) ↔
      ∀ line ∈ block.lines, block.indent <+: line.1 ∨ line.1 = [] := by
  have lines : ∀ line ∈ block.lines.map (·.1), ('\n' : CodePoint) ∉ line := by
    rw [List.forall_mem_map]
    exact fun line mem => (block.isLine line (List.mem_cons_of_mem _ mem)).joins
  have cut : ∀ line ∈ (block.lines.map (·.1)).map (unindent block.indent),
      ('\n' : CodePoint) ∉ line := by
    rw [List.forall_mem_map]
    exact fun line mem feed => lines line mem (unindent_subset _ _ feed)
  have same : ((block.lines.map (·.1)).map (unindent block.indent)).length = contents.length := by
    rw [List.length_map, contribute.length_eq]
  calc
    _ ↔ Text.join [('\n' : CodePoint)] ((block.lines.map (·.1)).map (unindent block.indent)) =
          Text.join [('\n' : CodePoint)] contents := by
        rw [block.decode_text, List.map_map]
        exact ⟨fun read => Option.some.inj (Except.ok.inj read), fun same => by rw [← same]; rfl⟩
    _ ↔ (block.lines.map (·.1)).map (unindent block.indent) = contents :=
        join_feeds_inj same cut (not_mem_of_contributes contribute lines)
    _ ↔ ∀ line ∈ block.lines, block.indent <+: line.1 ∨ line.1 = [] := by
        rw [map_unindent_eq_iff contribute, List.forall_mem_map]

/-- A raw literal with a line of white space between two others. -/
def exampleBlock (blank : Text) (isLine : IsLine blank) : RawBlock where
  count := 3
  opening := ([], .feed)
  lines := [("    flex", .feed), (blank, .returnFeed), ("    gap-2", .feed)]
  indent := "    "
  three_le_count := Nat.le_refl 3
  isLine := by
    simp only [List.forall_mem_cons]
    exact ⟨⟨by decide, by decide⟩, ⟨by decide, by decide⟩, isLine, ⟨by decide, by decide⟩, nofun⟩
  head?_opening := by decide
  spaces := by decide

theorem decode_rawBlock_iff_blank :
    decode "\"\"\"\n    flex\n\r\n    gap-2\n    \"\"\"" = .ok (some "flex\n\ngap-2") ∧
      decode "\"\"\"\n    flex\n  \r\n    gap-2\n    \"\"\"" ≠ .ok (some "flex\n\ngap-2") := by
  let empty := exampleBlock [] ⟨by decide, by decide⟩
  let short := exampleBlock "  " ⟨by decide, by decide⟩
  have cut (content : Text) : Contributes "    " ("    " ++ content) content := .cut content
  constructor
  · have written : ("\"\"\"\n    flex\n\r\n    gap-2\n    \"\"\"" : Text) =
        Setting.bare.around empty.text := rfl
    rw [written]
    refine (decode_rawBlock_iff empty .bare ["flex", [], "gap-2"] ?_).mpr (by decide)
    exact .cons (cut "flex") (.cons (.blank (by decide) (by decide)) (.cons (cut "gap-2") .nil))
  · have written : ("\"\"\"\n    flex\n  \r\n    gap-2\n    \"\"\"" : Text) =
        Setting.bare.around short.text := rfl
    rw [written]
    intro read
    refine absurd ((decode_rawBlock_iff short .bare ["flex", [], "gap-2"] ?_).mp read) (by decide)
    exact .cons (cut "flex") (.cons (.blank (by decide) (by decide)) (.cons (cut "gap-2") .nil))

/-! ## Texts written as literals -/

/-- A text between quotes on one line. -/
def rawLine (n : Nat) (t : Text) : Text :=
  quotes n ++ (t ++ quotes n)

/-- Lines between quotes, each on a line of its own behind an indentation. -/
def rawLines (n : Nat) (indent : Text) (lines : List Text) : Text :=
  quotes n ++ (("\n" : Text) ++ lines.flatMap (fun line => indent ++ line ++ ("\n" : Text)) ++ indent ++
    quotes n)

/-- The lines behind an indentation are lines of a raw literal. -/
def RawBlock.ofLines (three : 3 ≤ n) {indent : Text}
    (spaces : ∀ c ∈ indent, c = (' ' : CodePoint) ∨ c = ('\t' : CodePoint)) (lines : List Text)
    (are : ∀ line ∈ lines, IsLine line) : RawBlock where
  count := n
  opening := ([], .feed)
  lines := lines.map fun line => (indent ++ line, .feed)
  indent := indent
  three_le_count := three
  isLine := by
    rw [List.forall_mem_cons, List.forall_mem_map]
    exact ⟨⟨by simp, by simp⟩, fun line mem => (isLine_of_spaces spaces).append (are line mem)⟩
  head?_opening := by simp
  spaces := spaces

theorem RawBlock.text_ofLines (three : 3 ≤ n) {indent : Text}
    (spaces : ∀ c ∈ indent, c = (' ' : CodePoint) ∨ c = ('\t' : CodePoint)) {lines : List Text}
    (are : ∀ line ∈ lines, IsLine line) :
    (RawBlock.ofLines three spaces lines are).text = rawLines n indent lines := by
  unfold RawBlock.text RawBlock.ofLines rawLines
  rw [List.flatMap_cons, List.flatMap_map]
  rfl

/-- A text that is written as a verbatim literal, or as a raw one on a line or over several lines, is
what the literal denotes, whatever surrounds it.  Between the quotes of a raw literal other quotes do not
matter, except that on one line the first character must not be one. -/
theorem decode_unescaped (setting : Setting) :
    (∀ t, decode (setting.around (verbatim t)) = .ok (some t)) ∧
    (∀ n t, 3 ≤ n → t ≠ [] → ('\n' : CodePoint) ∉ t → t.head? ≠ some ('"' : CodePoint) →
      decode (setting.around (rawLine n t)) = .ok (some t)) ∧
    ∀ n indent lines, 3 ≤ n → (∀ c ∈ indent, c = (' ' : CodePoint) ∨ c = ('\t' : CodePoint)) →
      (∀ line ∈ lines, IsLine line) →
      decode (setting.around (rawLines n indent lines)) =
        .ok (some (Text.join [('\n' : CodePoint)] lines)) := by
  refine ⟨?_, ?_, ?_⟩
  · intro t
    rw [verbatim, decode_verbatim, undouble_doubled]
  · intro n t three nonempty joins first
    obtain ⟨c, rest, rfl⟩ := List.exists_cons_of_ne_nil nonempty
    have noQuote : c ≠ ('"' : CodePoint) := fun same => first (congrArg some same)
    rw [rawLine, decode_quotes setting three noQuote, dedent_of_not_mem joins]
  · intro n indent lines three spaces are
    have cut : ((RawBlock.ofLines three spaces lines are).lines.map fun line =>
        unindent indent line.1) = lines := by
      rw [RawBlock.ofLines, List.map_map]
      exact List.map_id'' (fun line => unindent_append indent line) lines
    have read := (RawBlock.ofLines three spaces lines are).decode_text setting
    rw [RawBlock.text_ofLines] at read
    rw [read]
    exact congrArg (fun ts => Except.ok (some (Text.join [('\n' : CodePoint)] ts))) cut

theorem decode_unescaped_quotes :
    decode "\t@\"say \"\"hi\"\" \\\"U8 " = .ok (some "say \"hi\" \\") ∧
      decode "\t\"\"\"\"@\"\"\"u8\"\"\"\"U8 " = .ok (some "@\"\"\"u8") ∧
      decode "\t\"\"\"\n \t \"p-4\"\n \t\n \t\"\"\"U8 " = .ok (some " \"p-4\"\n") := by
  let setting : Setting := ⟨"\t", "U8", " ", rfl, .tail _ (.tail _ (.head _)), rfl⟩
  have literals := decode_unescaped setting
  refine ⟨?_, ?_, ?_⟩
  · have written : ("\t@\"say \"\"hi\"\" \\\"U8 " : Text) =
        setting.around (verbatim "say \"hi\" \\") := rfl
    rw [written]
    exact literals.1 _
  · have written : ("\t\"\"\"\"@\"\"\"u8\"\"\"\"U8 " : Text) =
        setting.around (rawLine 4 "@\"\"\"u8") := rfl
    rw [written]
    exact literals.2.1 4 _ (by decide) (by decide) (by decide) (by decide)
  · have written : ("\t\"\"\"\n \t \"p-4\"\n \t\n \t\"\"\"U8 " : Text) =
        setting.around (rawLines 3 " \t" [" \"p-4\"", []]) := rfl
    have joined : (" \"p-4\"\n" : Text) = Text.join [('\n' : CodePoint)] [" \"p-4\"", []] := rfl
    rw [written, joined]
    refine literals.2.2 3 _ _ (Nat.le_refl 3) (by decide) ?_
    rw [List.forall_mem_cons, List.forall_mem_singleton]
    exact ⟨⟨by decide, by decide⟩, ⟨by decide, by decide⟩⟩

end ClassHarvest.CSharp.Literal
