import Mathlib.Data.List.TakeDrop
import ClassHarvest.Emission.Emitter
import ClassHarvest.Proofs.CSharp.Literal
import ClassHarvest.Proofs.Text.Lines

/-!
# Generated files are read

What a generated file says is read from its lines alone: the method that it declares, the class names
of an array, and the methods of which a union is made.  Nothing is presumed of the lines in front of
the method, in which the namespace, the modifiers and the name of the marker stand.
-/

namespace ClassHarvest.Emission

open CSharp

/-! ## Reading lines -/

/-- What follows the beginning of a line. -/
def behind? (start line : Text) : Option Text :=
  if start.isPrefixOf line then some (line.drop start.length) else none

/-- The lines behind the last line that passes a test. -/
def behindLast? (p : Text → Bool) : List Text → Option (List Text)
  | [] => none
  | line :: rest => (behindLast? p rest).or (if p line then some rest else none)

/-- A method that a file declares. -/
structure Method where
  /-- Its name. -/
  name : Text
  /-- What follows its parentheses on the line. -/
  value : Text
  /-- The lines behind. -/
  behind : List Text
deriving DecidableEq

/-- The name of the method that a line declares, and what follows its parentheses. -/
def methodIn? (line : Text) : Option (Text × Text) := do
  let t ← (behind? (indented 8 "public static string[] ") line).or
    (behind? (indented 8 "private static string[] ") line)
  let (name, t) ← t.cut? '('
  return (name, ← behind? ")" t)

/-- The last method that lines declare. -/
def lastMethod? : List Text → Option Method
  | [] => none
  | line :: rest =>
    (lastMethod? rest).or ((methodIn? line).map fun (name, value) => ⟨name, value, rest⟩)

/-- The value of a method that gives no class names. -/
def emptyValue : Text := " => System.Array.Empty<string>();"

/-- How a line ends behind which the literals of an array stand. -/
def arrayOpening : Text := "new string[] \x7b"

/-- The line behind the literals of an array. -/
def arrayClosing : Text := indented 8 "\x7d;"

/-- A line without the comma at its end. -/
def withoutComma? (line : Text) : Option Text :=
  if line.getLast? = some (',' : CodePoint) then some line.dropLast else none

/-- Lines of which all but the last lose the comma at their end. -/
def withoutCommas? : List Text → Option (List Text)
  | [] => some []
  | [last] => some [last]
  | line :: rest => do return (← withoutComma? line) :: (← withoutCommas? rest)

/-- The text that a literal denotes. -/
def denoted? (literal : Text) : Option Text :=
  (Literal.decode literal).toOption.join

/-- The class names of an array: what the lines denote between the last line that opens an array and
the next one that closes it. -/
def lastArray? (lines : List Text) : Option (List Text) := do
  let behind ← behindLast? (arrayOpening.isSuffixOf ·) lines
  if arrayClosing ∈ behind then
    let literals ← (behind.takeWhile (· ≠ arrayClosing)).mapM (behind? (indented 12 []))
    (← withoutCommas? literals).mapM denoted?
  else none

/-- The method that a line takes into a union. -/
def unionSource? (line : Text) : Option Text := do
  let t ← behind? (indented 12 "output.UnionWith(") line
  let (name, t) ← t.cut? '('
  if t = Text.ofString "));" then some name else none

namespace Artifact

/-- The method of a generated file. -/
def method? (artifact : Artifact) : Option Method :=
  lastMethod? artifact.text.lines

/-- Whether a generated file declares a method. -/
def declares (name : Text) (artifact : Artifact) : Bool :=
  artifact.method?.any (·.name == name)

/-- The class names that the method of a generated file gives. -/
def array? (artifact : Artifact) : Option (List Text) := do
  let method ← artifact.method?
  if method.value = emptyValue then some [] else lastArray? artifact.text.lines

/-- The methods of which the method of a generated file makes a union, in order. -/
def sources (artifact : Artifact) : List Text :=
  match artifact.method? with
  | none => []
  | some method => method.behind.filterMap unionSource?

end Artifact

/-- The class names that a method gives, if exactly one of some files declares it. -/
def arrayNamed? (artifacts : List Artifact) (name : Text) : Option (List Text) :=
  match artifacts.filter (·.declares name) with
  | [artifact] => artifact.array?
  | _ => none

/-! ## The last line of a kind -/

variable {p : Text → Bool} {line : Text} {front rest : List Text}

@[simp]
theorem behind?_append (start t : Text) : behind? start (start ++ t) = some t := by
  rw [behind?, if_pos (List.isPrefixOf_iff_prefix.mpr (List.prefix_append start t)), List.drop_left]

theorem behindLast?_eq_none (none : ∀ line ∈ rest, p line = false) : behindLast? p rest = .none := by
  induction rest with
  | nil => rfl
  | cons line rest ih =>
      rw [behindLast?, ih fun line mem => none line (List.mem_cons_of_mem _ mem),
        none line List.mem_cons_self]
      rfl

theorem behindLast?_append_cons (passes : p line = true) (none : ∀ line ∈ rest, p line = false) :
    behindLast? p (front ++ line :: rest) = some rest := by
  induction front with
  | nil => rw [List.nil_append, behindLast?, behindLast?_eq_none none, passes]; rfl
  | cons other front ih => rw [List.cons_append, behindLast?, ih]; rfl

theorem lastMethod?_eq_none (none : ∀ line ∈ rest, methodIn? line = .none) :
    lastMethod? rest = .none := by
  induction rest with
  | nil => rfl
  | cons line rest ih =>
      rw [lastMethod?, ih fun line mem => none line (List.mem_cons_of_mem _ mem),
        none line List.mem_cons_self]
      rfl

theorem lastMethod?_append_cons {name value : Text} (declares : methodIn? line = some (name, value))
    (none : ∀ line ∈ rest, methodIn? line = .none) :
    lastMethod? (front ++ line :: rest) = some ⟨name, value, rest⟩ := by
  induction front with
  | nil => rw [List.nil_append, lastMethod?, lastMethod?_eq_none none, declares]; rfl
  | cons other front ih => rw [List.cons_append, lastMethod?, ih]; rfl

/-! ## Lines of generated files -/

/-- A text without line ends. -/
def Joined (line : Text) : Prop :=
  ∀ c ∈ line, Text.isLineEnd c = false

instance (line : Text) : Decidable (Joined line) :=
  inferInstanceAs (Decidable (∀ c ∈ line, Text.isLineEnd c = false))

theorem Joined.append {t u : Text} (joined : Joined t) (joined' : Joined u) : Joined (t ++ u) :=
  fun c mem => (List.mem_append.mp mem).elim (joined c) (joined' c)

theorem Joined.indented {t : Text} (joined : Joined t) (width : Nat) : Joined (indented width t) := by
  refine Joined.append (fun c mem => ?_) joined
  rw [List.eq_of_mem_replicate mem]
  rfl

theorem unlines_cons (line : Text) (rest : List Text) :
    unlines (line :: rest) = line ++ ('\n' : CodePoint) :: unlines rest := by
  rw [unlines, List.flatMap_cons, List.append_assoc]
  rfl

/-- Lines without line ends are read back, whatever stands in front of them. -/
theorem lines_unlines_append (front : List Text) (joined : ∀ line ∈ rest, Joined line) :
    (unlines (front ++ rest)).lines = (unlines front).lines ++ rest := by
  induction front with
  | nil =>
      induction rest with
      | nil => rfl
      | cons line rest ih =>
          have behind := ih fun line mem => joined line (List.mem_cons_of_mem _ mem)
          rw [List.nil_append] at behind ⊢
          rw [unlines_cons, Text.lines_line (joined line List.mem_cons_self), behind]
          rfl
  | cons line front ih =>
      rw [List.cons_append, unlines_cons, unlines_cons, Text.lines_append_lineFeed, ih,
        Text.lines_append_lineFeed line (unlines front), List.append_assoc]

/-- The lines that close a generated file. -/
def closing : List Text := [indented 4 "\x7d", "\x7d"]

/-- Of a generated file the lines inside the class are read back. -/
theorem exists_lines_wrap (target : Target) (before : List Text) {body : List Text}
    (joined : ∀ line ∈ body, Joined line) :
    ∃ front, (target.wrap (before ++ body)).lines = front ++ (body ++ closing) := by
  have joined : ∀ line ∈ body ++ closing, Joined line := by
    intro line mem
    rcases List.mem_append.mp mem with inside | last
    · exact joined line inside
    · have all : ∀ line ∈ closing, Joined line := by decide
      exact all line last
  have split : target.wrap (before ++ body) =
      unlines ((header ++ [
        "namespace " ++ target.namespace,
        "\x7b",
        indented 4 (target.modifiers ++ " class " ++ target.typeName),
        indented 4 "\x7b"] ++ before) ++ (body ++ closing)) := by
    rw [Target.wrap, ← List.append_assoc _ before body, List.append_assoc _ body]
    rfl
  exact ⟨_, split ▸ lines_unlines_append _ joined⟩

/-! ## Names of methods -/

/-- Characters with which identifiers are written: their parts, the `@` in front of a keyword, and the
backslash of an escape. -/
def isIdentifierText (name : Text) : Bool :=
  name.all fun c => c.isIdentifierPart || c == '@' || c == '\\'

/-- No identifier is written with an opening parenthesis or a line end. -/
theorem apart_of_isIdentifierText {name : Text} (isName : isIdentifierText name = true) :
    ('(' : CodePoint) ∉ name ∧ Joined name := by
  have noPart : ∀ n ∈ [40, 10, 11, 12, 13, 28, 29, 30, 0x85, 0x2028, 0x2029],
      Bounds.has CodePoint.identifierPartBounds n = false := by decide +kernel
  have apart : ∀ c ∈ name, c.val ∉ [40, 10, 11, 12, 13, 28, 29, 30, 0x85, 0x2028, 0x2029] := by
    intro c mem listed
    have isPart := List.all_eq_true.mp isName c mem
    rw [CodePoint.isIdentifierPart, noPart c.val listed] at isPart
    simp only [Bool.false_or, Bool.or_eq_true, beq_iff_eq] at isPart
    rcases isPart with rfl | rfl
    · exact absurd listed (by decide)
    · exact absurd listed (by decide)
  constructor
  · intro mem
    exact apart _ mem (by decide)
  · intro c mem
    have noEnd := apart c mem
    simp only [List.mem_cons, List.not_mem_nil, or_false, not_or] at noEnd
    simp only [Text.isLineEnd, Bool.or_eq_false_iff, Bool.and_eq_false_iff, decide_eq_false_iff_not,
      beq_eq_false_iff_ne]
    omega

theorem cut?_append {name t : Text} {separator : CodePoint} (absent : separator ∉ name) :
    (name ++ separator :: t).cut? separator = some (name, t) := by
  have inside : ∀ c ∈ name, (c != separator) = true := by
    intro c mem
    have apart : c ≠ separator := fun same => absent (same ▸ mem)
    simpa using apart
  rw [Text.cut?, List.span_eq_takeWhile_dropWhile, List.takeWhile_append_of_pos inside,
    List.dropWhile_append_of_pos inside]
  simp

/-- The line on which a method begins tells its name. -/
theorem methodIn?_eq {visibility name : Text}
    (visible : visibility = Text.ofString "public" ∨ visibility = Text.ofString "private")
    (named : isIdentifierText name = true) (value : Text) :
    methodIn? (indented 8 (visibility ++ Text.ofString " static string[] " ++ name ++
      Text.ofString "()" ++ value)) = some (name, value) := by
  let behind : Text := name ++ ('(' : CodePoint) :: (Text.ofString ")" ++ value)
  have cut : behind.cut? '(' = some (name, _) := cut?_append (apart_of_isIdentifierText named).1
  have parts : indented 8 (visibility ++ Text.ofString " static string[] " ++ name ++
      Text.ofString "()" ++ value) =
        indented 8 (visibility ++ Text.ofString " static string[] ") ++ behind := by
    simp only [indented, List.append_assoc]
    rfl
  have opened (line : Text)
      (isLine : line = indented 8 (visibility ++ Text.ofString " static string[] ") ++ behind) :
      (behind? (indented 8 "public static string[] ") line).or
        (behind? (indented 8 "private static string[] ") line) = some behind := by
    rw [isLine]
    rcases visible with isPublic | isPrivate
    · rw [isPublic]
      exact congrArg (Option.or · _) (behind?_append (indented 8 "public static string[] ") behind)
    · rw [isPrivate]
      exact congrArg (Option.or none) (behind?_append (indented 8 "private static string[] ") behind)
  rw [methodIn?, opened _ parts]
  simp only [Option.bind_eq_bind, Option.bind_some, cut, behind?_append]
  rfl

theorem methodIn?_head {accessor : Accessor} (value : Text)
    (visible : accessor.visibility = Text.ofString "public" ∨
      accessor.visibility = Text.ofString "private")
    (named : isIdentifierText accessor.name = true) :
    methodIn? (indented 8 (accessor.head ++ value)) =
      some (accessor.name, Text.ofString " => " ++ value) := by
  have parts : accessor.head ++ value = accessor.visibility ++ Text.ofString " static string[] " ++
      accessor.name ++ Text.ofString "()" ++ (Text.ofString " => " ++ value) := by
    simp only [Accessor.head, List.append_assoc]
    rfl
  rw [parts]
  exact methodIn?_eq visible named _

/-- No line further inside a class declares a method. -/
theorem methodIn?_indented (t : Text) : methodIn? (indented 12 t) = none := rfl

/-- Nor does a line that closes a file. -/
theorem methodIn?_of_mem_closing : ∀ line ∈ closing, methodIn? line = none := by
  decide

/-! ## Arrays -/

theorem suffix_head (accessor : Accessor) :
    arrayOpening.isSuffixOf (indented 8 (accessor.head ++ arrayOpening)) = true := by
  rw [List.isSuffixOf_iff_suffix, indented, ← List.append_assoc]
  exact List.suffix_append _ _

/-- A line that ends otherwise opens no array. -/
theorem isSuffixOf_eq_false {line : Text} {last : CodePoint} (isLast : line.getLast? = some last)
    (apart : last ≠ '\x7b') : arrayOpening.isSuffixOf line = false := by
  rw [Bool.eq_false_iff, Ne, List.isSuffixOf_iff_suffix]
  rintro ⟨front, rfl⟩
  rw [List.getLast?_append] at isLast
  exact apart (Option.some.inj isLast).symm

/-- A line with a literal is the literal, with a comma behind it or without. -/
theorem of_mem_literalLines {classes : List Text} {line : Text} (mem : line ∈ literalLines classes) :
    ∃ t, line = Literal.encode t ∨ line = Literal.encode t ++ [(',' : CodePoint)] := by
  induction classes using literalLines.induct with
  | case1 => cases mem
  | case2 last =>
      rw [literalLines, List.mem_singleton] at mem
      exact ⟨last, .inl mem⟩
  | case3 first rest further ih =>
      rw [literalLines.eq_3 _ _ further, List.mem_cons] at mem
      rcases mem with rfl | mem
      · exact ⟨first, .inr rfl⟩
      · exact ih mem

theorem joined_of_mem_literalLines {classes : List Text} {line : Text}
    (mem : line ∈ literalLines classes) : Joined line := by
  obtain ⟨t, rfl | rfl⟩ := of_mem_literalLines mem
  · exact fun c => Literal.isLineEnd_of_mem_encode
  · exact Joined.append (fun c => Literal.isLineEnd_of_mem_encode) (by decide)

theorem getLast?_encode (t : Text) : (Literal.encode t).getLast? = some ('"' : CodePoint) :=
  List.getLast?_concat

/-- No line with a literal opens an array. -/
theorem isSuffixOf_of_mem_literalLines {classes : List Text} {line : Text}
    (mem : line ∈ literalLines classes) : arrayOpening.isSuffixOf (indented 12 line) = false := by
  obtain ⟨t, rfl | rfl⟩ := of_mem_literalLines mem
  · have last : (indented 12 (Literal.encode t)).getLast? = some ('"' : CodePoint) := by
      rw [indented, List.getLast?_append, getLast?_encode]
      rfl
    exact isSuffixOf_eq_false last (by decide)
  · have last : (indented 12 (Literal.encode t ++ [(',' : CodePoint)])).getLast? =
        some (',' : CodePoint) := by
      rw [indented, List.getLast?_append, List.getLast?_concat]
      rfl
    exact isSuffixOf_eq_false last (by decide)

theorem withoutComma?_concat (t : Text) : withoutComma? (t ++ [(',' : CodePoint)]) = some t := by
  rw [withoutComma?, List.getLast?_concat, if_pos rfl, List.dropLast_concat]

/-- All literals but the last carry a comma. -/
theorem withoutCommas?_literalLines (classes : List Text) :
    withoutCommas? (literalLines classes) = some (classes.map Literal.encode) := by
  induction classes using literalLines.induct with
  | case1 => rfl
  | case2 last => rfl
  | case3 first rest further ih =>
      have moreLines : literalLines rest ≠ [] := by
        cases rest with
        | nil => exact absurd rfl further
        | cons second others => cases others <;> simp [literalLines]
      rw [literalLines.eq_3 _ _ further, withoutCommas?.eq_3 _ _ moreLines, withoutComma?_concat, ih]
      rfl

theorem denoted?_encode (t : Text) : denoted? (Literal.encode t) = some t := by
  rw [denoted?, Literal.decode_encode]
  rfl

theorem mapM_map_eq_some {α β γ : Type} {write : α → β} {read : β → Option γ} {value : α → γ}
    {xs : List α} (each : ∀ x ∈ xs, read (write x) = some (value x)) :
    (xs.map write).mapM read = some (xs.map value) := by
  induction xs with
  | nil => rfl
  | cons x xs ih =>
      rw [List.map_cons, List.mapM_cons, each x List.mem_cons_self,
        ih fun y mem => each y (List.mem_cons_of_mem _ mem)]
      rfl

/-- What was written member by member is read back member by member. -/
theorem mapM_map_of_inverse {α β : Type} {write : α → β} {read : β → Option α}
    (inverse : ∀ x, read (write x) = some x) (xs : List α) : (xs.map write).mapM read = some xs := by
  rw [mapM_map_eq_some fun x _ => inverse x, List.map_id']

/-- The lines of an array give what was written, whatever stands in front of them. -/
theorem lastArray?_valueLines {accessor : Accessor} (nonempty : accessor.literals ≠ [])
    (front : List Text) :
    lastArray? (front ++ (accessor.valueLines ++ closing)) = some accessor.literals := by
  let inside := (literalLines accessor.literals).map (indented 12)
  have shape : accessor.valueLines ++ closing =
      indented 8 (accessor.head ++ arrayOpening) :: (inside ++ arrayClosing :: closing) := by
    rw [Accessor.valueLines, if_neg (by simpa using nonempty), List.append_assoc, List.append_assoc]
    rfl
  have noOpening : ∀ line ∈ inside ++ arrayClosing :: closing, arrayOpening.isSuffixOf line = false := by
    intro line mem
    rcases List.mem_append.mp mem with isLiteral | isClosing
    · obtain ⟨literal, isLine, rfl⟩ := List.mem_map.mp isLiteral
      exact isSuffixOf_of_mem_literalLines isLine
    · have all : ∀ line ∈ arrayClosing :: closing, arrayOpening.isSuffixOf line = false := by decide
      exact all line isClosing
  have behind : behindLast? (arrayOpening.isSuffixOf ·) (front ++ (accessor.valueLines ++ closing)) =
      some (inside ++ arrayClosing :: closing) := by
    rw [shape]
    exact behindLast?_append_cons (suffix_head accessor) noOpening
  have noClosing : ∀ line ∈ inside, decide (line ≠ arrayClosing) = true := by
    intro line mem
    obtain ⟨literal, _, rfl⟩ := List.mem_map.mp mem
    rw [decide_eq_true_eq]
    intro same
    have further : behind? (indented 12 []) (indented 12 literal) = some literal :=
      behind?_append (indented 12 []) literal
    rw [same] at further
    cases further
  have taken : (inside ++ arrayClosing :: closing).takeWhile (· ≠ arrayClosing) = inside := by
    rw [List.takeWhile_append_of_pos noClosing]
    simp
  have cut : inside.mapM (behind? (indented 12 [])) = some (literalLines accessor.literals) :=
    mapM_map_of_inverse (fun line => behind?_append (indented 12 []) line) _
  have read : (accessor.literals.map Literal.encode).mapM denoted? = some accessor.literals :=
    mapM_map_of_inverse denoted?_encode _
  have closes : arrayClosing ∈ inside ++ arrayClosing :: closing := by simp
  simp only [lastArray?, behind, Option.bind_eq_bind, Option.bind_some, closes, if_true, taken, cut,
    withoutCommas?_literalLines, read]

/-! ## Files with an array -/

section

variable {accessor : Accessor}
  (visible : accessor.visibility = Text.ofString "public" ∨
    accessor.visibility = Text.ofString "private")
  (named : isIdentifierText accessor.name = true)
include visible named

theorem joined_of_mem_valueLines {line : Text} (mem : line ∈ accessor.valueLines) : Joined line := by
  have isVisible : Joined accessor.visibility := by
    rcases visible with isPublic | isPrivate
    · rw [isPublic]
      decide
    · rw [isPrivate]
      decide
  have head : Joined accessor.head :=
    ((isVisible.append (by decide)).append (apart_of_isIdentifierText named).2).append (by decide)
  rw [Accessor.valueLines] at mem
  split at mem
  · rw [List.mem_singleton.mp mem]
    exact (head.append (by decide)).indented 8
  · rcases List.mem_append.mp mem with inside | isClosing
    · rcases List.mem_append.mp inside with isHead | isLiteral
      · rw [List.mem_singleton.mp isHead]
        exact (head.append (by decide)).indented 8
      · obtain ⟨literal, isLine, rfl⟩ := List.mem_map.mp isLiteral
        exact (joined_of_mem_literalLines isLine).indented 12
    · rw [List.mem_singleton.mp isClosing]
      decide

/-- The method of an array, whatever stands in front of it. -/
theorem lastMethod?_valueLines (front : List Text) : ∃ behind,
    lastMethod? (front ++ (accessor.valueLines ++ closing)) = some ⟨accessor.name,
      if accessor.literals = [] then emptyValue else Text.ofString " => " ++ arrayOpening, behind⟩ := by
  have noneLast : ∀ line ∈ closing, methodIn? line = none := methodIn?_of_mem_closing
  by_cases empty : accessor.literals = []
  · have shape : accessor.valueLines ++ closing =
        indented 8 (accessor.head ++ Text.ofString "System.Array.Empty<string>();") :: closing := by
      rw [Accessor.valueLines, if_pos (by simpa using empty)]
      rfl
    rw [shape, if_pos empty]
    exact ⟨closing, lastMethod?_append_cons (methodIn?_head _ visible named) noneLast⟩
  · have shape : accessor.valueLines ++ closing = indented 8 (accessor.head ++ arrayOpening) ::
        ((literalLines accessor.literals).map (indented 12) ++ arrayClosing :: closing) := by
      rw [Accessor.valueLines, if_neg (by simpa using empty), List.append_assoc, List.append_assoc]
      rfl
    rw [shape, if_neg empty]
    refine ⟨_, lastMethod?_append_cons (methodIn?_head _ visible named) ?_⟩
    intro line mem
    rcases List.mem_append.mp mem with isLiteral | last
    · obtain ⟨literal, _, rfl⟩ := List.mem_map.mp isLiteral
      exact methodIn?_indented literal
    · rcases List.mem_cons.mp last with rfl | last
      · rfl
      · exact noneLast line last

/-- A file with an array declares its method and gives its literals. -/
theorem read_accessor (name : Text) :
    (∃ method, (Artifact.mk name accessor.render).method? = some method ∧ method.name = accessor.name) ∧
      (Artifact.mk name accessor.render).array? = some accessor.literals := by
  obtain ⟨front, lines⟩ := exists_lines_wrap accessor.target (accessor.comments.map (indented 8))
    (fun line => joined_of_mem_valueLines visible named)
  change accessor.render.lines = _ at lines
  obtain ⟨behind, isMethod⟩ := lastMethod?_valueLines visible named front
  rw [← lines] at isMethod
  refine ⟨⟨_, isMethod, rfl⟩, ?_⟩
  rw [Artifact.array?, Artifact.method?, isMethod]
  by_cases empty : accessor.literals = []
  · simp [empty]
  · have notEmpty : Text.ofString " => " ++ arrayOpening ≠ emptyValue := by decide
    simp only [empty, if_false, notEmpty, Option.bind_eq_bind, Option.bind_some]
    rw [lines]
    exact lastArray?_valueLines empty front

end

/-! ## Files with a union -/

/-- The lines between the head of a union and the methods that it takes. -/
def unionStart : List Text := [
  indented 8 "\x7b",
  indented 12 ("var output = new System.Collections.Generic.HashSet<string>" ++
    Text.ofString "(System.StringComparer.Ordinal);")]

/-- The line with which a union takes a method. -/
def unionLine (source : Text) : Text :=
  indented 12 ("output.UnionWith(" ++ source ++ "());")

/-- The lines behind the methods that a union takes. -/
def unionEnd : List Text :=
  [indented 12 "return System.Linq.Enumerable.ToArray(output);", indented 8 "\x7d"]

theorem unionSource?_line {source : Text} (named : isIdentifierText source = true) :
    unionSource? (unionLine source) = some source := by
  have parts : unionLine source =
      indented 12 "output.UnionWith(" ++ (source ++ ('(' : CodePoint) :: Text.ofString "));") := by
    simp only [unionLine, indented, List.append_assoc]
    rfl
  rw [unionSource?, parts, behind?_append]
  simp only [Option.bind_eq_bind, Option.bind_some, cut?_append (apart_of_isIdentifierText named).1]
  rfl

/-- The methods that a union takes are read from its lines. -/
theorem filterMap_unionSource? {sources : List Text}
    (named : ∀ source ∈ sources, isIdentifierText source = true) :
    (unionStart ++ (sources.map unionLine ++ unionEnd) ++ closing).filterMap unionSource? = sources := by
  have taken : (sources.map unionLine).filterMap unionSource? = sources := by
    induction sources with
    | nil => rfl
    | cons source sources ih =>
        rw [List.map_cons, List.filterMap_cons, unionSource?_line (named source List.mem_cons_self),
          ih fun source mem => named source (List.mem_cons_of_mem _ mem)]
  have start : unionStart.filterMap unionSource? = [] := by decide
  have last : unionEnd.filterMap unionSource? = [] := by decide
  have further : closing.filterMap unionSource? = [] := by decide
  rw [List.filterMap_append, List.filterMap_append, List.filterMap_append, start, taken, last, further,
    List.nil_append, List.append_nil, List.append_nil]

/-- A file with a union declares its method and names those that it takes. -/
theorem read_combiner {combiner : Combiner} (name : Text)
    (named : isIdentifierText combiner.name = true)
    (sourcesNamed : ∀ source ∈ combiner.sources, isIdentifierText source = true) :
    (∃ method, (Artifact.mk name combiner.render).method? = some method ∧ method.name = combiner.name) ∧
      (Artifact.mk name combiner.render).sources = combiner.sources := by
  let head := indented 8 ("public static string[] " ++ combiner.name ++ "()")
  let behind := unionStart ++ (combiner.sources.map unionLine ++ unionEnd)
  have isMethod : methodIn? head = some (combiner.name, []) := by
    have isHead : head = indented 8 (Text.ofString "public" ++ Text.ofString " static string[] " ++
        combiner.name ++ Text.ofString "()" ++ []) := by
      rw [List.append_nil]
      rfl
    rw [isHead]
    exact methodIn?_eq (.inl rfl) named []
  have noOther : ∀ line ∈ behind ++ closing, methodIn? line = none := by
    have start : ∀ line ∈ unionStart, methodIn? line = none := by decide
    have last : ∀ line ∈ unionEnd, methodIn? line = none := by decide
    intro line mem
    rcases List.mem_append.mp mem with mem | mem
    · rcases List.mem_append.mp mem with mem | mem
      · exact start line mem
      rcases List.mem_append.mp mem with mem | mem
      · obtain ⟨source, _, rfl⟩ := List.mem_map.mp mem
        exact methodIn?_indented _
      · exact last line mem
    · exact methodIn?_of_mem_closing line mem
  have joined : ∀ line ∈ head :: behind, Joined line := by
    have start : ∀ line ∈ unionStart, Joined line := by decide
    have last : ∀ line ∈ unionEnd, Joined line := by decide
    intro line mem
    rcases List.mem_cons.mp mem with rfl | mem
    · exact ((Joined.append (by decide) (apart_of_isIdentifierText named).2).append
        (by decide)).indented 8
    rcases List.mem_append.mp mem with mem | mem
    · exact start line mem
    rcases List.mem_append.mp mem with mem | mem
    · obtain ⟨source, isSource, rfl⟩ := List.mem_map.mp mem
      exact ((Joined.append (by decide) (apart_of_isIdentifierText (sourcesNamed source isSource)).2).append
        (by decide)).indented 12
    · exact last line mem
  have isBody : combiner.lines = (documentation "summary" [combinedSummary]).map (indented 8) ++
      head :: behind := by
    rw [Combiner.lines, List.append_assoc, List.append_assoc]
    rfl
  obtain ⟨front, lines⟩ := exists_lines_wrap combiner.target
    ((documentation "summary" [combinedSummary]).map (indented 8)) joined
  rw [← isBody] at lines
  have isLast : lastMethod? combiner.render.lines = some ⟨combiner.name, [], behind ++ closing⟩ := by
    rw [Combiner.render, lines]
    exact lastMethod?_append_cons isMethod noOther
  refine ⟨⟨_, isLast, rfl⟩, ?_⟩
  rw [Artifact.sources, Artifact.method?, isLast]
  exact filterMap_unionSource? sourcesNamed

end ClassHarvest.Emission
