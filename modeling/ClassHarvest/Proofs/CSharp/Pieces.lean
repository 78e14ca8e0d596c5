import ClassHarvest.Proofs.CSharp.Declarations
import ClassHarvest.Proofs.CSharp.RegularLiteral
import Mathlib.Data.List.Find

/-!
# Texts laid out in pieces

A source text may be written as a list of pieces: white space, comments, words, signs and string
literals.  When every piece fits to what follows it, the text is cut into the tokens of its pieces,
each at its own place.
-/

namespace ClassHarvest.CSharp

/-! ## Words and signs -/

/-- Whether a text is a word for the tokenizer: a name, with `@` in front or not. -/
def isWordText (t : Text) : Bool :=
  t.isName || (t.head? == some ('@' : CodePoint) && Text.isName (t.drop 1))

/-- Whether a text is a word of ASCII letters. -/
def isPlainWord : Text → Bool
  | [] => false
  | c :: name => c.isAsciiLetter && name.all CodePoint.isAsciiLetter

theorem isWordText_of_plain {t : Text} (plain : isPlainWord t = true) : isWordText t = true := by
  have letters : ∀ n ∈ List.range' 65 26 ++ List.range' 97 26,
      Bounds.has CodePoint.nameStartBounds n = true ∧
        Bounds.has CodePoint.namePartBounds n = true := by
    decide +kernel
  have mem {c : CodePoint} (letter : c.isAsciiLetter = true) :
      c.val ∈ List.range' 65 26 ++ List.range' 97 26 := by
    simp only [CodePoint.isAsciiLetter, CodePoint.isAsciiUpper, CodePoint.isAsciiLower,
      Bool.or_eq_true, Bool.and_eq_true, decide_eq_true_eq] at letter
    rw [List.mem_append, List.mem_range'_1, List.mem_range'_1]
    omega
  cases t with
  | nil => cases plain
  | cons c name =>
      rw [isPlainWord, Bool.and_eq_true, List.all_eq_true] at plain
      have first := letters c.val (mem plain.1)
      have parts : (name.all fun d => Bounds.has CodePoint.namePartBounds d.val) = true :=
        List.all_eq_true.mpr fun d isPart => (letters d.val (mem (plain.2 d isPart))).2
      simp [isWordText, Text.isName, first, parts]

/-- A text is an identifier: a word, and no keyword. -/
def IsIdentifier (t : Text) : Prop :=
  isWordText t = true ∧ t ∉ Grammar.keywords

instance (t : Text) : Decidable (IsIdentifier t) :=
  inferInstanceAs (Decidable (_ ∧ _))

theorem isIdentifier_of_plain {t : Text} (plain : isPlainWord t = true)
    (notKeyword : t ∉ Grammar.keywords) : IsIdentifier t :=
  ⟨isWordText_of_plain plain, notKeyword⟩

/-- Characters that may follow a word. -/
def delimiters : List CodePoint :=
  Text.ofString " \n.<>()[]\x7b\x7d,;"

/-- What follows a word does not go on with it. -/
def endsWord (rest : Text) : Bool :=
  rest.head?.any (delimiters.contains ·)

/-- Signs that are one token in front of other tokens. -/
def plainSigns : List String :=
  ["(", ")", "[", "]", "\x7b", "\x7d", ";", ",", ".", "<", ">", "=", "=>"]

/-- Characters with which a sign may go on. -/
def signParts : List CodePoint :=
  Text.ofString "=.<>-+&|?:"

/-- What follows a sign does not go on with it, nor makes a number of it. -/
def endsSign (rest : Text) : Bool :=
  !rest.head?.any fun c => c.isAsciiDigit || signParts.contains c

/-- Characters that begin neither a sign nor a word without `@`: those of separators, of literals
and of directives. -/
def otherStarts : List Nat := [
  9, 10, 11, 12, 13, 32, 34, 35, 36, 39, 47, 48, 49, 50, 51, 52, 53, 54, 55, 56, 57, 64, 0xA0,
  0xFEFF, 0x3000]

theorem not_namePart_of_delimiter :
    ∀ c ∈ delimiters, Bounds.has CodePoint.namePartBounds c.val = false := by
  decide +kernel

theorem not_nameStart_of_otherStart :
    ∀ n ∈ otherStarts, Bounds.has CodePoint.nameStartBounds n = false := by
  decide +kernel

theorem not_otherStart_of_nameStart {c : CodePoint}
    (starts : Bounds.has CodePoint.nameStartBounds c.val = true) : c.val ∉ otherStarts := by
  intro mem
  rw [not_nameStart_of_otherStart _ mem] at starts
  cases starts

theorem exists_of_isWordText {t : Text} (is : isWordText t = true) :
    ∃ c name, (t = c :: name ∨ t = ('@' : CodePoint) :: c :: name) ∧
      Bounds.has CodePoint.nameStartBounds c.val = true ∧
      (name.all fun d => Bounds.has CodePoint.namePartBounds d.val) = true := by
  have named {u : Text} (isName : u.isName = true) : ∃ c name, u = c :: name ∧
      Bounds.has CodePoint.nameStartBounds c.val = true ∧
      (name.all fun d => Bounds.has CodePoint.namePartBounds d.val) = true := by
    cases u with
    | nil => cases isName
    | cons c name => exact ⟨c, name, rfl, by simpa [Text.isName] using isName⟩
  simp only [isWordText, Bool.or_eq_true, Bool.and_eq_true, beq_iff_eq] at is
  rcases is with isName | ⟨first, isName⟩
  · obtain ⟨c, name, rfl, starts, parts⟩ := named isName
    exact ⟨c, name, .inl rfl, starts, parts⟩
  · obtain ⟨c, name, same, starts, parts⟩ := named isName
    cases t with
    | nil => cases first
    | cons d t =>
        cases first
        rw [List.drop_succ_cons, List.drop_zero] at same
        exact ⟨c, name, .inr (by rw [same]), starts, parts⟩

theorem endsSign_append {t rest : Text} (is : isWordText t = true) :
    endsSign (t ++ rest) = true := by
  have noStart : ∀ c ∈ signParts, Bounds.has CodePoint.nameStartBounds c.val = false := by
    decide +kernel
  obtain ⟨c, name, rfl | rfl, starts, _⟩ := exists_of_isWordText is
  · have apart := not_otherStart_of_nameStart starts
    have noPart : c ∉ signParts := by
      intro mem
      rw [noStart c mem] at starts
      cases starts
    have noDigit : c.isAsciiDigit = false := by
      simp only [otherStarts, List.mem_cons, List.not_mem_nil, or_false, not_or] at apart
      simp only [CodePoint.isAsciiDigit, Bool.and_eq_false_iff, decide_eq_false_iff_not]
      omega
    simp [endsSign, noDigit, noPart]
  · rfl

/-! ## Pieces -/

/-- A stretch of a source text. -/
inductive Piece where
  /-- White space. -/
  | blank (t : Text)
  /-- A comment up to the end of its line. -/
  | comment (t : Text)
  /-- A word. -/
  | word (t : Text)
  /-- A sign. -/
  | sign (s : String)
  /-- A string literal. -/
  | literal (t : Text)

namespace Piece

/-- How a piece is written. -/
def text : Piece → Text
  | blank t | comment t | word t | literal t => t
  | sign s => s

/-- In front of some text a piece is cut as what it is. -/
def Fits (rest : Text) : Piece → Prop
  | blank t => ∀ c ∈ t, isBlankChar c = true
  | comment t => Text.ofString "//" <+: t ∧ (∀ c ∈ t, endsLine c = false) ∧
      rest.head?.any endsLine = true
  | word t => isWordText t = true ∧ endsWord rest = true
  | sign s => s ∈ plainSigns ∧ endsSign rest = true
  | literal t => Literal.IsRegular t ∧ Literal.endsLiteral rest = true

theorem fits_blank {rest t : Text} : Fits rest (.blank t) ↔ ∀ c ∈ t, isBlankChar c = true :=
  Iff.rfl

end Piece

/-- What some pieces are written as. -/
def textOf (pieces : List Piece) : Text :=
  pieces.flatMap Piece.text

@[simp]
theorem textOf_nil : textOf [] = [] :=
  rfl

@[simp]
theorem textOf_cons (piece : Piece) (pieces : List Piece) :
    textOf (piece :: pieces) = piece.text ++ textOf pieces :=
  rfl

@[simp]
theorem textOf_append (front behind : List Piece) :
    textOf (front ++ behind) = textOf front ++ textOf behind :=
  List.flatMap_append

/-- In front of some text every piece fits to what follows it. -/
def Fit (rest : Text) : List Piece → Prop
  | [] => True
  | piece :: behind => piece.Fits (textOf behind ++ rest) ∧ Fit rest behind

theorem fit_append {rest : Text} {front behind : List Piece} :
    Fit rest (front ++ behind) ↔ Fit (textOf behind ++ rest) front ∧ Fit rest behind := by
  induction front with
  | nil => simp [Fit]
  | cons piece front ih => simp [Fit, ih, and_assoc]

/-! ## Fixed pieces -/

/-- Whether white space, a word of letters or a sign fits in front of some text. -/
def Piece.fitsPlainly (rest : Text) : Piece → Bool
  | blank t => t.all isBlankChar
  | word t => isPlainWord t && endsWord rest
  | sign s => plainSigns.contains s && endsSign rest
  | comment _ | literal _ => false

/-- Whether white space, words of letters and signs fit in front of some text. -/
def fitPlainly (rest : Text) : List Piece → Bool
  | [] => true
  | piece :: behind => piece.fitsPlainly (textOf behind ++ rest) && fitPlainly rest behind

/-- Of what follows a piece only the first character matters. -/
theorem Piece.fits_of_plainly {piece : Piece} {front rest : Text} {c : CodePoint}
    (plain : piece.fitsPlainly (front ++ [c]) = true) : piece.Fits (front ++ c :: rest) := by
  have same : (front ++ [c]).head? = (front ++ c :: rest).head? := by
    cases front <;> rfl
  cases piece with
  | blank t => exact List.all_eq_true.mp plain
  | word t =>
      rw [fitsPlainly, endsWord, same, Bool.and_eq_true] at plain
      exact plain.imp_left isWordText_of_plain
  | sign s =>
      rw [fitsPlainly, endsSign, same, Bool.and_eq_true, List.contains_iff_mem] at plain
      exact plain
  | comment t => cases plain
  | literal t => cases plain

theorem fit_of_plainly {pieces : List Piece} {rest : Text} {c : CodePoint}
    (plain : fitPlainly [c] pieces = true) : Fit (c :: rest) pieces := by
  induction pieces with
  | nil => trivial
  | cons piece pieces ih =>
      rw [fitPlainly, Bool.and_eq_true] at plain
      exact ⟨Piece.fits_of_plainly plain.1, ih plain.2⟩

/-! ## Tokens of pieces -/

/-- The tokens of pieces from a place on. -/
def placed (cursor : Cursor) : List Piece → List Token
  | [] => []
  | piece :: behind =>
    let later := placed (cursor.advance piece.text.length) behind
    match piece with
    | .blank _ | .comment _ => later
    | .word t => .word (cursor.place t.length) t :: later
    | .sign s => .sign (cursor.place s.length) s :: later
    | .literal t => .string (cursor.place t.length) :: later

section

variable (cursor : Cursor) (t : Text) (pieces : List Piece)

theorem placed_nil : placed cursor [] = [] :=
  rfl

theorem placed_blank :
    placed cursor (.blank t :: pieces) = placed (cursor.advance t.length) pieces :=
  rfl

theorem placed_word : placed cursor (.word t :: pieces) =
    .word (cursor.place t.length) t :: placed (cursor.advance t.length) pieces :=
  rfl

theorem placed_sign (s : String) : placed cursor (.sign s :: pieces) =
    .sign (cursor.place s.length) s :: placed (cursor.advance (Text.ofString s).length) pieces :=
  rfl

end

namespace Cursor

theorem advance_zero (cursor : Cursor) : cursor.advance 0 = cursor := by
  simp [advance]

theorem advance_advance (cursor : Cursor) (m n : Nat) :
    (cursor.advance m).advance n = cursor.advance (m + n) := by
  simp [advance, List.take_add, Nat.add_assoc]

end Cursor

theorem placed_append (cursor : Cursor) (front behind : List Piece) :
    placed cursor (front ++ behind) =
      placed cursor front ++ placed (cursor.advance (textOf front).length) behind := by
  induction front generalizing cursor with
  | nil => simp [placed, Cursor.advance_zero]
  | cons piece front ih => cases piece <;> simp [placed, ih, Cursor.advance_advance]

/-! ## Cutting separators -/

variable {rest : Text} {cursor : Cursor}

theorem cuts_blank {t : Text} (blank : ∀ c ∈ t, isBlankChar c = true)
    (shape : cursor.rest = t ++ rest) : Cuts cursor [] (cursor.advance t.length) := by
  induction t generalizing cursor with
  | nil =>
      rw [List.length_nil, Cursor.advance_zero]
      exact .done cursor
  | cons c t ih =>
      have separates : separatorLength? (cursor.position == 0) cursor.rest = some (0 + 1) := by
        rw [shape]
        exact if_pos (blank c List.mem_cons_self)
      have later : (cursor.advance (0 + 1)).rest = t ++ rest := by
        rw [Cursor.advance, shape]
        rfl
      have behind := ih (fun d mem => blank d (List.mem_cons_of_mem c mem)) later
      rw [Cursor.advance_advance] at behind
      rw [List.length_cons, Nat.add_comm]
      exact .separator separates behind

theorem cuts_comment {body : Text} (joins : ∀ c ∈ Text.ofString "//" ++ body, endsLine c = false)
    (ends : rest.head?.any endsLine = true)
    (shape : cursor.rest = Text.ofString "//" ++ body ++ rest) :
    Cuts cursor [] (cursor.advance (Text.ofString "//" ++ body).length) := by
  have length : lineLength (Text.ofString "//" ++ body ++ rest) =
      (Text.ofString "//" ++ body).length := by
    have inside : ∀ c ∈ Text.ofString "//" ++ body, (!endsLine c) = true := by simpa using joins
    cases rest with
    | nil => cases ends
    | cons c rest =>
        have stops : endsLine c = true := by simpa using ends
        rw [lineLength, List.takeWhile_append_of_pos inside,
          List.takeWhile_cons_of_neg (by simp [stops]), List.append_nil]
  have separates : separatorLength? (cursor.position == 0) cursor.rest =
      some (lineLength (Text.ofString "//" ++ body ++ rest)) := by
    rw [shape]
    rfl
  rw [length] at separates
  exact .separator separates (.done _)

/-! ## Cutting words and signs -/

/-- The word or the sign at a place. -/
def wordOrSign? (cursor : Cursor) : Option (Token × Nat) :=
  match wordLength cursor.rest with
  | 0 => (signAt? cursor.rest).map fun s => (.sign (cursor.place s.length) s, s.length)
  | n => some (.word (cursor.place n) (cursor.rest.take n), n)

section

variable {c : CodePoint} {behind : Text} (plain : c.val ∉ otherStarts)
include plain

theorem separatorLength?_plain (first : Bool) :
    separatorLength? first (c :: behind) = some 0 := by
  simp only [otherStarts, List.mem_cons, List.not_mem_nil, or_false, not_or] at plain
  have notBlank : isBlankChar c = false := by
    simp only [isBlankChar, Bool.or_eq_false_iff, Bool.and_eq_false_iff, decide_eq_false_iff_not,
      beq_eq_false_iff_ne]
    omega
  simp [separatorLength?, notBlank, plain]

theorem interpolationAt?_plain : interpolationAt? (c :: behind) = none := by
  have notDollar : c ≠ ('$' : CodePoint) := by
    rintro rfl
    exact plain (by decide)
  simp only [otherStarts, List.mem_cons, List.not_mem_nil, or_false, not_or] at plain
  simp [interpolationAt?, runLength, notDollar, plain]

/-- A token that begins with no other kind of character is a word or a sign. -/
theorem simpleToken?_plain
    (noFraction : c.val = 46 → behind.head?.any CodePoint.isAsciiDigit = false)
    (shape : cursor.rest = c :: behind) : simpleToken? cursor = wordOrSign? cursor := by
  simp only [otherStarts, List.mem_cons, List.not_mem_nil, or_false, not_or] at plain
  have noDigit : c.isAsciiDigit = false := by
    simp only [CodePoint.isAsciiDigit, Bool.and_eq_false_iff, decide_eq_false_iff_not]
    omega
  have noNumber : (c.isAsciiDigit ||
      (decide (c.val = 46) && behind.head?.any CodePoint.isAsciiDigit)) = false := by
    by_cases dot : c.val = 46
    · simp [noDigit, dot, noFraction dot]
    · simp [noDigit, dot]
  obtain ⟨text, position, line⟩ := cursor
  cases shape
  simp only [simpleToken?, plain, noNumber, decide_false, Bool.false_and, Bool.or_false,
    Bool.false_eq_true, if_false]
  rfl

end

theorem takeWhile_parts {name : Text}
    (parts : (name.all fun d => Bounds.has CodePoint.namePartBounds d.val) = true)
    (ends : endsWord rest = true) :
    (name ++ rest).takeWhile (fun e => Bounds.has CodePoint.namePartBounds e.val) = name := by
  rw [List.takeWhile_append_of_pos (by simpa using parts)]
  cases rest with
  | nil => simp
  | cons c rest =>
      have delimits : c ∈ delimiters := by simpa [endsWord] using ends
      simp [not_namePart_of_delimiter c delimits]

theorem wordLength_append {t : Text} (is : isWordText t = true) (ends : endsWord rest = true) :
    wordLength (t ++ rest) = t.length := by
  obtain ⟨c, name, rfl | rfl, starts, parts⟩ := exists_of_isWordText is
  · have notAt : c.val ≠ 64 := by
      intro same
      exact not_otherStart_of_nameStart starts (by simp [otherStarts, same])
    simp [wordLength, notAt, starts, takeWhile_parts parts ends]
    omega
  · have isAt : ('@' : CodePoint).val = 64 := rfl
    simp [wordLength, isAt, starts, takeWhile_parts parts ends]
    omega

/-- In front of a delimiter a word is cut as one token.  With `@` in front it might begin a verbatim
string, which its second character excludes. -/
theorem cuts_word {t : Text} (is : isWordText t = true) (ends : endsWord rest = true)
    (shape : cursor.rest = t ++ rest) :
    Cuts cursor [.word (cursor.place t.length) t] (cursor.advance t.length) := by
  have length := wordLength_append is ends
  have whole : (t ++ rest).take t.length = t := List.take_left
  rw [← shape] at length whole
  obtain ⟨c, name, spelled, starts, _⟩ := exists_of_isWordText is
  have plain := not_otherStart_of_nameStart starts
  obtain ⟨n, long⟩ : ∃ n, t.length = n + 1 := by
    rcases spelled with rfl | rfl <;> exact ⟨_, rfl⟩
  rw [long] at length whole ⊢
  rcases spelled with same | same
  · have noFraction : c.val ≠ 46 := by
      have noStart : Bounds.has CodePoint.nameStartBounds 46 = false := by decide +kernel
      intro dot
      rw [dot, noStart] at starts
      cases starts
    rw [same, List.cons_append] at shape
    have reads : simpleToken? cursor = some (.word (cursor.place (n + 1)) t, n + 1) := by
      rw [simpleToken?_plain plain (fun dot => absurd dot noFraction) shape]
      simp [wordOrSign?, length, whole]
    exact .token (shape ▸ separatorLength?_plain plain _) (shape ▸ interpolationAt?_plain plain)
      reads (.done _)
  · have isAt : ('@' : CodePoint).val = 64 := rfl
    have noDigit : ('@' : CodePoint).isAsciiDigit = false := rfl
    have notDollar : ('@' : CodePoint) ≠ ('$' : CodePoint) := by decide
    simp only [otherStarts, List.mem_cons, List.not_mem_nil, or_false, not_or] at plain
    rw [same, List.cons_append, List.cons_append] at shape
    have joins : separatorLength? (cursor.position == 0) cursor.rest = some 0 := by
      rw [shape]
      rfl
    have noHoles : interpolationAt? cursor.rest = none := by
      rw [shape]
      simp [interpolationAt?, runLength, notDollar, isAt, plain]
    have reads : simpleToken? cursor = some (.word (cursor.place (n + 1)) t, n + 1) := by
      rw [shape] at length whole
      unfold simpleToken?
      rw [shape]
      simp [isAt, noDigit, plain, length, whole]
    exact .token joins noHoles reads (.done _)

theorem isPrefixOf_append {u : Text} (parts : ∀ d ∈ u, d ∈ signParts)
    (ends : endsSign rest = true) (t : Text) : u.isPrefixOf (t ++ rest) = u.isPrefixOf t := by
  induction u generalizing t with
  | nil => simp
  | cons d u ih =>
      cases t with
      | nil =>
          cases rest with
          | nil => rfl
          | cons c rest =>
              have differs : d ≠ c := by
                rintro rfl
                have part := parts d List.mem_cons_self
                simp [endsSign, part] at ends
              simp [List.isPrefixOf, differs]
      | cons e t =>
          rw [List.cons_append, List.isPrefixOf, List.isPrefixOf,
            ih fun c mem => parts c (List.mem_cons_of_mem d mem)]

/-- The sign at the beginning of a text is found as if nothing followed it. -/
theorem signAt?_append {s : String} (plain : s ∈ plainSigns) (ends : endsSign rest = true) :
    signAt? (Text.ofString s ++ rest) = some s := by
  have own : ∀ s ∈ plainSigns, signAt? (Text.ofString s) = some s ∧ Text.ofString s ≠ [] := by
    decide
  have parts : ∀ u ∈ signs, ∀ d ∈ (Text.ofString u).tail, d ∈ signParts := by decide
  obtain ⟨found, nonempty⟩ := own s plain
  rw [← found]
  apply List.find?_congr
  intro u mem
  have ofTail := parts u mem
  generalize Text.ofString u = u at *
  generalize Text.ofString s = t at *
  cases t with
  | nil => exact absurd rfl nonempty
  | cons e t =>
      cases u with
      | nil => rfl
      | cons d u =>
          rw [List.tail_cons] at ofTail
          rw [List.cons_append, List.isPrefixOf, List.isPrefixOf, isPrefixOf_append ofTail ends]

theorem exists_of_mem_plainSigns {s : String} (plain : s ∈ plainSigns) :
    ∃ c behind, Text.ofString s = c :: behind ∧ c.val ∉ otherStarts ∧
      Bounds.has CodePoint.nameStartBounds c.val = false ∧ (c.val = 46 → behind = []) ∧
      ∃ n, s.length = n + 1 := by
  have all : ∀ s ∈ plainSigns, ∃ c ∈ (Text.ofString s).head?, c.val ∉ otherStarts ∧
      Bounds.has CodePoint.nameStartBounds c.val = false ∧
      (c.val = 46 → (Text.ofString s).tail = []) ∧ s.length ≠ 0 := by
    decide +kernel
  obtain ⟨c, isHead, apart, noName, dot, long⟩ := all s plain
  obtain ⟨behind, split⟩ := List.head?_eq_some_iff.mp isHead
  rw [split, List.tail_cons] at dot
  exact ⟨c, behind, split, apart, noName, dot, Nat.exists_eq_succ_of_ne_zero long⟩

theorem cuts_sign {s : String} (isPlain : s ∈ plainSigns) (ends : endsSign rest = true)
    (shape : cursor.rest = Text.ofString s ++ rest) :
    Cuts cursor [.sign (cursor.place s.length) s] (cursor.advance s.length) := by
  have found := signAt?_append isPlain ends
  obtain ⟨c, behind, split, plain, noName, dot, n, long⟩ := exists_of_mem_plainSigns isPlain
  have noFraction : c.val = 46 → (behind ++ rest).head?.any CodePoint.isAsciiDigit = false := by
    intro isDot
    rw [dot isDot, List.nil_append]
    cases rest with
    | nil => rfl
    | cons d rest =>
        simp only [endsSign, List.head?_cons, Option.any_some, Bool.not_eq_true',
          Bool.or_eq_false_iff] at ends
        exact ends.1
  have noWord : wordLength (c :: (behind ++ rest)) = 0 := by
    have notAt : c.val ≠ 64 := fun same => plain (by simp [otherStarts, same])
    simp [wordLength, notAt, noName]
  rw [split, List.cons_append] at shape found
  have reads : simpleToken? cursor = some (.sign (cursor.place (n + 1)) s, n + 1) := by
    rw [simpleToken?_plain plain noFraction shape]
    simp [wordOrSign?, shape, noWord, found, long]
  rw [long]
  exact .token (shape ▸ separatorLength?_plain plain _) (shape ▸ interpolationAt?_plain plain)
    reads (.done _)

/-! ## Cutting pieces -/

theorem cuts_piece {piece : Piece} (fits : piece.Fits rest)
    (shape : cursor.rest = piece.text ++ rest) :
    Cuts cursor (placed cursor [piece]) (cursor.advance piece.text.length) := by
  cases piece with
  | blank t => exact cuts_blank fits shape
  | comment t =>
      obtain ⟨⟨body, rfl⟩, joins, ends⟩ := fits
      exact cuts_comment joins ends shape
  | word t => exact cuts_word fits.1 fits.2 shape
  | sign s =>
      have length : s.length = (Text.ofString s).length := by
        rw [Text.ofString, List.length_map, String.length_toList]
      rw [Piece.text, ← length]
      exact cuts_sign fits.1 fits.2 shape
  | literal t =>
      obtain ⟨text, position, line⟩ := cursor
      cases shape
      exact Literal.cuts_regular fits.1 fits.2 position line

theorem cuts_placed {pieces : List Piece} (fit : Fit rest pieces)
    (shape : cursor.rest = textOf pieces ++ rest) :
    Cuts cursor (placed cursor pieces) (cursor.advance (textOf pieces).length) := by
  induction pieces generalizing cursor with
  | nil =>
      rw [textOf_nil, List.length_nil, Cursor.advance_zero]
      exact .done cursor
  | cons piece pieces ih =>
      rw [textOf_cons, List.append_assoc] at shape
      have later : (cursor.advance piece.text.length).rest = textOf pieces ++ rest := by
        rw [Cursor.advance, shape, List.drop_left]
      have cuts := (cuts_piece fit.1 shape).trans (ih fit.2 later)
      have split := placed_append cursor [piece] pieces
      rw [textOf_cons, textOf_nil, List.append_nil] at split
      rw [Cursor.advance_advance, ← split] at cuts
      rw [textOf_cons, List.length_append]
      exact cuts

/-- A text of pieces that fit is cut into their tokens. -/
theorem tokens_textOf {pieces : List Piece} (fit : Fit [] pieces) :
    tokens (textOf pieces) = some (placed { rest := textOf pieces } pieces) := by
  have whole : Cursor.rest { rest := textOf pieces } = textOf pieces ++ [] :=
    (List.append_nil _).symm
  refine tokens_of_cuts (cuts_placed fit whole) List.drop_length ?_
  change 0 + (textOf pieces).length ≤ _
  omega

/-! ## Words in a row -/

/-- Words with a piece between neighbours. -/
def separated (separator : Piece) : List Text → List Piece
  | [] => []
  | [t] => [.word t]
  | t :: rest => .word t :: separator :: separated separator rest

theorem textOf_separated (separator : Piece) (words : List Text) :
    textOf (separated separator words) = Text.join separator.text words := by
  induction words using separated.induct with
  | case1 => rfl
  | case2 t => simp [separated, Text.join, Piece.text]
  | case3 t rest further ih =>
      rw [separated.eq_3 _ _ _ further, Text.join.eq_3 _ _ _ further]
      simp [Piece.text, ih]

section

variable {words : List Text}

theorem exists_textOf_separated (separator : Piece) (nonempty : words ≠ []) :
    ∃ first ∈ words, ∃ behind, textOf (separated separator words) = first ++ behind := by
  cases words with
  | nil => exact absurd rfl nonempty
  | cons first words =>
      cases words with
      | nil => exact ⟨first, by simp, [], rfl⟩
      | cons second words => exact ⟨first, by simp, _, rfl⟩

/-- Words fit in a row if what is between them ends one word and fits to another. -/
theorem fit_separated {separator : Piece} (are : ∀ t ∈ words, isWordText t = true)
    (ends : endsWord rest = true) (endsFirst : ∀ behind, endsWord (separator.text ++ behind) = true)
    (fits : ∀ t behind, isWordText t = true → separator.Fits (t ++ behind)) :
    Fit rest (separated separator words) := by
  induction words using separated.induct with
  | case1 => trivial
  | case2 t => exact ⟨⟨are t (by simp), ends⟩, trivial⟩
  | case3 t words further ih =>
      have nonempty : words ≠ [] := by
        rintro rfl
        exact further rfl
      obtain ⟨first, mem, behind, begins⟩ := exists_textOf_separated separator nonempty
      rw [separated.eq_3 _ _ _ further]
      refine ⟨⟨are t (by simp), ?_⟩, ?_, ih fun u mem => are u (List.mem_cons_of_mem t mem)⟩
      · rw [textOf_cons, List.append_assoc]
        exact endsFirst _
      · rw [begins, List.append_assoc]
        exact fits first _ (are first (List.mem_cons_of_mem t mem))

theorem fit_dotted (are : ∀ t ∈ words, isWordText t = true) (ends : endsWord rest = true) :
    Fit rest (separated (.sign ".") words) :=
  fit_separated are ends (fun _ => rfl) fun _ _ is => ⟨by decide, endsSign_append is⟩

theorem fit_spaced (are : ∀ t ∈ words, isWordText t = true) (ends : endsWord rest = true) :
    Fit rest (separated (.blank " ") words) :=
  fit_separated are ends (fun _ => rfl) fun _ _ _ => Piece.fits_blank.mpr (by decide)

/-- A token stands at the beginning of the words and one at their end. -/
theorem exists_ends_separated (separator : Piece) (nonempty : words ≠ []) (cursor : Cursor) :
    ∃ first last, (placed cursor (separated separator words)).head? = some first ∧
      (placed cursor (separated separator words)).getLast? = some last ∧
      first.place.start = cursor.position ∧
      last.place.stop = (cursor.advance (textOf (separated separator words)).length).position := by
  induction words using separated.induct generalizing cursor with
  | case1 => exact absurd rfl nonempty
  | case2 t =>
      refine ⟨_, _, rfl, rfl, rfl, ?_⟩
      simp [separated, placed, Piece.text, Cursor.advance, Cursor.place]
  | case3 t words further ih =>
      have nonempty : words ≠ [] := by
        rintro rfl
        exact further rfl
      rw [separated.eq_3 _ _ _ further]
      have split := placed_append cursor [.word t, separator] (separated separator words)
      obtain ⟨first, last, _, isLast, _, stops⟩ :=
        ih nonempty (cursor.advance (textOf [.word t, separator]).length)
      rw [List.cons_append, List.cons_append, List.nil_append] at split
      rw [split]
      refine ⟨_, last, rfl, ?_, rfl, ?_⟩
      · rw [List.getLast?_append, isLast]
        rfl
      · rw [stops, Cursor.advance_advance]
        simp [Nat.add_assoc]

open Grammar

theorem named_dotted (nonempty : words ≠ []) (notKeywords : ∀ t ∈ words, t ∉ keywords)
    (cursor : Cursor) : Named (placed cursor (separated (.sign ".") words)) := by
  induction words using separated.induct generalizing cursor with
  | case1 => exact absurd rfl nonempty
  | case2 t => exact .name (notKeywords t (by simp))
  | case3 t words further ih =>
      have nonempty : words ≠ [] := by
        rintro rfl
        exact further rfl
      rw [separated.eq_3 _ _ _ further]
      exact .dot (notKeywords t (by simp))
        (ih nonempty (fun u mem => notKeywords u (List.mem_cons_of_mem t mem)) _)

theorem modifying_spaced (are : ∀ t ∈ words, t ∈ modifierWords) (cursor : Cursor) :
    Modifying (placed cursor (separated (.blank " ") words)) := by
  induction words using separated.induct generalizing cursor with
  | case1 =>
      intro word mem
      cases mem
  | case2 t =>
      intro word mem
      rw [List.mem_singleton.mp mem]
      simpa using are t (by simp)
  | case3 t words further ih =>
      rw [separated.eq_3 _ _ _ further]
      intro word mem
      rcases List.mem_cons.mp mem with rfl | mem
      · simpa using are t (by simp)
      · exact ih (fun u isWord => are u (List.mem_cons_of_mem t isWord)) _ word mem

end

end ClassHarvest.CSharp
