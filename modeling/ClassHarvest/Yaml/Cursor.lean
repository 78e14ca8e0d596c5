import ClassHarvest.Yaml.LoadError

/-!
# Places in a document

A cursor is a place in a document: the text that follows, and the line and column.  Readers move it.
-/

namespace ClassHarvest.Yaml

/-! ## Characters -/

/-- A character that ends a line. -/
def isBreak (c : CodePoint) : Bool :=
  c.val = 10 || c.val = 13 || c.val = 0x85 || c.val = 0x2028 || c.val = 0x2029

/-- A space or tab. -/
def isSpaceOrTab (c : CodePoint) : Bool :=
  c.val = 32 || c.val = 9

/-- A space. -/
def isSpace (c : CodePoint) : Bool :=
  c.val = 32

/-- A character of an ASCII set. -/
def isOneOf (set : String) (c : CodePoint) : Bool :=
  set.toList.contains c.ascii

/-- A character of the name of an anchor, a directive or a tag handle. -/
def isNameChar (c : CodePoint) : Bool :=
  c.isAsciiAlnum || isOneOf "-_" c

/-- The byte order mark. -/
def isByteOrderMark (c : CodePoint) : Bool :=
  c.val = 0xFEFF

/-- Characters that a document may hold. -/
def isAllowed (c : CodePoint) : Bool :=
  let n := c.val
  n = 9 || n = 10 || n = 13 || (32 ≤ n && n ≤ 126) || n = 0x85 || (0xA0 ≤ n && n ≤ 0xD7FF) ||
    (0xE000 ≤ n && n ≤ 0xFFFD) || 0x10000 ≤ n

/-- Whether a text ends or goes on with a line end. -/
def atLineEnd (t : Text) : Bool :=
  t.head?.all isBreak

/-- Whether a text ends or goes on with a line end or a space. -/
def atSpace (t : Text) : Bool :=
  t.head?.all fun c => isBreak c || isSpace c

/-- Whether a text ends or goes on with white space. -/
def atBlank (t : Text) : Bool :=
  t.head?.all fun c => isBreak c || isSpaceOrTab c

/-- Whether a text begins with three times the same mark, and white space after it. -/
def isMarkLine (mark : CodePoint) (t : Text) : Bool :=
  List.isPrefixOf [mark, mark, mark] t && atBlank (t.drop 3)

/-- Whether a document begins here explicitly. -/
def isDocumentStart (t : Text) : Bool :=
  isMarkLine '-' t

/-- Whether a document ends here explicitly. -/
def isDocumentEnd (t : Text) : Bool :=
  isMarkLine '.' t

/-- Whether a document begins or ends here explicitly. -/
def isDocumentMark (t : Text) : Bool :=
  isDocumentStart t || isDocumentEnd t

/-! ## Cursors -/

/-- A place in a document. -/
structure Cursor where
  /-- What follows. -/
  rest : Text
  /-- The number of characters before. -/
  index : Nat := 0
  /-- The number of lines before. -/
  line : Nat := 0
  /-- The number of characters before on the same line, byte order marks not counted. -/
  column : Nat := 0
deriving Repr

/-- The place after the next character. -/
def Cursor.next (cursor : Cursor) : Cursor :=
  match cursor.rest with
  | [] => cursor
  | c :: rest =>
    let further := { cursor with rest, index := cursor.index + 1 }
    if isBreak c && !(c.val = 13 && rest.head?.any (·.val = 10)) then
      { further with line := cursor.line + 1, column := 0 }
    else if isByteOrderMark c then further
    else { further with column := cursor.column + 1 }

/-- The place some characters further on. -/
def Cursor.advance : Nat → Cursor → Cursor
  | 0, cursor => cursor
  | n + 1, cursor => advance n cursor.next

/-! ## Readers -/

/-- A reader of something at a place. -/
abbrev Lexing := StateT Cursor (Except LoadError)

namespace Lexing

/-- Refuse the document. -/
def fail {α : Type} : Lexing α :=
  throw .malformed

/-- Refuse the document unless something holds. -/
def expect (holds : Bool) : Lexing Unit :=
  if holds then pure () else fail

/-- What follows. -/
def rest : Lexing Text :=
  return (← get).rest

/-- The next character. -/
def peek? : Lexing (Option CodePoint) :=
  return (← get).rest.head?

/-- The column of the place. -/
def column : Lexing Nat :=
  return (← get).column

/-- Go some characters further. -/
def skip (n : Nat) : Lexing Unit :=
  modify (Cursor.advance n)

/-- Go on while the characters satisfy a test, and give them. -/
def takeWhile (p : CodePoint → Bool) : Lexing Text := do
  let taken := (← rest).takeWhile p
  skip taken.length
  return taken

/-- Go on while the characters satisfy a test. -/
def skipWhile (p : CodePoint → Bool) : Lexing Unit := do
  let _ ← takeWhile p

/-- Go past a line end, if there is one, and give what it stands for. -/
def lineBreak? : Lexing (Option CodePoint) := do
  match ← rest with
  | [] => return none
  | c :: after =>
    if c.val = 13 && after.head?.any (·.val = 10) then
      skip 2
      return some '\n'
    else if c.val = 0x2028 || c.val = 0x2029 then
      skip 1
      return some c
    else if isBreak c then
      skip 1
      return some '\n'
    else return none

/-- Go past a comment, if there is one. -/
def skipComment : Lexing Unit := do
  if (← peek?).any (isOneOf "#") then skipWhile fun c => !isBreak c

/-- Go past the end of a line on which nothing but a comment may stand. -/
def skipLine : Lexing Unit := do
  skipWhile isSpace
  skipComment
  expect (atLineEnd (← rest))
  let _ ← lineBreak?

end Lexing
end ClassHarvest.Yaml
