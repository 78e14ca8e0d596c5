import ClassHarvest.Text.Utf8
import ClassHarvest.Yaml.Scalar

/-!
# Tokens

A document is cut into tokens.  Indentation shows up as tokens that begin and end blocks.  What turns
out to be a key only at the colon behind it gets its token, and that of the block it begins, in front of
it afterwards; such a key must be on one line and not too long.
-/

namespace ClassHarvest.Yaml

open Lexing

/-- A directive in front of a document. -/
inductive Directive where
  /-- The version of the format. -/
  | version (major minor : Nat)
  /-- The beginning of tags that a handle stands for. -/
  | tag (handle start : Text)
  /-- Any other directive. -/
  | other
deriving DecidableEq, Repr

/-- A token. -/
inductive Token where
  /-- A directive. -/
  | directive (directive : Directive)
  /-- The beginning of a document. -/
  | documentStart
  /-- The end of a document. -/
  | documentEnd
  /-- The beginning of a sequence in block style. -/
  | blockSequence
  /-- The beginning of a mapping in block style. -/
  | blockMapping
  /-- The end of either. -/
  | blockEnd
  /-- The opening bracket of a sequence. -/
  | flowSequence
  /-- Its closing bracket. -/
  | flowSequenceEnd
  /-- The opening brace of a mapping. -/
  | flowMapping
  /-- Its closing brace. -/
  | flowMappingEnd
  /-- The comma between entries in brackets or braces. -/
  | flowEntry
  /-- The dash before an entry of a block. -/
  | blockEntry
  /-- The beginning of a key. -/
  | key
  /-- The colon before a value. -/
  | value
  /-- The name of something that stands here again. -/
  | aliasName (name : Text)
  /-- The name under which what follows may stand again. -/
  | anchor (name : Text)
  /-- The tag of what follows; a handle stands for the beginning of it. -/
  | tag (handle : Option Text) (suffix : Text)
  /-- A scalar. -/
  | scalar (text : Text) (plain : Bool)
  /-- The end of everything. -/
  | streamEnd
  /-- No token can be read here. -/
  | broken (error : LoadError)
deriving DecidableEq, Repr

/-! ## Directives, anchors and tags -/

/-- A number of a version. -/
def versionNumber : Lexing Nat := do
  let digits ← takeWhile CodePoint.isAsciiDigit
  expect (!digits.isEmpty)
  if Numeral.maxDigits < digits.length then throw (.tooManyDigits digits.length)
  return Text.decimalValue digits

/-- The handle of a tag: an exclamation mark, or a name between two. -/
def tagHandle : Lexing Text := do
  match ← rest with
  | [] => fail
  | c :: after =>
    expect (c.val = 33)
    skip 1
    if after.head?.any isSpace then return [c]
    let name ← takeWhile isNameChar
    expect ((← peek?) = some c)
    skip 1
    return c :: name ++ [c]

/-- Characters of a tag. -/
def isTagChar (c : CodePoint) : Bool :=
  c.isAsciiAlnum || isOneOf "-;/?:@&=+$,_.!~*'()[]" c

/-- The bytes that escapes with a percent sign give. -/
def escapedBytes : Nat → Lexing (List UInt8)
  | 0 => return []
  | bound + 1 => do
    match ← rest with
    | c :: after =>
      if c.val = 37 then
        let digits := after.take 2
        expect (digits.length = 2 && digits.all CodePoint.isHexDigit)
        skip 3
        return UInt8.ofNat (Text.hexValue digits) :: (← escapedBytes bound)
      else return []
    | [] => return []

/-- What stands for a tag from a place on. -/
def tagRest : Nat → Lexing Text
  | 0 => return []
  | bound + 1 => do
    let plain ← takeWhile isTagChar
    if (← peek?).any (isOneOf "%") then
      match Utf8.decode (← escapedBytes (← rest).length) with
      | .ok text => return plain ++ text ++ (← tagRest bound)
      | .error _ => fail
    else return plain

/-- A tag, or the rest of one. -/
def tagText : Lexing Text := do
  let t ← rest
  expect (t.head?.any fun c => isTagChar c || isOneOf "%" c)
  tagRest t.length.succ

/-- The directive that is next. -/
def readDirective : Lexing Directive := do
  skip 1
  let name ← takeWhile isNameChar
  expect (!name.isEmpty && atSpace (← rest))
  let directive ←
    if name = ("YAML" : Text) then do
      skipWhile isSpace
      let major ← versionNumber
      expect ((← peek?).any (isOneOf "."))
      skip 1
      let minor ← versionNumber
      expect (atSpace (← rest))
      pure (Directive.version major minor)
    else if name = ("TAG" : Text) then do
      skipWhile isSpace
      let handle ← tagHandle
      expect ((← peek?).any isSpace)
      skipWhile isSpace
      let start ← tagText
      expect (atSpace (← rest))
      pure (Directive.tag handle start)
    else do
      skipWhile fun c => !isBreak c
      pure Directive.other
  skipLine
  return directive

/-- The name behind the mark of an anchor or an alias. -/
def readName : Lexing Text := do
  skip 1
  let name ← takeWhile isNameChar
  expect (!name.isEmpty)
  let t ← rest
  expect (atBlank t || t.head?.any (isOneOf "?:,]\x7d%@\x60"))
  return name

/-- Whether an exclamation mark occurs in the rest of a tag. -/
def hasHandle (t : Text) : Bool :=
  (t.takeWhile fun c => !(isBreak c || isSpace c)).any fun c => c.val = 33

/-- The tag that is next. -/
def readTag : Lexing Token := do
  let after := (← rest).drop 1
  let tag ←
    if after.head?.any (isOneOf "<") then do
      skip 2
      let suffix ← tagText
      expect ((← peek?).any (isOneOf ">"))
      skip 1
      pure (Token.tag none suffix)
    else if atBlank after then do
      skip 1
      pure (Token.tag none "!")
    else if hasHandle after then do
      let handle ← tagHandle
      let suffix ← tagText
      pure (Token.tag (some handle) suffix)
    else do
      skip 1
      let suffix ← tagText
      pure (Token.tag (some "!") suffix)
  expect (atSpace (← rest))
  return tag

/-! ## The state between tokens -/

/-- What may turn out to be a key. -/
structure PossibleKey where
  /-- The number of tokens before it. -/
  position : Nat
  /-- Whether it must be a key. -/
  required : Bool
  /-- The place at which it begins. -/
  start : Cursor
deriving Repr

/-- What is known between two tokens. -/
structure Tokenizer where
  /-- The place in the document. -/
  cursor : Cursor
  /-- The tokens so far. -/
  tokens : List Token := []
  /-- The number of open brackets and braces. -/
  flowLevel : Nat := 0
  /-- The indentation of the innermost block. -/
  indent : Int := -1
  /-- The indentations of the blocks around it. -/
  outer : List Int := []
  /-- Whether a key may begin here. -/
  keyAllowed : Bool := true
  /-- What may turn out to be keys, by the number of open brackets and braces. -/
  possibleKeys : List (Nat × PossibleKey) := []
deriving Repr

/-- A step from token to token. -/
abbrev Tokenize := StateT Tokenizer (Except LoadError)

namespace Tokenize

/-- Use a reader at the place. -/
def read {α : Type} (reader : Lexing α) : Tokenize α := do
  match reader (← get).cursor with
  | .ok (x, cursor) =>
    modify fun s => { s with cursor }
    return x
  | .error error => throw error

/-- Add a token. -/
def emit (token : Token) : Tokenize Unit :=
  modify fun s => { s with tokens := s.tokens ++ [token] }

/-- Say whether a key may begin next. -/
def allowKey (allowed : Bool) : Tokenize Unit :=
  modify fun s => { s with keyAllowed := allowed }

/-- Whether the place is inside brackets or braces. -/
def inFlow : Tokenize Bool :=
  return 0 < (← get).flowLevel

/-- Whether something can no longer turn out to be a key. -/
def isStale (cursor : Cursor) (key : PossibleKey) : Bool :=
  key.start.line ≠ cursor.line || 1024 < cursor.index - key.start.index

/-- Give up what can no longer turn out to be a key. -/
def dropStaleKeys : Tokenize Unit := do
  let s ← get
  let stale := s.possibleKeys.filter fun (_, key) => isStale s.cursor key
  if stale.any (·.2.required) then throw .malformed
  set { s with possibleKeys := s.possibleKeys.filter fun (_, key) => !isStale s.cursor key }

/-- Give up what may turn out to be a key on the present level. -/
def dropKey : Tokenize Unit := do
  let s ← get
  let (here, elsewhere) := s.possibleKeys.partition fun (level, _) => level = s.flowLevel
  if here.any (·.2.required) then throw .malformed
  set { s with possibleKeys := elsewhere }

/-- Note that what is next may turn out to be a key. -/
def noteKey : Tokenize Unit := do
  if (← get).keyAllowed then
    dropKey
    let s ← get
    let key : PossibleKey := {
      position := s.tokens.length
      required := s.flowLevel = 0 && s.indent = s.cursor.column
      start := s.cursor }
    set { s with possibleKeys := s.possibleKeys ++ [(s.flowLevel, key)] }

/-- End the blocks that are indented more than a column. -/
def closeBlocks (column : Int) : Tokenize Unit := do
  let s ← get
  if s.flowLevel = 0 then
    let all := s.indent :: s.outer
    let closed := all.takeWhile (column < ·)
    let open_ := all.drop closed.length
    set { s with
      tokens := s.tokens ++ List.replicate closed.length Token.blockEnd
      indent := open_.headD (-1)
      outer := open_.drop 1 }

/-- Begin a block at a column unless the present one is indented as much, and say whether one was
begun. -/
def openBlock (column : Nat) : Tokenize Bool := do
  let s ← get
  if s.indent < column then
    set { s with indent := column, outer := s.indent :: s.outer }
    return true
  else return false

/-- In a block, begin a new one of some kind where needed; a key must be allowed here. -/
def beginBlock (start : Token) : Tokenize Unit := do
  let s ← get
  if s.flowLevel = 0 then
    if !s.keyAllowed then throw .malformed
    if ← openBlock s.cursor.column then emit start

/-- Put a token in front of those from a position on. -/
def insertAt (position : Nat) (token : Token) : Tokenize Unit :=
  modify fun s =>
    { s with tokens := s.tokens.take position ++ token :: s.tokens.drop position }

/-! ## Single tokens -/

/-- A token of one character that neither begins a block nor turns out to be a key. -/
def mark (token : Token) : Tokenize Unit := do
  read (skip 1)
  emit token

/-- An opening bracket or brace. -/
def openFlow (token : Token) : Tokenize Unit := do
  noteKey
  modify fun s => { s with flowLevel := s.flowLevel + 1 }
  allowKey true
  mark token

/-- A closing bracket or brace. -/
def closeFlow (token : Token) : Tokenize Unit := do
  dropKey
  if (← get).flowLevel = 0 then throw .malformed
  modify fun s => { s with flowLevel := s.flowLevel - 1 }
  allowKey false
  mark token

/-- The beginning or end of a document, or a directive in front of one. -/
def atTop : Tokenize Unit := do
  closeBlocks (-1)
  dropKey
  allowKey false

/-- The colon of a value: what is in front of it turns out to be a key, if it may be one. -/
def valueMark : Tokenize Unit := do
  let s ← get
  match s.possibleKeys.find? fun (level, _) => level = s.flowLevel with
  | some (_, key) =>
    set { s with possibleKeys := s.possibleKeys.filter fun (level, _) => level ≠ s.flowLevel }
    insertAt key.position .key
    if s.flowLevel = 0 then
      if ← openBlock key.start.column then insertAt key.position .blockMapping
    allowKey false
  | none =>
    beginBlock .blockMapping
    allowKey (s.flowLevel = 0)
    dropKey
  mark .value

/-- Something that may turn out to be a key, read as one token. -/
def content (reader : Lexing Token) : Tokenize Unit := do
  noteKey
  allowKey false
  emit (← read reader)

/-- A plain scalar.  A key may follow if it ended with its line. -/
def plain : Tokenize Unit := do
  noteKey
  let s ← get
  let (text, lineEnded) ← read (plainScalar (0 < s.flowLevel) (s.indent + 1).toNat)
  allowKey lineEnded
  emit (.scalar text true)

/-- A block scalar. -/
def block (folded : Bool) : Tokenize Unit := do
  allowKey true
  dropKey
  let text ← read (blockScalar folded ((← get).indent + 1).toNat)
  emit (.scalar text false)

/-- Go to what is next: past spaces, comments and line ends. -/
def skipToNext : Nat → Tokenize Unit
  | 0 => return
  | bound + 1 => do
    if (← get).cursor.index = 0 && (← get).cursor.rest.head?.any isByteOrderMark then read (skip 1)
    read (skipWhile isSpace)
    read skipComment
    if (← read lineBreak?).isSome then
      if !(← inFlow) then allowKey true
      skipToNext bound

/-- Whether a plain scalar begins at a text. -/
def beginsPlain (inFlow : Bool) (t : Text) : Bool :=
  match t with
  | [] => false
  | c :: rest =>
    !(isBreak c || isSpaceOrTab c || isOneOf "-?:,[]\x7b\x7d#&*!|>'\"%@\x60" c) ||
      (!atBlank rest && (c.val = 45 || (!inFlow && isOneOf "?:" c)))

/-- The next token, and whether more follow. -/
def step : Tokenize Bool := do
  skipToNext (← get).cursor.rest.length.succ
  dropStaleKeys
  let s ← get
  closeBlocks s.cursor.column
  let inFlow := 0 < s.flowLevel
  let atStart := s.cursor.column = 0
  match s.cursor.rest with
  | [] =>
    closeBlocks (-1)
    dropKey
    emit .streamEnd
    return false
  | c :: after =>
    let indicates := inFlow || atBlank after
    if atStart && c.val = 37 then
      atTop
      emit (.directive (← read readDirective))
    else if atStart && isDocumentStart s.cursor.rest then
      atTop
      read (skip 3)
      emit .documentStart
    else if atStart && isDocumentEnd s.cursor.rest then
      atTop
      read (skip 3)
      emit .documentEnd
    else
      match c.ascii with
      | '[' => openFlow .flowSequence
      | '\x7b' => openFlow .flowMapping
      | ']' => closeFlow .flowSequenceEnd
      | '\x7d' => closeFlow .flowMappingEnd
      | ',' =>
        allowKey true
        dropKey
        mark .flowEntry
      | '*' => content do return .aliasName (← readName)
      | '&' => content do return .anchor (← readName)
      | '!' => content readTag
      | '\'' => content do return .scalar (← quotedScalar false) false
      | '"' => content do return .scalar (← quotedScalar true) false
      | other =>
        if other = '-' && atBlank after then
          beginBlock .blockSequence
          allowKey true
          dropKey
          mark .blockEntry
        else if other = '?' && indicates then
          beginBlock .blockMapping
          allowKey (!inFlow)
          dropKey
          mark .key
        else if other = ':' && indicates then valueMark
        else if other = '|' && !inFlow then block false
        else if other = '>' && !inFlow then block true
        else if beginsPlain inFlow s.cursor.rest then plain
        else throw .malformed
    return true

/-- The tokens from a place on; the last one says why no more can be read, if it is not the end. -/
def all : Nat → Tokenizer → List Token
  | 0, s => s.tokens ++ [.broken .malformed]
  | bound + 1, s =>
    match step s with
    | .error error => s.tokens ++ [.broken error]
    | .ok (true, s) => all bound s
    | .ok (false, s) => s.tokens

end Tokenize

/-- The tokens of a text. -/
def tokens (t : Text) : List Token :=
  if t.all isAllowed then Tokenize.all t.length.succ ⟨⟨t, 0, 0, 0⟩, [], 0, -1, [], true, []⟩
  else [.broken .malformed]

end ClassHarvest.Yaml
