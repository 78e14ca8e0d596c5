import ClassHarvest.Pattern.Expression
import ClassHarvest.Pattern.Fault
import ClassHarvest.Text.Identifier
import ClassHarvest.Text.CharacterName

/-!
# Reading patterns

The regular expression that a pattern denotes.  A pattern is read as a sequence of tokens, each a
character or a backslash with the character behind it.  Groups nest, so the two mutually dependent
readers, for alternatives and for one branch of them, take the readers for what is nested deeper as
an argument; `readers` ties the knot to a depth that no pattern of that length exceeds.
-/

namespace ClassHarvest.Pattern

/-! ## Tokens -/

/-- A character, or a backslash and the character behind it. -/
inductive Token where
  /-- A character that is no backslash. -/
  | plain (c : CodePoint)
  /-- A backslash and a character. -/
  | escaped (c : CodePoint)
deriving DecidableEq, Repr

namespace Token

/-- The characters of a token. -/
def text : Token → Text
  | .plain c => [c]
  | .escaped c => [('\\' : CodePoint), c]

/-- The number of characters of a token. -/
def size : Token → Nat
  | .plain _ => 1
  | .escaped _ => 2

/-- A plain character as an ASCII character, U+FFFF for everything else. -/
def ascii : Token → Char
  | .plain c => c.ascii
  | .escaped _ => '\uFFFF'

end Token

/-- The least and the greatest number of characters that an expression matches, up to a limit. -/
structure Width where
  /-- The least number. -/
  least : Nat
  /-- The greatest number. -/
  most : Nat
deriving DecidableEq, Repr

/-- No width counts further than this. -/
def Width.limit : Nat := 0x10000000000000000

/-- What the reader knows: the next token, and the groups met so far. -/
structure ReadState where
  /-- The flags for the whole pattern. -/
  flags : Flags
  /-- Whether Unicode classes were asked for. -/
  unicode : Bool := false
  /-- The number of characters up to the end of the next token. -/
  index : Nat := 0
  /-- The token that is read next. -/
  next : Option Token := none
  /-- The number of every named group. -/
  names : List (Text × Nat) := []
  /-- The width of every group that is closed; group zero stays open. -/
  widths : List (Option Width) := [none]
  /-- Inside a look-behind: the number of groups before it. -/
  lookBehind : Option Nat := none
  /-- The groups that conditions name by number, each with the place of the first such condition. -/
  conditions : List (Nat × Nat) := []

/-- Readers of a pattern. -/
abbrev Read := ReaderT (Array CodePoint) (StateT ReadState (Except ReadError))

namespace Read

/-- Fail with a cause at a place. -/
def failAt {α : Type} (cause : Cause) (position : Nat) : Read α :=
  throw (.fault ⟨cause, some position⟩)

/-- Move on to the token that starts at a place. -/
def seek (position : Nat) : Read Unit := do
  let pattern ← read
  match pattern[position]? with
  | none => modify ({ · with index := position, next := none })
  | some c =>
    if c.val = 92 then
      match pattern[position + 1]? with
      | some d => modify ({ · with index := position + 2, next := some (.escaped d) })
      | none => failAt .escapeAtEnd (pattern.size - 1)
    else modify ({ · with index := position + 1, next := some (.plain c) })

/-- Move on to the following token. -/
def advance : Read Unit := do
  seek (← get).index

/-- The next token, left in place. -/
def peek : Read (Option Token) :=
  return (← get).next

/-- Take the next token. -/
def take : Read (Option Token) := do
  let token ← peek
  advance
  return token

/-- Take the next token if it is a given character. -/
def accept (c : Char) : Read Bool := do
  if (← peek) = some (.plain c) then
    advance
    return true
  else return false

/-- The place of the next token. -/
def tell : Read Nat := do
  let state ← get
  return state.index - (state.next.map Token.size).getD 0

/-- Fail with a cause some characters before the next token. -/
def fail {α : Type} (cause : Cause) (back : Nat := 0) : Read α := do
  failAt cause ((← tell) - back)

/-- Whether the next token is a plain character that satisfies `p`. -/
def peekIs (p : CodePoint → Bool) : Read Bool := do
  match ← peek with
  | some (.plain c) => return p c
  | _ => return false

/-- Take plain characters while they satisfy `p`, at most `bound`. -/
def takeWhile (p : CodePoint → Bool) : Nat → Read Text
  | 0 => return []
  | bound + 1 => do
    match ← peek with
    | some (.plain c) =>
      if p c then
        advance
        return c :: (← takeWhile p bound)
      else return []
    | _ => return []

/-- Take everything up to a terminator, which is taken too.  `what` names it in messages. -/
def takeUntil (terminator : CodePoint) (what : Text) (taken : Text := []) : Nat → Read Text
  | 0 => fail .tooDeep
  | bound + 1 => do
    match ← take with
    | none =>
      if taken.isEmpty then fail (.missingName what)
      else fail (.unterminatedName terminator) taken.length
    | some token =>
      if token = .plain terminator then
        if taken.isEmpty then fail (.missingName what) 1 else return taken
      else takeUntil terminator what (taken ++ token.text) bound

/-- A number of rounds that no loop over the pattern exceeds. -/
def rounds : Read Nat :=
  return (← read).size + 2

end Read

open Read

/-! ## Groups -/

/-- The width of a group that is closed. -/
def closedWidth? (state : ReadState) (index : Nat) : Option Width :=
  (state.widths[index]?).join

/-- Refuse a reference inside a look-behind to a group that it does not follow. -/
def checkLookBehind (index : Nat) : Read Unit := do
  let state ← get
  match state.lookBehind with
  | none => return
  | some groups =>
    if (closedWidth? state index).isNone then fail .openGroup
    else if groups ≤ index then fail .groupOfLookBehind
    else return

/-- Open the next group, under a name or without. -/
def openGroup (name : Option Text) : Read Nat := do
  let state ← get
  let index := state.widths.length
  match name with
  | none => set { state with widths := state.widths ++ [none] }
  | some name =>
    match state.names.lookup name with
    | some old => fail (.redefinition name index old) (name.length + 1)
    | none =>
      set { state with
        widths := state.widths ++ [none]
        names := state.names ++ [(name, index)] }
  return index

/-- Close a group whose content has a width. -/
def closeGroup (index : Nat) (width : Width) : Read Unit :=
  modify fun state => { state with widths := state.widths.set index (some width) }

/-! ## Widths -/

/-- The width of an expression, given those of the groups it refers to. -/
def Regex.width (widths : List (Option Width)) (r : Regex) : Width :=
  let w := go r
  ⟨min w.least Width.limit, min w.most Width.limit⟩
where
  /-- The width before it is limited. -/
  go : Regex → Width
    | .empty | .anchor _ | .lookAhead .. | .lookBehind .. => ⟨0, 0⟩
    | .char _ => ⟨1, 1⟩
    | .seq first second =>
      let a := go first
      let b := go second
      ⟨a.least + b.least, a.most + b.most⟩
    | .alt first second =>
      let a := go first
      let b := go second
      ⟨min a.least b.least, max a.most b.most⟩
    | .conditional _ yes no =>
      let a := go yes
      let b := go no
      ⟨min a.least b.least, max a.most b.most⟩
    | .repeat _ least most body =>
      let w := go body
      ⟨w.least * least,
        match most with
        | some n => w.most * n
        | none => if w.most = 0 then 0 else Width.limit⟩
    | .capture _ body | .scoped _ body | .atomic body => go body
    | .backReference index => ((widths[index]?).join).getD ⟨0, 0⟩

/-! ## Escapes -/

/-- What an escape stands for. -/
inductive Meaning where
  /-- A character. -/
  | character (c : CodePoint)
  /-- A class of characters. -/
  | named (cls : CharClass) (complement : Bool)
  /-- An anchor. -/
  | anchor (condition : Anchor)
  /-- A reference to a group. -/
  | group (index : Nat)

/-- Escapes for control characters and the backslash. -/
def controlEscape? (c : CodePoint) : Option CodePoint :=
  match c.ascii with
  | 'a' => some (.ofNat 7)
  | 'b' => some (.ofNat 8)
  | 'f' => some (.ofNat 12)
  | 'n' => some (.ofNat 10)
  | 'r' => some (.ofNat 13)
  | 't' => some (.ofNat 9)
  | 'v' => some (.ofNat 11)
  | '\\' => some c
  | _ => none

/-- Escapes for classes. -/
def classEscape? (c : CodePoint) : Option (CharClass × Bool) :=
  match c.ascii with
  | 'd' => some (.digit, false)
  | 'D' => some (.digit, true)
  | 's' => some (.space, false)
  | 'S' => some (.space, true)
  | 'w' => some (.word, false)
  | 'W' => some (.word, true)
  | _ => none

/-- Escapes for anchors. -/
def anchorEscape? (c : CodePoint) : Option Anchor :=
  match c.ascii with
  | 'A' => some .textStart
  | 'b' => some (.boundary false)
  | 'B' => some (.boundary true)
  | 'Z' => some .textEnd
  | _ => none

/-- The text of an escape with what was read behind it. -/
def escapeText (c : CodePoint) (more : Text) : Text :=
  ('\\' : CodePoint) :: c :: more

/-- A character by a given number of hexadecimal digits. -/
def hexEscape (c : CodePoint) (digits : Nat) : Read CodePoint := do
  let more ← Read.takeWhile CodePoint.isHexDigit digits
  let escape := escapeText c more
  if more.length < digits then fail (.incompleteEscape escape) escape.length
  let n := Text.hexValue more
  if 0x80000000 ≤ n then throw .characterTooLarge
  match CodePoint.ofNat? n with
  | some d => return d
  | none => fail (.badEscape escape) escape.length

/-- A character by its name in braces. -/
def nameEscape : Read CodePoint := do
  if !(← accept '\x7b') then fail .missingBrace
  let name ← takeUntil (.ofNat 0x7D) "character name" [] (← rounds)
  match CodePoint.ofName? name with
  | some c => return c
  | none => fail (.unknownCharacter name) (name.length + 4)

/-- An octal escape, of which the digits are known. -/
def octalEscape (digits : Text) : Read CodePoint := do
  let n := Text.octalValue digits
  if 255 < n then
    fail (.octalEscape (('\\' : CodePoint) :: digits)) (digits.length + 1)
  return .ofNat n

/-- The escapes that mean the same inside and outside of sets, all others being read by `digit`. -/
def commonEscape (c : CodePoint) (digit : Read Meaning) : Read Meaning := do
  match c.ascii with
  | 'x' => return .character (← hexEscape c 2)
  | 'u' => return .character (← hexEscape c 4)
  | 'U' => return .character (← hexEscape c 8)
  | 'N' => return .character (← nameEscape)
  | _ =>
    if c.isAsciiDigit then digit
    else if c.isAsciiLetter then fail (.badEscape (escapeText c [])) 2
    else return .character c

/-- An escape inside a set. -/
def setEscape (c : CodePoint) : Read Meaning := do
  match controlEscape? c, classEscape? c with
  | some d, _ => return .character d
  | none, some (cls, complement) => return .named cls complement
  | none, none =>
    commonEscape c do
      if c.isOctalDigit then
        return .character (← octalEscape (c :: (← Read.takeWhile CodePoint.isOctalDigit 2)))
      else fail (.badEscape (escapeText c [])) 2

/-- A reference to a group by the number that `digits` write. -/
def numberedReference (digits : Text) : Read Meaning := do
  let index := Text.decimalValue digits
  let state ← get
  if index < state.widths.length then
    if (closedWidth? state index).isNone then fail .openGroup (digits.length + 1)
    checkLookBehind index
    return .group index
  else fail (.unknownGroupNumber index) digits.length

/-- An escape outside of sets. -/
def branchEscape (c : CodePoint) : Read Meaning := do
  match classEscape? c, anchorEscape? c, controlEscape? c with
  | some (cls, complement), _, _ => return .named cls complement
  | none, some condition, _ => return .anchor condition
  | none, none, some d => return .character d
  | none, none, none =>
    commonEscape c do
      if c.val = 48 then
        let more ← Read.takeWhile CodePoint.isOctalDigit 2
        return .character (.ofNat (Text.octalValue more))
      else
        let second ← Read.takeWhile CodePoint.isAsciiDigit 1
        let digits := c :: second
        if !second.isEmpty && digits.all CodePoint.isOctalDigit &&
            (← peekIs CodePoint.isOctalDigit) then
          return .character (← octalEscape (digits ++ (← Read.takeWhile CodePoint.isOctalDigit 1)))
        else numberedReference digits

/-! ## Character sets -/

/-- A member of a set as it was read, with the text of its first token. -/
def setMember (token : Token) : Read Meaning :=
  match token with
  | .plain c => return .character c
  | .escaped c => setEscape c

/-- The item that a single member stands for. -/
def Meaning.item : Meaning → SetItem
  | .named cls complement => .named cls complement
  | .character c => .one c
  | _ => .one default

/-- The items of a set up to its end.  `start` is the place of the opening bracket. -/
def setItems (start : Nat) (items : List SetItem) : Nat → Read (List SetItem)
  | 0 => fail .tooDeep
  | bound + 1 => do
    match ← take with
    | none => failAt .unterminatedSet start
    | some first =>
      if first = .plain ']' && !items.isEmpty then return items
      let low ← setMember first
      if ← accept '-' then
        match ← take with
        | none => failAt .unterminatedSet start
        | some last =>
          if last = .plain ']' then return items ++ [low.item, .one '-']
          let high ← setMember last
          match low, high with
          | .character a, .character b =>
            if b.val < a.val then
              fail (.badRange first.text last.text) (first.size + 1 + last.size)
            setItems start (items ++ [.range a b]) bound
          | _, _ => fail (.badRange first.text last.text) (first.size + 1 + last.size)
      else setItems start (items ++ [low.item]) bound

/-- The test that a set with given items makes; a set of one character is that character. -/
def setTest (complement : Bool) (items : List SetItem) : CharTest :=
  match firstOccurrences items with
  | [.one c] => if complement then .other c else .one c
  | items => .set complement items

/-- A character set behind its opening bracket. -/
def readSet : Read CharTest := do
  let start := (← tell) - 1
  let complement ← accept '^'
  return setTest complement (← setItems start [] (← rounds))

/-! ## Flags -/

/-- The letters of flags. -/
inductive FlagLetter where
  /-- `i` -/
  | ignoreCase
  /-- `L` -/
  | locale
  /-- `m` -/
  | multiLine
  /-- `s` -/
  | dotAll
  /-- `x` -/
  | verbose
  /-- `a` -/
  | asciiOnly
  /-- `t` -/
  | template
  /-- `u` -/
  | unicode
deriving DecidableEq, Repr

/-- The flag of a letter. -/
def flagLetter? : Token → Option FlagLetter
  | .plain c =>
    match c.ascii with
    | 'i' => some .ignoreCase
    | 'L' => some .locale
    | 'm' => some .multiLine
    | 's' => some .dotAll
    | 'x' => some .verbose
    | 'a' => some .asciiOnly
    | 't' => some .template
    | 'u' => some .unicode
    | _ => none
  | .escaped _ => none

/-- The flags with one more. -/
def Flags.with (flags : Flags) : FlagLetter → Flags
  | .ignoreCase => { flags with ignoreCase := true }
  | .multiLine => { flags with multiLine := true }
  | .dotAll => { flags with dotAll := true }
  | .verbose => { flags with verbose := true }
  | .asciiOnly => { flags with asciiOnly := true }
  | .template => { flags with template := true }
  | .locale | .unicode => flags

/-- What follows a flag that is no flag: an unknown letter, or something else. -/
def noFlag {α : Type} (token : Token) (otherwise : Cause) : Read α :=
  match token with
  | .plain c => fail (if c.isLetter then .unknownFlag else otherwise) 1
  | .escaped _ => fail otherwise 2

/-- The flags that are switched on, from `first` on, and the character that ends them. -/
def flagsOn (letters : List FlagLetter) (first : FlagLetter) : Nat → Read (List FlagLetter × Char)
  | 0 => fail .tooDeep
  | bound + 1 => do
    if first = .locale then fail .localeFlag
    let letters := letters ++ [first]
    if (first = .asciiOnly || first = .unicode) && letters.contains .asciiOnly &&
        letters.contains .unicode then
      fail .exclusiveFlags
    match ← take with
    | none => fail .missingFlagEnd
    | some token =>
      if [')', '-', ':'].contains token.ascii then return (letters, token.ascii)
      match flagLetter? token with
      | some letter => flagsOn letters letter bound
      | none => noFlag token .missingFlagEnd

/-- The flags that are switched off, from `first` on, up to the colon. -/
def flagsOff (letters : List FlagLetter) (first : FlagLetter) : Nat → Read (List FlagLetter)
  | 0 => fail .tooDeep
  | bound + 1 => do
    if first = .asciiOnly || first = .unicode || first = .locale then fail .classFlagOff
    let letters := letters ++ [first]
    match ← take with
    | none => fail .missingColon
    | some token =>
      if token = .plain ':' then return letters
      match flagLetter? token with
      | some letter => flagsOff letters letter bound
      | none => noFlag token .missingColon

/-- Flags behind `(?`, of which the first token is known: a change for a group, or nothing if they
hold for the whole pattern. -/
def readFlags (first : Token) : Read (Option FlagChange) := do
  let (on, stop) ←
    match flagLetter? first with
    | some letter => flagsOn [] letter (← rounds)
    | none => pure ([], '-')
  let onFlags : Flags := on.foldl Flags.with {}
  if stop = ')' then
    modify fun state => { state with
      flags := on.foldl Flags.with state.flags
      unicode := state.unicode || on.contains .unicode }
    return none
  if on.contains .template then fail .globalFlagOn 1
  let off ←
    if stop = '-' then
      match ← take with
      | none => fail .missingFlag
      | some token =>
        match flagLetter? token with
        | some letter => flagsOff [] letter (← rounds)
        | none => noFlag token .missingFlag
    else pure []
  if off.contains .template then fail .globalFlagOff 1
  if on.any off.contains then fail .flagOnAndOff 1
  return some ⟨onFlags, on.contains .unicode, off.foldl Flags.with {}⟩

/-! ## Quantifiers -/

/-- A number of a quantifier in braces. -/
def repeatNumber (digits : Text) : Read (Option Nat) :=
  if digits.isEmpty then return none
  else
    let n := Text.decimalValue digits
    if 0xFFFFFFFF ≤ n then throw .repetitionTooLarge else return some n

/-- The least and the greatest number of a quantifier whose first character is known; nothing if a
brace is no quantifier. -/
def readBounds (first : Char) : Read (Option (Nat × Option Nat)) := do
  match first with
  | '?' => return some (0, some 1)
  | '*' => return some (0, none)
  | '+' => return some (1, none)
  | _ =>
    if (← peek) = some (.plain (.ofNat 0x7D)) then return none
    let start ← tell
    let low ← Read.takeWhile CodePoint.isAsciiDigit (← rounds)
    let high ←
      if ← accept ',' then Read.takeWhile CodePoint.isAsciiDigit (← rounds) else pure low
    if !(← accept '\x7d') then
      seek start
      return none
    let least := (← repeatNumber low).getD 0
    let most ← repeatNumber high
    if most.any (· < least) then failAt .repeatOrder start
    return some (least, most)

/-- How a quantifier chooses, from the character behind it. -/
def readGreed : Read Greed := do
  if ← accept '?' then return .reluctant
  if ← accept '+' then return .possessive
  return .greedy

/-! ## Branches and alternatives -/

/-- Part of a branch: an expression, or a group that only holds a branch together. -/
inductive Piece where
  /-- An expression. -/
  | single (r : Regex)
  /-- The expressions of a group without number and flags. -/
  | bundle (rs : List Regex)

/-- The expressions of a part. -/
def Piece.expressions : Piece → List Regex
  | .single r => [r]
  | .bundle rs => rs

/-- The expression that is repeated when a quantifier follows a part, or the reason why none may
follow. -/
def Piece.repeated : Piece → Except Cause Regex
  | .single (.anchor _) => .error .nothingToRepeat
  | .single (.repeat ..) => .error .multipleRepeat
  | .single r => .ok r
  | .bundle rs => .ok (.sequence rs)

/-- The readers for what is nested in a group. -/
structure Readers where
  /-- Alternatives.  The arguments say whether white space is skipped, and whether the alternatives
  are the whole pattern. -/
  alternatives : Bool → Bool → Read (List Regex)
  /-- One branch.  The arguments say whether white space is skipped, and whether flags for the
  whole pattern may stand here. -/
  branch : Bool → Bool → Read (List Regex)

/-- The closing parenthesis of a group that was opened at `start`. -/
def closeParenthesis (start : Nat) : Read Unit := do
  if !(← accept ')') then failAt .unterminatedGroup start

/-- Skip a comment that was opened at `start`. -/
def skipComment (start : Nat) : Nat → Read Unit
  | 0 => fail .tooDeep
  | bound + 1 => do
    if (← peek).isNone then failAt .unterminatedComment start
    if (← take) = some (.plain ')') then return
    skipComment start bound

/-- Skip the rest of a line. -/
def skipLine : Nat → Read Unit
  | 0 => return
  | bound + 1 => do
    match ← take with
    | none => return
    | some token => if token = .plain (.ofNat 10) then return else skipLine bound

/-- A group's name, which ends at a terminator. -/
def groupName (terminator : CodePoint) : Read Text := do
  let name ← takeUntil terminator "group name" [] (← rounds)
  if !name.isName then fail (.badGroupName name) (name.length + 1)
  return name

/-- A reference to a group by its name. -/
def namedReference : Read Regex := do
  let name ← groupName ')'
  let state ← get
  match state.names.lookup name with
  | none => fail (.unknownGroup name) (name.length + 1)
  | some index =>
    if (closedWidth? state index).isNone then fail .openGroup (name.length + 1)
    checkLookBehind index
    return .backReference index

/-- Digits of any script with single underscores between them. -/
def digitsValue? : Text → Option Nat → Option Nat
  | [], value => value
  | c :: rest, value =>
    match c.decimalValue? with
    | some d => digitsValue? rest (some (value.getD 0 * 10 + d))
    | none =>
      if c.val = 95 && value.isSome && rest.head?.any (·.isDecimal) then digitsValue? rest value
      else none

/-- A number as it may stand in a condition: digits of any script with a sign and white space
around. -/
def integer? (t : Text) : Option Int :=
  match t.strip with
  | c :: rest =>
    if c.val = 43 then (digitsValue? rest none).map Int.ofNat
    else if c.val = 45 then (digitsValue? rest none).map fun n => -Int.ofNat n
    else (digitsValue? (c :: rest) none).map Int.ofNat
  | [] => none

/-- The group that a condition asks for. -/
def conditionGroup : Read Nat := do
  let name ← takeUntil ')' "group name" [] (← rounds)
  let state ← get
  if name.isName then
    match state.names.lookup name with
    | none => fail (.unknownGroup name) (name.length + 1)
    | some index => return index
  match integer? name with
  | some (.ofNat index) =>
    if index = 0 then fail .badGroupNumber (name.length + 1)
    if 2147483647 ≤ index then fail (.unknownGroupNumber index) (name.length + 1)
    let place := (← tell) - name.length - 1
    if (state.conditions.lookup index).isNone then
      set { state with conditions := state.conditions ++ [(index, place)] }
    return index
  | _ => fail (.badGroupName name) (name.length + 1)

/-- A conditional behind `(?(`. -/
def readConditional (inner : Readers) (verbose : Bool) (start : Nat) : Read Regex := do
  let index ← conditionGroup
  checkLookBehind index
  let yes ← inner.branch verbose false
  let no ←
    if ← accept '|' then
      let no ← inner.branch verbose false
      if (← peek) = some (.plain '|') then fail .tooManyBranches
      pure no
    else pure []
  closeParenthesis start
  return .conditional index (.sequence yes) (.sequence no)

/-- An assertion about what follows. -/
def readLookAhead (inner : Readers) (verbose : Bool) (start : Nat) (complement : Bool) :
    Read Regex := do
  let body ← inner.alternatives verbose false
  closeParenthesis start
  return .lookAhead complement (.sequence body)

/-- An assertion about what stands before, behind `(?<`. -/
def readLookBehind (inner : Readers) (verbose : Bool) (start : Nat) : Read Regex := do
  match ← take with
  | none => fail .unexpectedEnd
  | some token =>
    if token != .plain '=' && token != .plain '!' then
      fail (.unknownExtension (('<' : CodePoint) :: token.text)) (token.size + 2)
    let outer := (← get).lookBehind
    if outer.isNone then
      modify fun state => { state with lookBehind := some state.widths.length }
    let body ← inner.alternatives verbose false
    if outer.isNone then modify ({ · with lookBehind := none })
    closeParenthesis start
    return .lookBehind (token == .plain '!') 0 (.sequence body)

/-- The content of a group that captures, up to its closing parenthesis. -/
def readCapture (inner : Readers) (verbose : Bool) (start : Nat) (name : Option Text) :
    Read Regex := do
  let index ← openGroup name
  let body := Regex.sequence (← inner.alternatives verbose false)
  closeParenthesis start
  closeGroup index (body.width (← get).widths)
  return .capture index body

/-- What a group adds to its branch. -/
inductive Opened where
  /-- A part. -/
  | piece (piece : Piece)
  /-- Nothing: a comment. -/
  | nothing
  /-- Nothing but flags for the whole pattern. -/
  | globalFlags

/-- A group behind `(?P`. -/
def readNamed (inner : Readers) (verbose : Bool) (start : Nat) : Read Opened := do
  if ← accept '<' then
    let name ← groupName '>'
    return .piece (.single (← readCapture inner verbose start (some name)))
  if ← accept '=' then return .piece (.single (← namedReference))
  match ← take with
  | none => fail .unexpectedEnd
  | some token => fail (.unknownExtension (('P' : CodePoint) :: token.text)) (token.size + 2)

/-- A group behind `(?`. -/
def readExtension (inner : Readers) (verbose : Bool) (start : Nat) : Read Opened := do
  match ← take with
  | none => fail .unexpectedEnd
  | some token =>
    match token.ascii with
    | 'P' => readNamed inner verbose start
    | ':' =>
      let body ← inner.alternatives verbose false
      closeParenthesis start
      return .piece (.bundle body)
    | '#' =>
      skipComment start (← rounds)
      return .nothing
    | '=' => return .piece (.single (← readLookAhead inner verbose start false))
    | '!' => return .piece (.single (← readLookAhead inner verbose start true))
    | '<' => return .piece (.single (← readLookBehind inner verbose start))
    | '(' => return .piece (.single (← readConditional inner verbose start))
    | '>' =>
      let body ← inner.alternatives verbose false
      closeParenthesis start
      return .piece (.single (.atomic (.sequence body)))
    | _ =>
      if (flagLetter? token).isNone && token != .plain '-' then
        fail (.unknownExtension token.text) (token.size + 1)
      match ← readFlags token with
      | none => return .globalFlags
      | some change =>
        let skipping := (verbose || change.on.verbose) && !change.off.verbose
        let body ← inner.alternatives skipping false
        closeParenthesis start
        return .piece (.single (.scoped change (.sequence body)))

/-- A quantifier whose first character is known, applied to the last of the parts. -/
def readQuantifier (first : Char) (pieces : List Piece) : Read (List Piece) := do
  let start := (← tell) - 1
  match ← readBounds first with
  | none => return .single (.char (.one first)) :: pieces
  | some (least, most) =>
    match pieces with
    | [] => failAt .nothingToRepeat start
    | piece :: before =>
      match piece.repeated with
      | .error cause => failAt cause start
      | .ok body => return .single (.repeat (← readGreed) least most body) :: before

/-- The part that an escape stands for. -/
def Meaning.expression : Meaning → Regex
  | .character c => .char (.one c)
  | .named cls complement => .char (.set false [.named cls complement])
  | .anchor condition => .anchor condition
  | .group index => .backReference index

/-- The parts of a branch, last one first.  `first` tells whether flags for the whole pattern may
stand at its beginning. -/
def readPieces (inner : Readers) (first : Bool) (verbose : Bool) (pieces : List Piece) :
    Nat → Read (List Piece)
  | 0 => fail .tooDeep
  | bound + 1 => do
    match ← peek with
    | none => return pieces
    | some token =>
      if token = .plain '|' || token = .plain ')' then return pieces
      advance
      match token with
      | .escaped c =>
        readPieces inner first verbose (.single (← branchEscape c).expression :: pieces) bound
      | .plain c =>
        let char : Char := c.ascii
        if verbose && (char == ' ' || (9 ≤ c.val && c.val ≤ 13)) then
          readPieces inner first verbose pieces bound
        else if verbose && char == '#' then
          skipLine (← rounds)
          readPieces inner first verbose pieces bound
        else
          match char with
          | '[' =>
            readPieces inner first verbose (.single (.char (← readSet)) :: pieces) bound
          | '?' | '*' | '+' | '\x7b' =>
            readPieces inner first verbose (← readQuantifier char pieces) bound
          | '.' => readPieces inner first verbose (.single (.char .any) :: pieces) bound
          | '^' => readPieces inner first verbose (.single (.anchor .lineStart) :: pieces) bound
          | '$' => readPieces inner first verbose (.single (.anchor .lineEnd) :: pieces) bound
          | '(' =>
            let start := (← tell) - 1
            if ← accept '?' then
              match ← readExtension inner verbose start with
              | .piece piece => readPieces inner first verbose (piece :: pieces) bound
              | .nothing => readPieces inner first verbose pieces bound
              | .globalFlags =>
                if !first || !pieces.isEmpty then failAt .lateFlags start
                readPieces inner first (← get).flags.verbose pieces bound
            else
              let group ← readCapture inner verbose start none
              readPieces inner first verbose (.single group :: pieces) bound
          | _ => readPieces inner first verbose (.single (.char (.one c)) :: pieces) bound

/-- Whether two expressions are the same single test, anchor or reference. -/
def Regex.sameLeaf : Regex → Regex → Bool
  | .char a, .char b => a == b
  | .anchor a, .anchor b => a == b
  | .backReference a, .backReference b => a == b
  | _, _ => false

/-- The leaves that all branches begin with, and the branches without them. -/
def commonStart (branches : List (List Regex)) : Nat → List Regex × List (List Regex)
  | 0 => ([], branches)
  | bound + 1 =>
    match branches with
    | (leaf :: _) :: _ =>
      if branches.all (fun branch => branch.head?.any leaf.sameLeaf) then
        let (more, rests) := commonStart (branches.map List.tail) bound
        (leaf :: more, rests)
      else ([], branches)
    | _ => ([], branches)

/-- The items of the set that stands for a branch, if the branch is a single character or set. -/
def branchItems? : List Regex → Option (List SetItem)
  | [.char (.one c)] => some [.one c]
  | [.char (.set false items)] => some items
  | _ => none

/-- The expressions for a list of branches: what they begin with in common, and then a set if only
single characters are left, or else alternatives. -/
def joinBranches (branches : List (List Regex)) : List Regex :=
  match branches with
  | [branch] => branch
  | _ =>
    let (start, rests) := commonStart branches ((branches.headD []).length)
    match rests.mapM branchItems? with
    | some items => start ++ [.char (.set false (firstOccurrences items.flatten))]
    | none => start ++ [Regex.alternatives (rests.map .sequence)]

/-- The branches of alternatives. -/
def readBranches (branch : Bool → Bool → Read (List Regex)) (verbose whole : Bool)
    (branches : List (List Regex)) : Nat → Read (List (List Regex))
  | 0 => fail .tooDeep
  | bound + 1 => do
    let next ← branch verbose (whole && branches.isEmpty)
    let branches := branches ++ [next]
    if ← accept '|' then
      let flags := (← get).flags
      let verbose := if whole then flags.verbose else verbose
      readBranches branch verbose whole branches bound
    else return branches

/-- The readers of nested groups, down to a depth. -/
def readers : Nat → Readers
  | 0 => ⟨fun _ _ => fail .tooDeep, fun _ _ => fail .tooDeep⟩
  | depth + 1 =>
    let inner := readers depth
    let branch (verbose first : Bool) : Read (List Regex) := do
      let pieces ← readPieces inner first verbose [] (← rounds)
      return pieces.reverse.flatMap Piece.expressions
    ⟨fun verbose whole => do
        return joinBranches (← readBranches branch verbose whole [] (← rounds)),
      branch⟩

/-! ## Whole patterns -/

/-- Fill in the width of every look-behind, refusing those whose width varies; repetitions are
refused under the flag that forbids them. -/
def Regex.settle (widths : List (Option Width)) (template : Bool) : Regex → Except Cause Regex
  | .seq first second => do
    let first ← first.settle widths template
    return .seq first (← second.settle widths template)
  | .alt first second => do
    let first ← first.settle widths template
    return .alt first (← second.settle widths template)
  | .conditional index yes no => do
    let yes ← yes.settle widths template
    return .conditional index yes (← no.settle widths template)
  | .repeat greed least most body => do
    if template then
      throw (.templateRepeat
        (match greed with
        | .greedy => "MAX_REPEAT"
        | .reluctant => "MIN_REPEAT"
        | .possessive => "POSSESSIVE_REPEAT"))
    return .repeat greed least most (← body.settle widths template)
  | .capture index body => return .capture index (← body.settle widths template)
  | .scoped change body => return .scoped change (← body.settle widths template)
  | .lookAhead complement body => return .lookAhead complement (← body.settle widths template)
  | .lookBehind complement _ body => do
    let width := body.width widths
    if 0xFFFFFFFF < width.least then throw .lookBehindTooWide
    if width.least != width.most then throw .lookBehindWidth
    return .lookBehind complement width.least (← body.settle widths template)
  | .atomic body => return .atomic (← body.settle widths template)
  | .empty => return .empty
  | .char test => return .char test
  | .anchor condition => return .anchor condition
  | .backReference index => return .backReference index

/-- A pattern that was read: its expression, the flags for it, and its groups. -/
structure Program where
  /-- The expression. -/
  regex : Regex
  /-- The flags for the whole expression. -/
  flags : Flags
  /-- The number of groups that capture. -/
  groups : Nat
  /-- The numbers of the named groups. -/
  names : List (Text × Nat)
deriving DecidableEq

/-- Read a whole pattern. -/
def readWhole : Read Regex := do
  seek 0
  let body ← (readers (← rounds)).alternatives (← get).flags.verbose true
  let state ← get
  if state.unicode && state.flags.asciiOnly then throw .exclusiveFlags
  if state.next.isSome then fail .unbalanced
  match state.conditions.find? fun (index, _) => state.widths.length ≤ index with
  | some (index, place) => failAt (.unknownGroupNumber index) place
  | none => return .sequence body

/-- The program of a pattern under given flags. -/
def Program.ofPattern (pattern : Text) (flags : Flags) : Except ReadError Program := do
  let (regex, state) ← ((readWhole.run pattern.toArray).run { flags })
  match regex.settle state.widths state.flags.template with
  | .error cause => throw (.fault ⟨cause, none⟩)
  | .ok regex => return ⟨regex, state.flags, state.widths.length - 1, state.names⟩

end ClassHarvest.Pattern
