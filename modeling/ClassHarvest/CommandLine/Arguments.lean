import ClassHarvest.CommandLine.Switch
import ClassHarvest.Text.Quoted

/-!
# Arguments

The arguments of the program are switches, values of switches and operands.  A long switch may be
shortened as long as only one is meant, and its value may follow behind `=`; short switches may stand
together behind one hyphen.  Behind `--` everything is an operand.

The operand of the program is a command with everything behind it; that of a command is a path.
-/

namespace ClassHarvest.CommandLine

/-! ## Refusals -/

/-- What is wrong with the arguments. -/
inductive UsageError where
  /-- A shortened switch may mean several. -/
  | ambiguous (argument : Text) (spellings : List Text)
  /-- A switch has a value that it does not take. -/
  | unwantedValue (switch : Switch) (value : Text)
  /-- A switch lacks its value. -/
  | missingValue (switch : Switch)
  /-- Something has none of the values that it may have. -/
  | noChoice (title value : Text) (choices : List Text)
  /-- There is no command. -/
  | missingCommand
  /-- Some arguments are of no use. -/
  | unrecognized (arguments : List Text)
deriving DecidableEq, Repr

/-- The wording of a refusal. -/
def UsageError.message : UsageError → Text
  | .ambiguous argument spellings =>
    "ambiguous option: " ++ argument ++ " could match " ++ Text.join ", " spellings
  | .unwantedValue switch value =>
    "argument " ++ switch.title ++ ": ignored explicit argument " ++ value.quoted
  | .missingValue switch => "argument " ++ switch.title ++ ": expected one argument"
  | .noChoice title value choices =>
    "argument " ++ title ++ ": invalid choice: " ++ value.quoted ++ " (choose from " ++
      Text.join ", " (choices.map Text.quoted) ++ ")"
  | .missingCommand => "the following arguments are required: command"
  | .unrecognized arguments => "unrecognized arguments: " ++ Text.join " " arguments

/-- Why the arguments are not followed. -/
inductive Stop where
  /-- Help is asked for. -/
  | help (part : Part)
  /-- Something is wrong with the arguments. -/
  | refused (part : Part) (error : UsageError)
deriving DecidableEq, Repr

/-! ## Kinds of arguments -/

/-- A value that is written together with a switch. -/
structure Attached where
  /-- Whether `=` stands in front of it. -/
  marked : Bool
  /-- The value. -/
  value : Text
deriving DecidableEq, Repr

/-- What an argument is. -/
inductive Kind where
  /-- An operand, or the value of a switch. -/
  | operand
  /-- What makes operands of all that follow. -/
  | separator
  /-- A switch, perhaps with a value. -/
  | switch (switch : Switch) (short : Bool) (attached : Option Attached)
  /-- A switch of some other part of the command line, or none. -/
  | unknown
deriving DecidableEq, Repr

/-- The hyphen. -/
def hyphen : CodePoint := '-'

/-- Whether a switch is written with one hyphen. -/
def isShort (spelling : Text) : Bool :=
  spelling[1]? ≠ some hyphen

/-- The text of digits, perhaps a point and more digits, that a negative number consists of. -/
def isNegativeNumber (argument : Text) : Bool :=
  match argument with
  | c :: rest =>
    let rest := if rest.getLast?.any (·.val = 10) then rest.dropLast else rest
    let (whole, fraction) := rest.span CodePoint.isDecimal
    c = hyphen &&
      match fraction with
      | [] => !whole.isEmpty
      | point :: digits => point.val = 46 && !digits.isEmpty && digits.all CodePoint.isDecimal
  | [] => false

/-- The switches that a text with a hyphen in front may mean, which is no full spelling. -/
def readings (part : Part) (argument : Text) : List (Text × Kind) :=
  if isShort argument then
    part.spellings.filterMap fun (spelling, switch) =>
      if spelling = argument.take 2 then
        some (spelling, .switch switch true (some ⟨false, argument.drop 2⟩))
      else none
  else
    let (start, attached) : Text × Option Attached := match argument.cut? '=' with
      | some (start, value) => (start, some ⟨true, value⟩)
      | none => (argument, none)
    part.spellings.filterMap fun (spelling, switch) =>
      if start.isPrefixOf spelling then some (spelling, .switch switch false attached) else none

/-- What an argument that stands before every separator is. -/
def kindOf (part : Part) (argument : Text) : Except UsageError Kind :=
  if argument.head? ≠ some hyphen then .ok .operand
  else
    match part.spellings.lookup argument with
    | some switch => .ok (.switch switch (isShort argument) none)
    | none =>
      if argument.length = 1 then .ok .operand
      else
        let spelled : Option Kind := do
          let (spelling, value) ← argument.cut? '='
          let switch ← part.spellings.lookup spelling
          return .switch switch (isShort spelling) (some ⟨true, value⟩)
        match spelled with
        | some kind => .ok kind
        | none =>
          match readings part argument with
          | [(_, kind)] => .ok kind
          | [] =>
            if isNegativeNumber argument || argument.any (·.val = 32) then .ok .operand
            else .ok .unknown
          | several => .error (.ambiguous argument (several.map (·.1)))

/-- What the arguments are. -/
def kinds (part : Part) : List Text → Except UsageError (List (Text × Kind))
  | [] => .ok []
  | argument :: rest =>
    if argument = ("--" : Text) then
      .ok ((argument, .separator) :: rest.map (·, .operand))
    else do
      let kind ← kindOf part argument
      return (argument, kind) :: (← kinds part rest)

/-! ## Following the arguments -/

/-- What a part of the command line says. -/
structure Said where
  /-- The switches with their values, in order. -/
  switches : List (Switch × Text) := []
  /-- The operand, with what belongs to it. -/
  operand : Option (List Text) := none
  /-- What is of no use. -/
  extras : List Text := []
deriving DecidableEq, Repr

/-- The switches that stand together behind one hyphen, from one of them on; and what stands there and
is no switch. -/
def together (part : Part) (switch : Switch) (short : Bool) :
    Nat → Option Attached → Except UsageError (List (Switch × Text) × List Text)
  | _, none => .ok ([(switch, [])], [])
  | bound, some attached =>
    if switch.takesValue then .ok ([(switch, attached.value)], [])
    else
      match bound, attached.value with
      | bound + 1, c :: rest =>
        if !short || attached.marked || c = hyphen then
          .error (.unwantedValue switch attached.value)
        else
          match part.spellings.lookup [hyphen, c] with
          | none => .ok ([(switch, [])], [hyphen :: attached.value])
          | some next => do
            let attached : Option Attached := match rest with
              | [] => none
              | d :: value => if d = ('=' : CodePoint) then some ⟨true, value⟩ else some ⟨false, rest⟩
            let (switches, extras) ← together part next true bound attached
            return ((switch, []) :: switches, extras)
      | _, value => .error (.unwantedValue switch value)

/-- Note a switch with its value. -/
def note (part : Part) (said : Said) (switch : Switch) (value : Text) : Except Stop Said :=
  if switch = .help then .error (.help part)
  else if switch.choices.isEmpty || switch.choices.contains value then
    .ok { said with switches := said.switches ++ [(switch, value)] }
  else .error (.refused part (.noChoice switch.title value switch.choices))

/-- How many of the arguments are the operand of a part: of the program, a command and all that
follows; of a command, one path.  A separator may stand in front, and behind a path. -/
def operandLength (part : Part) (arguments : List (Text × Kind)) : Nat :=
  let separators := arguments.takeWhile (·.2 = .separator)
  let rest := arguments.drop separators.length
  let isOperand := rest.head?.any (·.2 = .operand)
  match part with
  | .program => if isOperand then arguments.length else 0
  | .command _ =>
    if isOperand then
      separators.length + 1 + ((rest.drop 1).takeWhile (·.2 = .separator)).length
    else separators.length

/-- The texts of an operand.  The separator before or behind a path does not count. -/
def operandTexts (part : Part) (arguments : List (Text × Kind)) : List Text :=
  match part with
  | .program => arguments.map (·.1)
  | .command _ => (arguments.map (·.1)).erase ("--" : Text)

/-- Follow the arguments of a part. -/
def follow (part : Part) : Nat → Said → List (Text × Kind) → Except Stop Said
  | 0, said, _ => .ok said
  | _, said, [] => .ok said
  | bound + 1, said, (argument, kind) :: rest =>
    match kind with
    | .unknown => follow part bound { said with extras := said.extras ++ [argument] } rest
    | .switch switch short attached =>
      if switch.takesValue && attached.isNone then
        match rest with
        | (value, .operand) :: rest => do follow part bound (← note part said switch value) rest
        | _ => .error (.refused part (.missingValue switch))
      else
        match together part switch short argument.length attached with
        | .error error => .error (.refused part error)
        | .ok (switches, extras) => do
          let said := { said with extras := said.extras ++ extras }
          let said ← switches.foldlM (fun said (switch, value) => note part said switch value) said
          follow part bound said rest
    | .operand | .separator =>
      let length := operandLength part ((argument, kind) :: rest)
      if said.operand.isNone && 0 < length then
        let operand := operandTexts part (((argument, kind) :: rest).take length)
        follow part bound { said with operand := some operand } (rest.drop (length - 1))
      else follow part bound { said with extras := said.extras ++ [argument] } rest

/-- What the arguments of a part say. -/
def read (part : Part) (arguments : List Text) : Except Stop Said :=
  match kinds part arguments with
  | .error error => .error (.refused part error)
  | .ok kinds => follow part kinds.length {} kinds

/-! ## The command line -/

/-- What the command line asks for. -/
structure Arguments where
  /-- The command. -/
  command : Command
  /-- The project. -/
  path : Text := "."
  /-- Whether more is reported. -/
  verbose : Bool := false
  /-- Whether everything is reported. -/
  trace : Bool := false
  /-- Options, each a key and a value with `=` between. -/
  pairs : List Text := []
  /-- The output directory. -/
  outputDirectory : Option Text := none
  /-- The name of the emission mode. -/
  mode : Option Text := none
  /-- Whether nothing is to be changed. -/
  dry : Bool := false
deriving DecidableEq, Repr

/-- The arguments with a switch. -/
def Arguments.with (arguments : Arguments) (switch : Switch) (value : Text) : Arguments :=
  match switch with
  | .help => arguments
  | .verbose => { arguments with verbose := true }
  | .trace => { arguments with trace := true }
  | .set => { arguments with pairs := arguments.pairs ++ [value] }
  | .outputDirectory => { arguments with outputDirectory := some value }
  | .mode => { arguments with mode := some value }
  | .dryRun => { arguments with dry := true }

/-- What a command line asks for. -/
def Arguments.ofTexts (texts : List Text) : Except Stop Arguments := do
  let before ← read .program texts
  match before.operand with
  | none | some [] => throw (.refused .program .missingCommand)
  | some (name :: rest) =>
    match Command.ofName? name with
    | none =>
      throw (.refused .program (.noChoice "command" name (Command.all.map Command.name)))
    | some command =>
      let behind ← read (.command command) rest
      let extras := before.extras ++ behind.extras
      if !extras.isEmpty then throw (.refused .program (.unrecognized extras))
      let path := (behind.operand.bind List.head?).getD "."
      return (before.switches ++ behind.switches).foldl
        (fun arguments (switch, value) => arguments.with switch value) { command, path }

end ClassHarvest.CommandLine
