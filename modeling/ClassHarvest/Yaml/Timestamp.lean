import ClassHarvest.Yaml.LoadError

/-!
# Dates and times

A date, or a date and time, perhaps with a distance from Greenwich.
-/

namespace ClassHarvest.Yaml

/-- The parts of a date and time as they are written. -/
structure TimeParts where
  /-- The year. -/
  year : Nat
  /-- The month. -/
  month : Text
  /-- The day. -/
  day : Text
  /-- Hour, minute, second and the digits of the fraction of a second. -/
  time : Option (Nat × Nat × Nat × Text)
  /-- The distance from Greenwich in minutes. -/
  offset : Option Int
deriving DecidableEq, Repr

/-- A date, or a date and time. -/
structure Timestamp where
  /-- The year. -/
  year : Nat
  /-- The month, from one. -/
  month : Nat
  /-- The day, from one. -/
  day : Nat
  /-- Hour, minute, second and millionths of a second. -/
  time : Option (Nat × Nat × Nat × Nat)
  /-- The distance from Greenwich in minutes. -/
  offset : Option Int
deriving DecidableEq, Repr

/-! ## Reading -/

namespace TimeParts

/-- At least `least` and at most `most` digits at the beginning of a text. -/
def digits? (least most : Nat) (t : Text) : Option (Text × Text) :=
  let ds := (t.take most).takeWhile CodePoint.isAsciiDigit
  if least ≤ ds.length then some (ds, t.drop ds.length) else none

/-- A text without the character that it begins with. -/
def past? (c : CodePoint) (t : Text) : Option Text :=
  match t with
  | d :: rest => if d = c then some rest else none
  | [] => none

/-- A space or tab. -/
def isBlank (c : CodePoint) : Bool :=
  c.val = 32 || c.val = 9

/-- The distance from Greenwich that a text consists of. -/
def offset? (t : Text) : Option (Option Int) :=
  match t.dropWhile isBlank with
  | [] => if t.isEmpty then some none else none
  | c :: rest =>
    if c.val = 90 then if rest.isEmpty then some (some 0) else none
    else if c.val = 43 || c.val = 45 then do
      let (hours, rest) ← digits? 1 2 rest
      let minutes ←
        if rest.isEmpty then some []
        else do
          let (minutes, rest) ← digits? 2 2 (← past? ':' rest)
          if rest.isEmpty then some minutes else none
      let distance : Int := Text.decimalValue hours * 60 + Text.decimalValue minutes
      return some (if c.val = 45 then -distance else distance)
    else none

/-- What separates a time from the date before it, and the text behind. -/
def pastSeparator? (t : Text) : Option Text :=
  match t with
  | c :: rest =>
    if c.asciiLower.val = 116 then some rest
    else if isBlank c then some (rest.dropWhile isBlank)
    else none
  | [] => none

/-- The parts of the date and time that a text is the writing of. -/
def ofText? (t : Text) : Option TimeParts := do
  let (year, rest) ← digits? 4 4 t
  let (month, rest) ← digits? 1 2 (← past? '-' rest)
  let (day, rest) ← digits? 1 2 (← past? '-' rest)
  if rest.isEmpty then return ⟨Text.decimalValue year, month, day, none, none⟩
  let (hour, rest) ← digits? 1 2 (← pastSeparator? rest)
  let (minute, rest) ← digits? 2 2 (← past? ':' rest)
  let (second, rest) ← digits? 2 2 (← past? ':' rest)
  let fraction := match past? '.' rest with
    | some after => after.takeWhile CodePoint.isAsciiDigit
    | none => []
  let rest := match past? '.' rest with
    | some after => after.dropWhile CodePoint.isAsciiDigit
    | none => rest
  let time := (Text.decimalValue hour, Text.decimalValue minute, Text.decimalValue second, fraction)
  return ⟨Text.decimalValue year, month, day, some time, ← offset? rest⟩

/-- Whether the parts are written as fully as a plain scalar needs: a date alone has two digits for the
month and for the day. -/
def isFull (parts : TimeParts) : Bool :=
  parts.time.isSome || (parts.month.length = 2 && parts.day.length = 2)

end TimeParts

/-! ## Checks -/

/-- Years with a day more. -/
def isLeapYear (year : Nat) : Bool :=
  year % 4 = 0 && (year % 100 ≠ 0 || year % 400 = 0)

/-- The number of days of a month. -/
def daysIn (year month : Nat) : Nat :=
  if month = 2 then if isLeapYear year then 29 else 28
  else if [4, 6, 9, 11].contains month then 30
  else 31

/-- The text of a number, with zeros in front up to a width. -/
def padded (width n : Nat) : Text :=
  let digits := Text.ofNat n
  List.replicate (width - digits.length) ('0' : CodePoint) ++ digits

/-- A distance in time in words; days may be negative, the rest of a day is not. -/
def durationText (minutes : Int) : Text :=
  let days := Int.fdiv minutes 1440
  let seconds := Int.fmod minutes 1440 * 60
  let parts : List Text :=
    (if days = 0 then [] else [("days=" : Text) ++ Text.ofInt days]) ++
      (if seconds = 0 then [] else [("seconds=" : Text) ++ Text.ofInt seconds])
  "datetime.timedelta(" ++ (if parts.isEmpty then Text.ofString "0" else Text.join ", " parts) ++
    (")" : Text)

/-- The date and time of some parts, if there is one. -/
def TimeParts.check (parts : TimeParts) : Except TimeFault Timestamp := do
  let month := Text.decimalValue parts.month
  let day := Text.decimalValue parts.day
  if let some minutes := parts.offset then
    if 1440 ≤ minutes.natAbs then throw (.offset (durationText minutes))
  if parts.year = 0 then throw (.year 0)
  if month = 0 || 12 < month then throw .month
  if day = 0 || daysIn parts.year month < day then throw .day
  match parts.time with
  | none => return ⟨parts.year, month, day, none, none⟩
  | some (hour, minute, second, fraction) =>
    if 23 < hour then throw .hour
    if 59 < minute then throw .minute
    if 59 < second then throw .second
    let micro := Text.decimalValue ((fraction ++ List.replicate 6 ('0' : CodePoint)).take 6)
    return ⟨parts.year, month, day, some (hour, minute, second, micro), parts.offset⟩

/-! ## Writing -/

namespace Timestamp

/-- A date, and a time if there is one. -/
def text (stamp : Timestamp) : Text :=
  let date := padded 4 stamp.year ++ ("-" : Text) ++ padded 2 stamp.month ++ ("-" : Text) ++
    padded 2 stamp.day
  match stamp.time with
  | none => date
  | some (hour, minute, second, micro) =>
    let fraction : Text := if micro = 0 then [] else ("." : Text) ++ padded 6 micro
    let offset : Text := match stamp.offset with
      | none => []
      | some minutes =>
        (if minutes < 0 then Text.ofString "-" else Text.ofString "+") ++
          padded 2 (minutes.natAbs / 60) ++ (":" : Text) ++ padded 2 (minutes.natAbs % 60)
    date ++ (" " : Text) ++ padded 2 hour ++ (":" : Text) ++ padded 2 minute ++ (":" : Text) ++
      padded 2 second ++ fraction ++ offset

/-- A date and time as it stands inside a list: its parts by kind. -/
def partsText (stamp : Timestamp) : Text :=
  let date : List Text := [stamp.year, stamp.month, stamp.day].map Text.ofNat
  match stamp.time with
  | none => "datetime.date(" ++ Text.join ", " date ++ (")" : Text)
  | some (hour, minute, second, micro) =>
    let seconds : List Nat :=
      if micro ≠ 0 then [second, micro] else if second ≠ 0 then [second] else []
    let zone : List Text := match stamp.offset with
      | none => []
      | some minutes =>
        [if minutes = 0 then Text.ofString "tzinfo=datetime.timezone.utc"
        else "tzinfo=datetime.timezone(" ++ durationText minutes ++ (")" : Text)]
    "datetime.datetime(" ++
      Text.join ", " (date ++ ([hour, minute] ++ seconds).map Text.ofNat ++ zone) ++ (")" : Text)

end Timestamp
end ClassHarvest.Yaml
