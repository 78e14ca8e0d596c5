import ClassHarvest.Number.Numeral
import ClassHarvest.Text.Quoted

/-!
# Refusals of a YAML document

Most faults of a document are not told apart.  Those of numbers, times and escapes, which come to light
when a value is made of its text, are.
-/

namespace ClassHarvest.Yaml

/-- Why the parts of a date or time make none. -/
inductive TimeFault where
  /-- There is no year zero. -/
  | year (year : Nat)
  /-- There is no such month. -/
  | month
  /-- The month has no such day. -/
  | day
  /-- There is no such hour. -/
  | hour
  /-- There is no such minute. -/
  | minute
  /-- There is no such second. -/
  | second
  /-- A time zone is a day or more away; given in words. -/
  | offset (offset : Text)
deriving DecidableEq, Repr

/-- The wording of a fault. -/
def TimeFault.message : TimeFault → Text
  | .year n => "year " ++ Text.ofNat n ++ " is out of range"
  | .month => "month must be in 1..12"
  | .day => "day is out of range for month"
  | .hour => "hour must be in 0..23"
  | .minute => "minute must be in 0..59"
  | .second => "second must be in 0..59"
  | .offset distance =>
    "offset must be a timedelta strictly between -timedelta(hours=24) and timedelta(hours=24), not "
      ++ distance ++ ("." : Text)

/-- Why a document is refused. -/
inductive LoadError where
  /-- It is no document, or one with a value of an unknown kind. -/
  | malformed
  /-- The number of an escape is no code point. -/
  | noCodePoint
  /-- The number of an escape is far too great. -/
  | greatCodePoint
  /-- A text is no whole number to a base. -/
  | noInteger (base : Nat) (text : Text)
  /-- A whole number has too many digits. -/
  | tooManyDigits (digits : Nat)
  /-- A whole number has too many digits to be written in decimal. -/
  | tooGreatToWrite
  /-- A text is no number. -/
  | noFloat (text : Text)
  /-- There is no text to make a number of. -/
  | emptyNumber
  /-- A text is no truth value. -/
  | noTruthValue (text : Text)
  /-- A text is no time. -/
  | noTime
  /-- The parts of a time make none. -/
  | time (fault : TimeFault)
deriving DecidableEq, Repr

/-- The wording of a refusal. -/
def LoadError.message : LoadError → Text
  | .malformed => "malformed document"
  | .noCodePoint => "chr() arg not in range(0x110000)"
  | .greatCodePoint => "Python int too large to convert to C int"
  | .noInteger base text =>
    "invalid literal for int() with base " ++ Text.ofNat base ++ ": " ++ text.quoted.take 200
  | .tooManyDigits digits => Numeral.readMessage digits
  | .tooGreatToWrite => Numeral.writeMessage
  | .noFloat text => "could not convert string to float: " ++ text.quoted
  | .emptyNumber => "string index out of range"
  | .noTruthValue text => text.quoted
  | .noTime => "'NoneType' object has no attribute 'groupdict'"
  | .time reason => reason.message

end ClassHarvest.Yaml
