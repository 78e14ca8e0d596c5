import ClassHarvest.Text.Basic

/-!
# Log records

What the program reports while it works is a list of records, each with a level.
-/

namespace ClassHarvest

/-- How grave a record is; a greater number is graver. -/
abbrev Level := Int

namespace Level

/-- Every site that gives no class name. -/
def trace : Level := 5

/-- What only a developer wants to know. -/
def debug : Level := 10

/-- What the program does. -/
def info : Level := 20

/-- What may be a mistake. -/
def warning : Level := 30

/-- The name of a level. -/
def name (level : Level) : Text :=
  match level with
  | 0 => "NOTSET"
  | 5 => "TRACE"
  | 10 => "DEBUG"
  | 20 => "INFO"
  | 30 => "WARNING"
  | 40 => "ERROR"
  | 50 => "CRITICAL"
  | level => "Level " ++ Text.ofInt level

end Level

/-- A record of a log. -/
structure LogRecord where
  /-- How grave it is. -/
  level : Level
  /-- What it says. -/
  message : Text
deriving DecidableEq, Repr

/-- Records in order. -/
abbrev Log := List LogRecord

/-- The records that are at least as grave as a level. -/
def Log.atLeast (log : Log) (level : Level) : Log :=
  log.filter fun record => level ≤ record.level

end ClassHarvest
