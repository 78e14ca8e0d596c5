import ClassHarvest.Log

/-!
# Reporting

Log records are written as lines, to the standard error and, if one is named, to a log file.  Only
records above a threshold are written.
-/

namespace ClassHarvest

/-- The name under which the program reports. -/
def programName : Text := "cssjit"

/-- A record from some part of the program. -/
structure Report where
  /-- The part; the program as a whole if there is none. -/
  source : Option Text
  /-- The record. -/
  record : LogRecord
deriving DecidableEq, Repr

/-- Where records are written, and which. -/
structure Reporter where
  /-- Records below this level are not written. -/
  threshold : Level
  /-- The log file. -/
  logFile : Option Text := none
deriving DecidableEq, Repr

namespace Reporter

/-- The level from which on records are written. -/
def thresholdFor (verbose trace : Bool) : Level :=
  if trace then Level.trace else if verbose then Level.debug else Level.info

/-- The number of places that records are written to. -/
def sinks (reporter : Reporter) : Nat :=
  if reporter.logFile.isSome then 2 else 1

/-- The full name of a part of the program. -/
def sourceName (source : Option Text) : Text :=
  match source with
  | none => programName
  | some name => if name.isEmpty then programName else programName ++ (".") ++ name

/-- A record as a line for the standard error. -/
def errorLine (record : LogRecord) : Text :=
  "[" ++ programName ++ "] " ++ record.level.name ++ (" " : Text) ++ record.message ++ ("\n" : Text)

/-- A record as a line for a log file, with the time of the record in front. -/
def fileLine (time : Text) (report : Report) : Text :=
  time ++ (" " : Text) ++ report.record.level.name ++ (" " : Text) ++ sourceName report.source ++
    (": " : Text) ++ report.record.message ++ ("\n" : Text)

/-- The records that are written. -/
def written (reporter : Reporter) (reports : List Report) : List Report :=
  reports.filter fun report => reporter.threshold ≤ report.record.level

/-- What records add to the standard error. -/
def errorText (reporter : Reporter) (log : Log) : Text :=
  (log.atLeast reporter.threshold).flatMap errorLine

/-- What records add to a log file. -/
def fileText (reporter : Reporter) (time : Text) (reports : List Report) : Text :=
  (reporter.written reports).flatMap (fileLine time)

end Reporter
end ClassHarvest
