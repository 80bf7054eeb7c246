import WorkloadTrace.Text

/-!
# Severities

The five severities that settings can choose, as numbered levels of log records.
-/

namespace WorkloadTrace

/-- How serious a log record is. -/
inductive Severity where
  /-- For finding faults. -/
  | debug
  /-- For the usual course of events. -/
  | info
  /-- For what may be a problem. -/
  | warning
  /-- For what has failed. -/
  | error
  /-- For what ends the program. -/
  | critical
deriving DecidableEq, Repr

namespace Severity

/-- All severities in increasing order. -/
def all : List Severity := [.debug, .info, .warning, .error, .critical]

/-- The name of a severity. -/
def name : Severity → Text
  | .debug => "DEBUG".toText
  | .info => "INFO".toText
  | .warning => "WARNING".toText
  | .error => "ERROR".toText
  | .critical => "CRITICAL".toText

/-- The level of a severity. -/
def level : Severity → Int
  | .debug => 10
  | .info => 20
  | .warning => 30
  | .error => 40
  | .critical => 50

/-- The severity with a given name. -/
def parse? (s : Text) : Option Severity := all.find? fun x => x.name = s

/-- Every severity is denoted by its name. -/
theorem parse?_name (x : Severity) : parse? x.name = some x := by cases x <;> decide

end Severity

end WorkloadTrace
