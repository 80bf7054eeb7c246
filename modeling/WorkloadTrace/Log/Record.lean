import WorkloadTrace.Json.Writer
import WorkloadTrace.Severity

/-!
# Log records and their two forms

A record has a level, the name of its logger, a message, the fields that were bound when it was
made, and possibly the report of an exception. It is written as a JSON object on one line or as
plain text. A bound field with the name of a core entry of the JSON form replaces that entry's
value and keeps its place.
-/

namespace WorkloadTrace.Log

/-- The name of a level: that of a severity, or its number. -/
def levelName (level : Int) : Text :=
  if level = 0 then "NOTSET".toText
  else
    match Severity.all.find? fun x => x.level = level with
    | some x => x.name
    | none => "Level ".toText ++ Decimal.ofInt level

/-- The names that a threshold can be given by, with their levels. -/
def thresholds : List (Text × Int) :=
  [("CRITICAL".toText, 50), ("FATAL".toText, 50), ("ERROR".toText, 40), ("WARN".toText, 30),
    ("WARNING".toText, 30), ("INFO".toText, 20), ("DEBUG".toText, 10), ("NOTSET".toText, 0)]

/-- The name of the logger that has no other name. -/
def rootName : Text := "root".toText

/-- A log record. -/
structure Record where
  /-- The level. -/
  level : Int
  /-- The name of the logger. -/
  logger : Text
  /-- The message. -/
  message : Text
  /-- The fields that were bound when the record was made. -/
  context : Fields Text := []
  /-- The report of an exception, if there was one. -/
  trouble : Option Text := none
deriving DecidableEq, Repr

/-- The form in which records are written. -/
inductive Format where
  /-- A JSON object on one line. -/
  | json
  /-- Plain text. -/
  | plain
deriving DecidableEq, Repr

namespace Record

/-- The entries of the JSON form. -/
def entries (time : Text) (r : Record) : Fields Text :=
  let core : Fields Text :=
    [("timestamp".toText, time), ("level".toText, levelName r.level),
      ("logger".toText, r.logger), ("message".toText, r.message)]
  let bound := Fields.setAll core r.context
  match r.trouble with
  | some report => Fields.set "exception".toText report bound
  | none => bound

/-- The JSON form. -/
def json (time : Text) (r : Record) : Text :=
  Json.write .compact (.object ((r.entries time).map fun e => (e.1, .text e.2)))

/-- Text with a report on a line of its own after it. -/
def withReport (s : Text) : Option Text → Text
  | none => s
  | some report => if s.getLast? = some (char '\n') then s ++ report else s ++ char '\n' :: report

/-- The message with the report, and the line feed that ends it. -/
def bare (r : Record) : Text := withReport r.message r.trouble ++ [char '\n']

/-- The bound fields in the order of their names. -/
def contextText (context : Fields Text) : Text :=
  Text.joinWith [char ' '] ((Json.sortEntries context).map fun f => f.1 ++ char '=' :: f.2)

/-- The plain form. -/
def plain (time : Text) (r : Record) : Text :=
  let head := Text.joinWith [char ' '] [time, levelName r.level, r.logger, r.message]
  let s := withReport head r.trouble
  if r.context.isEmpty then s else s ++ char ' ' :: contextText r.context

/-- A record in a form, with the line feed that ends it. -/
def render (format : Format) (time : Text) (r : Record) : Text :=
  (match format with
    | .json => r.json time
    | .plain => r.plain time) ++ [char '\n']

end Record

end WorkloadTrace.Log
