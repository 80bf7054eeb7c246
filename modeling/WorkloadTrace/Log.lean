import WorkloadTrace.Exception
import WorkloadTrace.Log.Message
import WorkloadTrace.Log.Record
import WorkloadTrace.Text.Case

/-!
# Logging

The state of logging is the form in which records are written, if any, the least level that is
written, the bound fields, and the fields saved by the blocks that are entered and not yet left.
Leaving a block binds again exactly the fields that were bound when it was entered. As long as no
form is chosen, records that are serious enough are written bare to the standard error stream.
-/

namespace WorkloadTrace

/-- The state of logging. -/
structure Log where
  /-- The form of the records that are written, once it is chosen. -/
  format : Option Log.Format := none
  /-- The least level that is written. -/
  threshold : Int := 30
  /-- The bound fields. -/
  context : Fields Text := []
  /-- The fields that were bound when each open block was entered, the innermost first. -/
  saved : List (Fields Text) := []
  /-- How deep a value can be nested and still be shown. -/
  levels : Nat := 900
deriving DecidableEq, Repr

namespace Log

/-- The fields that values bind: absent ones are skipped, the others are shown as texts. -/
def boundTexts (values : Fields Value) : Fields Text :=
  values.filterMap fun v =>
    match v.2 with
    | .null => none
    | x => some (v.1, x.display)

/-- What is raised instead of the texts that values bind. -/
def bindTrouble? (levels : Nat) (values : Fields Value) : Option Trouble :=
  values.findSome? fun v => v.2.trouble? levels

/-- Binds fields. -/
def bind (values : Fields Value) (l : Log) : Log :=
  { l with context := Fields.setAll l.context (boundTexts values) }

/-- Drops the named fields, or all of them when none are named. -/
def clear (names : List Text) (l : Log) : Log :=
  { l with context := if names.isEmpty then [] else Fields.eraseAll names l.context }

/-- Enters a block with fields of its own. -/
def enter (values : Fields Value) (l : Log) : Log :=
  bind values { l with saved := l.context :: l.saved }

/-- Leaves the innermost block. -/
def exit (l : Log) : Log :=
  match l.saved with
  | [] => l
  | context :: saved => { l with context := context, saved := saved }

/-- The fields that identify a session. -/
def sessionFields (session file : Value) : Fields Value :=
  [("session_id".toText, session), ("trace_file".toText, file)]

/-- The fields that identify a program. -/
def serviceFields (service environment : Value) : Fields Value :=
  [("service".toText, service), ("environment".toText, environment)]

/-- Binds fields, unless something is raised. -/
def bound (values : Fields Value) (l : Log) : Log × Option Trouble :=
  match bindTrouble? l.levels values with
  | some t => (l, some t)
  | none => (l.bind values, none)

/-- Enters a block with fields of its own, unless something is raised. -/
def entered (values : Fields Value) (l : Log) : Log × Option Trouble :=
  match bindTrouble? l.levels values with
  | some t => (l, some t)
  | none => (l.enter values, none)

/-- Chooses the threshold, the form of records, and the fields that identify the program. The
former way of writing is given up first; with an unknown level nothing takes its place. -/
def configure (level : Text) (format : Format) (service environment : Value) (l : Log) :
    Log × Option Trouble :=
  let name := Text.upper level
  let silent := { l with format := none }
  match Fields.get? name thresholds with
  | none => (silent, some (.unknownLevel name))
  | some threshold =>
    bound (serviceFields service environment)
      { silent with threshold := threshold, format := some format }

/-- Whether records of a level are written. -/
def admits (l : Log) (level : Int) : Bool := 0 < level && l.threshold ≤ level

/-- The record that a message makes, unless its arguments do not fit it. -/
def record? (l : Log) (level : Int) (logger template : Text) (args : List Value)
    (trouble : Option Text) : Option Record :=
  (message? l.levels template args).map fun message =>
    ⟨level, if logger.isEmpty then rootName else logger, message, l.context, trouble⟩

/-- The least level of the records that are written before a form is chosen. -/
def lastResort : Int := 30

/-- What a step answers. -/
structure Answer where
  /-- The text written to the chosen stream. -/
  output : Text := []
  /-- The text written bare to the standard error stream. -/
  bare : Text := []
  /-- Whether a record was given up, which is reported on the standard error stream, because its
  arguments do not fit the message. -/
  misfit : Bool := false
  /-- Why the step was refused. -/
  refusal : Option Trouble := none
deriving DecidableEq, Repr

/-- What a message writes. -/
def emit (l : Log) (time : Text) (level : Int) (logger template : Text) (args : List Value)
    (trouble : Option Text) : Answer :=
  let record := l.record? level logger template args trouble
  match l.admits level, l.format, record with
  | false, _, _ => {}
  | true, some format, some r => { output := r.render format time }
  | true, some _, none => { misfit := true }
  | true, none, some r => if lastResort ≤ level then { bare := r.bare } else {}
  | true, none, none => { misfit := lastResort ≤ level }

/-- A step on the state of logging. -/
inductive Step where
  /-- Chooses the threshold, the form and the identifying fields. -/
  | configure (level : Text) (format : Format) (service environment : Value)
  /-- Binds fields. -/
  | bind (values : Fields Value)
  /-- Drops fields. -/
  | clear (names : List Text)
  /-- Enters a block. -/
  | enter (values : Fields Value)
  /-- Enters the block of a session. -/
  | enterSession (session file : Value)
  /-- Leaves the innermost block. -/
  | exit
  /-- Logs a message. -/
  | log (level : Int) (logger template : Text) (args : List Value)
  /-- Logs a message about an exception. -/
  | logException (level : Int) (logger message : Text) (e : Exception)

/-- Performs a step at a time. -/
def step (time : Text) (l : Log) : Step → Log × Answer
  | .configure level format service environment =>
    let (l, refusal) := configure level format service environment l
    (l, { refusal := refusal })
  | .bind values =>
    let (l, refusal) := bound values l
    (l, { refusal := refusal })
  | .clear names => (clear names l, {})
  | .enter values =>
    let (l, refusal) := entered values l
    (l, { refusal := refusal })
  | .enterSession session file =>
    let (l, refusal) := entered (sessionFields session file) l
    (l, { refusal := refusal })
  | .exit => (exit l, {})
  | .log level logger template args => (l, l.emit time level logger template args none)
  | .logException level logger message e =>
    (l, l.emit time level logger message [] (some (e.report l.levels)))

/-- Performs steps in order: the states after them with their answers. -/
def run (time : Text) : Log → List Step → List (Log × Answer)
  | _, [] => []
  | l, s :: rest =>
    let r := step time l s
    r :: run time r.1 rest

/-- Leaving a block right after entering it restores the bound fields. -/
theorem exit_enter (values : Fields Value) (l : Log) : exit (enter values l) = l := rfl

end Log

end WorkloadTrace
