import WorkloadTrace.CommandLine.Home
import WorkloadTrace.FileTree
import WorkloadTrace.Replay
import WorkloadTrace.Settings.Resolve
import WorkloadTrace.Text.Style

/-!
# The command line

A run of the command line reads files of a tree, leaves a tree, prints an answer, reports problems,
and ends with an exit code that says what went wrong: 2 for settings that are not valid, 4 when a
trace line may be lost, 3 when a line was rejected, and otherwise 0.
-/

namespace WorkloadTrace.CommandLine

/-- What stops a run before its end. -/
inductive Failure where
  /-- The settings cannot be read from their sources. -/
  | settings (e : Settings.LoadError)
  /-- This was raised. -/
  | raised (t : Trouble)
  /-- The file of operations is not UTF-8. -/
  | illFormedText

/-- How a run ends. -/
inductive Ending where
  /-- With an exit code. -/
  | exit (code : Nat)
  /-- With help. -/
  | help
  /-- With a usage error. -/
  | usage (e : UsageError)
  /-- With a failure. -/
  | failed (f : Failure)

/-- The wording of a failure. -/
def Failure.message : Failure → Text
  | .settings e => e.message
  | .raised t => t.message
  | .illFormedText => "the file of operations is not UTF-8".toText

/-- The exit code of a usage error. -/
def usageCode : Nat := 2

/-- The exit code of a failure. -/
def failureCode : Nat := 1

/-- The exit code of an ending. -/
def Ending.code : Ending → Nat
  | .exit code => code
  | .help => 0
  | .usage _ => usageCode
  | .failed _ => failureCode

/-- What a run leaves. -/
structure Outcome where
  /-- How it ended. -/
  ending : Ending
  /-- What it printed. -/
  output : Text := []
  /-- The problems it reported, each with a line feed after it. -/
  problems : Text := []
  /-- The log records it made. -/
  journal : Journal := {}
  /-- The files. -/
  files : FileTree

/-- The exit code of a run whose settings are not valid. -/
def invalidSettingsCode : Nat := 2

/-- The exit code of a run with a rejected line. -/
def rejectedCode : Nat := 3

/-- The exit code of a run whose sink failed. -/
def sinkFailureCode : Nat := 4

/-- The exit code for the lines rejected and the failures of the sink. -/
def exitCode (rejected failures : List ErrorDetail) : Nat :=
  if !failures.isEmpty then sinkFailureCode
  else if !rejected.isEmpty then rejectedCode
  else 0

/-- What is printed for a message: style sequences are left out. -/
def printed (message : Text) : Text := Text.dropStyles message ++ [char '\n']

/-- The form of a code point where problems are reported: a surrogate is written as its code. -/
def reportedChar (c : CodePoint) : Text := if c.isSurrogate then Text.pointCode c else [c]

/-- The report of a problem. -/
def problem (json : Bool) (message : Text) : Text :=
  (printed
    (if json then Json.write .spaced (.object [("error".toText, .text message)])
      else "error: ".toText ++ message)).flatMap reportedChar

/-- The report of a recorded error. -/
def detailProblem (json : Bool) (e : ErrorDetail) : Text :=
  problem json (e.code ++ ": ".toText ++ e.message)

/-- The report of settings that are not valid: the first issue. -/
def settingsProblem (json : Bool) (issue : Issue) : Text :=
  let place := if issue.location.isEmpty then "settings".toText else issue.location
  problem json (place ++ ": ".toText ++ issue.fault.message)

/-- What is printed after a replay. -/
def summary (json : Bool) (r : Report) (failures : Nat) (file : Path) : Text :=
  printed
    (if json then
      Json.write .compact (.object
        [("applied".toText, .int r.applied), ("rejected".toText, .int r.rejected.length),
          ("sink_failures".toText, .int failures), ("skipped".toText, .int r.skipped),
          ("trace_file".toText, .text file.text)])
    else
      "traced ".toText ++ Decimal.ofNat r.applied ++ " operations to ".toText ++ file.text ++
        " (rejected ".toText ++ Decimal.ofNat r.rejected.length ++ ", skipped ".toText ++
        Decimal.ofNat r.skipped ++ [char ')'])

/-- The journal at the beginning of a run: the settings say which records are written and how. -/
def openJournal (s : LogSettings) : Journal :=
  let format : Log.Format := if s.jsonOutput then .json else .plain
  { log := (Log.configure s.level.name format (.text s.service) (.text s.environment) {}).1 }

/-- What is raised when an answer is printed, if it is: text that cannot be encoded. -/
def Host.printTrouble? (host : Host) (answer : Text) : Option Trouble :=
  if host.strictOutput then Text.encodeTrouble? Text.fitsUtf8 answer
  else Text.encodeTrouble? Text.fitsName answer

/-- Replays a file of operations and appends the trace to the file that the settings name. The
answer is printed before the problems are reported. -/
def replay (host : Host) (id : Text) (json : Bool) (settings : Settings)
    (operations : List UInt8) (files : FileTree) : Outcome :=
  let ops := Sink.file FileTree.storage
  let path := settings.trace.file
  let session : Session (FileSink FileTree.Handle × FileTree) :=
    { settings := settings, id := id, sink := ({ path := path }, files) }
  match Replay.ofBytes ops operations session (openJournal settings.logging) with
  | (.raised t, session, journal) =>
    { ending := .failed (.raised t), journal := journal, files := session.sink.2 }
  | (.illFormedText, session, journal) =>
    { ending := .failed .illFormedText, journal := journal, files := session.sink.2 }
  | (.finished report, session, journal) =>
    let failures := session.sink.1.failures
    let answer := summary json report failures.length path
    match host.printTrouble? answer with
    | some t => { ending := .failed (.raised t), journal := journal, files := session.sink.2 }
    | none =>
      { ending := .exit (exitCode report.rejected failures)
        output := answer
        problems := (report.rejected ++ failures).flatMap (detailProblem json)
        journal := journal
        files := session.sink.2 }

/-- The settings of an invocation. -/
def settingsOf (host : Host) (env : Settings.Environment) (i : Invocation) (files : FileTree) :
    Except Settings.LoadError Settings :=
  match i.settingsFile host env with
  | .ok path => Settings.resolve i.params.fields env (files.content? path)
  | .error e => .error e

/-- Does something with the settings of an invocation. -/
def withSettings (host : Host) (env : Settings.Environment) (i : Invocation) (files : FileTree)
    (body : Settings → Outcome) : Outcome :=
  match settingsOf host env i files with
  | .ok s => body s
  | .error (.invalid first _) =>
    { ending := .exit invalidSettingsCode
      problems := settingsProblem i.options.json first
      files := files }
  | .error e => { ending := .failed (.settings e), files := files }

/-- Prints settings, unless one of their numbers has too many digits. -/
def showSettings (s : Settings) (files : FileTree) : Outcome :=
  match s.workload.numbers.findSome? Decimal.trouble? with
  | some t => { ending := .failed (.raised t), files := files }
  | none =>
    { ending := .exit 0, output := printed (Json.writeIndented 0 s.toValue), files := files }

/-- Performs an invocation. -/
def perform (host : Host) (id : Text) (env : Settings.Environment) (i : Invocation)
    (files : FileTree) : Outcome :=
  match i.command with
  | .settings => withSettings host env i files fun s => showSettings s files
  | .replay name =>
    match files.statWritten name with
    | .error _ => { ending := .usage (.noSuchFile name), files := files }
    | .ok .directory => { ending := .usage (.isDirectory name), files := files }
    | .ok (.file operations) =>
      withSettings host env i files fun s => replay host id i.options.json s operations files

/-- Runs the command line that words are. A user without a home directory cannot run any. -/
def run (host : Host) (id : Text) (env : Settings.Environment) (words : List Text)
    (files : FileTree) : Outcome :=
  match host.defaultFile env with
  | .error e => { ending := .failed (.settings e), files := files }
  | .ok _ =>
    match Invocation.parse env words with
    | .ok i => perform host id env i files
    | .error .help => { ending := .help, files := files }
    | .error (.usage e) => { ending := .usage e, files := files }
    | .error (.raised t) => { ending := .failed (.raised t), files := files }

end WorkloadTrace.CommandLine
