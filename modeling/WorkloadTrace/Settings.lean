import WorkloadTrace.Call
import WorkloadTrace.Entries
import WorkloadTrace.Lenient
import WorkloadTrace.Path
import WorkloadTrace.Settings.Content
import WorkloadTrace.Severity

/-!
# Settings

What a run is configured with, in three sections, and the checks that make a section from
values. A section that is absent has its defaults; so has every entry of a section that is
absent.
-/

namespace WorkloadTrace

/-- How log records are written. -/
structure LogSettings where
  /-- The least severity that is written. -/
  level : Severity := .info
  /-- Whether records are JSON objects. -/
  jsonOutput : Bool := true
  /-- The name of the service. -/
  service : Text := "ycsb-tracer".toText
  /-- The name of the environment. -/
  environment : Text := "dev".toText
deriving DecidableEq, Repr

/-- Where the trace goes, and what it shows of records. -/
structure TraceSettings where
  /-- The trace file. -/
  file : Path := ⟨[], ["ycsb-trace.txt".toText]⟩
  /-- Whether a fixed word stands for the content of records. -/
  mockValues : Bool := false
deriving DecidableEq, Repr

/-- All settings of a run. -/
structure Settings where
  /-- The section on log records. -/
  logging : LogSettings := {}
  /-- The section on the workload. -/
  workload : Workload := .standard
  /-- The section on the trace. -/
  trace : TraceSettings := {}
deriving DecidableEq, Repr

namespace Settings

/-- What decides how calls are written, when so many levels of nesting can be shown. -/
def profile (s : Settings) (levels : Nat) : Profile := ⟨s.workload, s.trace.mockValues, levels⟩

/-- The name of the section on log records. -/
def loggingName : Text := "logging".toText

/-- The name of the section on the workload. -/
def workloadName : Text := "workload".toText

/-- The name of the section on the trace. -/
def traceName : Text := "trace".toText

/-- The names of the sections in order. -/
def sectionNames : List Text := [loggingName, workloadName, traceName]

/-- Reads a severity; only its exact name is one. -/
def readSeverity : Value → Except Fault Severity
  | .text s =>
    if Text.hasSurrogate s then .error .illFormedText
    else
      match Severity.parse? s with
      | some x => .ok x
      | none => .error .notLevel
  | _ => .error .notLevel

/-- The path that a text names; blanks around it do not belong to it, and it is not blank. -/
def pathOfText (s : Text) : Except Fault Path :=
  let t := Text.strip s
  if t.isEmpty then .error .blankPath else .ok (Path.parse t)

/-- Reads where the trace goes. -/
def readDestination : Value → Except Fault Path
  | .text s => pathOfText s
  | _ => .error .notPath

/-- The names of the entries on log records. -/
def logNames : List Text :=
  ["level".toText, "json_output".toText, "service".toText, "environment".toText]

/-- The names of the entries on the workload. -/
def workloadNames : List Text :=
  ["record_count".toText, "user_count".toText, "purpose_count".toText,
    "objection_start".toText, "objection_count".toText]

/-- The names of the entries on the trace. -/
def traceNames : List Text := ["file".toText, "mock_values".toText]

/-- Checks the section on log records; entries that it does not have are ignored. -/
def checkLogging (path : List Text) : Content → Checked LogSettings
  | .entries es =>
    let fields := Content.named es
    let default : LogSettings := {}
    LogSettings.mk
      <$> Entries.optional path fields "level".toText default.level readSeverity
      <*> Entries.optional path fields "json_output".toText default.jsonOutput Lenient.boolean
      <*> Entries.optional path fields "service".toText default.service Lenient.textOrBytes
      <*> Entries.optional path fields "environment".toText default.environment Lenient.textOrBytes
  | .other _ => .fail path (.notSection "LoggingSettings".toText)

/-- Checks the entries of a section that has no others than the known ones. A name that cannot be
written is the only issue then. -/
def checkClosed {α : Type} (path known : List Text) (title : Text)
    (check : Fields Value → Checked α) : Content → Checked α
  | .entries es =>
    if Content.hasUnwritableKey es then .fail path .illFormedText
    else
      (fun a _ => a) <$> check (Content.named es)
        <*> Checked.validUnless (Content.unknown path known es) ()
  | .other _ => .fail path (.notSection title)

/-- A workload from counts that are known to be positive. -/
def workloadOf (records users purposes : { n : Nat // 0 < n }) (start : Nat)
    (objections : { n : Nat // 0 < n }) : Workload where
  recordCount := records.1
  userCount := users.1
  purposeCount := purposes.1
  objectionStart := start
  objectionCount := objections.1
  recordCount_pos := records.2
  userCount_pos := users.2
  purposeCount_pos := purposes.2
  objectionCount_pos := objections.2

/-- Checks the entries on the workload. -/
def checkCounts (path : List Text) (fields : Fields Value) : Checked Workload :=
  let default := Workload.standard
  workloadOf
    <$> Entries.optional path fields "record_count".toText
      ⟨default.recordCount, default.recordCount_pos⟩ Lenient.positive
    <*> Entries.optional path fields "user_count".toText
      ⟨default.userCount, default.userCount_pos⟩ Lenient.positive
    <*> Entries.optional path fields "purpose_count".toText
      ⟨default.purposeCount, default.purposeCount_pos⟩ Lenient.positive
    <*> Entries.optional path fields "objection_start".toText
      default.objectionStart Lenient.natural
    <*> Entries.optional path fields "objection_count".toText
      ⟨default.objectionCount, default.objectionCount_pos⟩ Lenient.positive

/-- Checks the section on the workload. -/
def checkWorkload (path : List Text) : Content → Checked Workload :=
  checkClosed path workloadNames "WorkloadSettings".toText (checkCounts path)

/-- Checks the entries on the trace. -/
def checkDestination (path : List Text) (fields : Fields Value) : Checked TraceSettings :=
  let default : TraceSettings := {}
  TraceSettings.mk
    <$> Entries.optional path fields "file".toText default.file readDestination
    <*> Entries.optional path fields "mock_values".toText default.mockValues Lenient.boolean

/-- Checks the section on the trace. -/
def checkTrace (path : List Text) : Content → Checked TraceSettings :=
  checkClosed path traceNames "TraceSettings".toText (checkDestination path)

/-- Checks a section that can be absent. -/
def checkSection {α : Type} (contents : Fields Content) (name : Text) (default : α)
    (check : List Text → Content → Checked α) : Checked α :=
  match Fields.get? name contents with
  | none => .valid default
  | some c => check [name] c

/-- Checks the sections; what is not a section is ignored. -/
def check (contents : Fields Content) : Checked Settings :=
  Settings.mk
    <$> checkSection contents loggingName {} checkLogging
    <*> checkSection contents workloadName .standard checkWorkload
    <*> checkSection contents traceName {} checkTrace

/-- The settings as a value with all their entries. -/
def toValue (s : Settings) : Value :=
  .object
    [(loggingName, .object
      [("level".toText, .text s.logging.level.name),
        ("json_output".toText, .bool s.logging.jsonOutput),
        ("service".toText, .text s.logging.service),
        ("environment".toText, .text s.logging.environment)]),
      (workloadName, .object
        [("record_count".toText, .int s.workload.recordCount),
          ("user_count".toText, .int s.workload.userCount),
          ("purpose_count".toText, .int s.workload.purposeCount),
          ("objection_start".toText, .int s.workload.objectionStart),
          ("objection_count".toText, .int s.workload.objectionCount)]),
      (traceName, .object
        [("file".toText, .text s.trace.file.text),
          ("mock_values".toText, .bool s.trace.mockValues)])]

end Settings

end WorkloadTrace
