import WorkloadTrace.Operation.Reader
import WorkloadTrace.Session
import WorkloadTrace.Text.Lines
import WorkloadTrace.Text.Utf8

/-!
# Replaying recorded operations

The lines of a replay file are taken in order. Blank lines and comments are skipped, a line that
holds no operation is rejected with its number, and every other line is performed as a call. A
rejected line does not stop the replay; what a call raises does.
-/

namespace WorkloadTrace

/-- What came of a replay. -/
structure Report where
  /-- The number of lines performed. -/
  applied : Nat := 0
  /-- The number of lines skipped. -/
  skipped : Nat := 0
  /-- The errors of the lines rejected, in order. -/
  rejected : List ErrorDetail := []
deriving DecidableEq, Repr

namespace Replay

/-- What a line is to be done with. -/
inductive Line where
  /-- It is blank or a comment. -/
  | skipped
  /-- It holds an operation. -/
  | operation (o : Operation)
  /-- It holds none; the first issue says why. -/
  | rejected (issue : Issue)

/-- Classifies a line; blanks around it do not matter. -/
def classify (raw : Text) : Line :=
  let s := Text.strip raw
  match s with
  | [] => .skipped
  | c :: _ =>
    if c = char '#' then .skipped
    else
      match Operation.parse s with
      | .valid o => .operation o
      | .invalid issue _ => .rejected issue

/-- The message for a rejected line. -/
def rejectionMessage (number : Nat) (issue : Issue) : Text :=
  let place := if issue.location.isEmpty then "payload".toText else issue.location
  "line ".toText ++ Decimal.ofNat number ++ ": ".toText ++ place ++ ": ".toText ++
    issue.fault.message

/-- The error for a rejected line. -/
def rejection (number : Nat) (issue : Issue) : ErrorDetail :=
  .make .validation (rejectionMessage number issue) (some ErrorDetail.invalidOperation)
    [("line".toText, Decimal.ofNat number)] false

variable {σ : Type}

/-- The state of a replay. -/
structure State (σ : Type) where
  /-- What came of the lines so far. -/
  report : Report := {}
  /-- The session. -/
  session : Session σ
  /-- The journal. -/
  journal : Journal := {}

/-- Takes one line. A line that raises is not counted. -/
def takeLine (ops : Sink σ) (number : Nat) (raw : Text) (st : State σ) :
    Option Trouble × State σ :=
  match classify raw with
  | .skipped => (none, { st with report := { st.report with skipped := st.report.skipped + 1 } })
  | .operation o =>
    match st.session.call ops o.toCall st.journal with
    | (some t, session, journal) => (some t, ⟨st.report, session, journal⟩)
    | (none, session, journal) =>
      (none, ⟨{ st.report with applied := st.report.applied + 1 }, session, journal⟩)
  | .rejected issue =>
    (none, { st with
      report := { st.report with rejected := st.report.rejected ++ [rejection number issue] }
      journal := st.journal.note .warning .replay
        ("replay line rejected: ".toText ++ rejectionMessage number issue) none })

/-- Takes lines in order, the first of which has the given number, up to one that raises. -/
def takeLines (ops : Sink σ) : Nat → List Text → State σ → Option Trouble × State σ
  | _, [], st => (none, st)
  | number, raw :: rest, st =>
    match takeLine ops number raw st with
    | (some t, st) => (some t, st)
    | (none, st) => takeLines ops (number + 1) rest st

/-- Replays lines with a client that is attached for their duration, also if a line raises. What the
detachment raises takes the place of that. -/
def batch (ops : Sink σ) (lines : List Text) (session : Session σ) (journal : Journal) :
    Except Trouble Report × Session σ × Journal :=
  match session.attach ops journal with
  | (some t, session, journal) => (.error t, session, journal)
  | (none, session, journal) =>
    let (raised, st) := takeLines ops 1 lines ⟨{}, session, journal⟩
    let (unreleased, session, journal) := st.session.detach ops st.journal
    match unreleased.or raised with
    | some t => (.error t, session, journal)
    | none => (.ok st.report, session, journal)

/-- How the replay of a file ends. -/
inductive Ending where
  /-- All lines were taken. -/
  | finished (report : Report)
  /-- This was raised. -/
  | raised (t : Trouble)
  /-- The file is not UTF-8. -/
  | illFormedText

/-- The lines of a file, if it is UTF-8. -/
def linesOfBytes? (bytes : List UInt8) : Option (List Text) :=
  (Text.ofUtf8? bytes).map fun s => Text.lines (Text.unifyBreaks s)

/-- Replays a file with a client that is attached for the duration. A file that is not UTF-8 is
noticed after the client is attached and before its first line is taken. -/
def ofBytes (ops : Sink σ) (bytes : List UInt8) (session : Session σ) (journal : Journal) :
    Ending × Session σ × Journal :=
  let lines := linesOfBytes? bytes
  match batch ops (lines.getD []) session journal, lines with
  | (.error t, session, journal), _ => (.raised t, session, journal)
  | (.ok _, session, journal), none => (.illFormedText, session, journal)
  | (.ok report, session, journal), some _ => (.finished report, session, journal)

end Replay

end WorkloadTrace
