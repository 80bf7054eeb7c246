import WorkloadTrace.Log

/-!
# The journal of a run

The log records that the parts of a run make, each with the fields that are bound at that
moment. A block binds fields for its duration only, however it ends.
-/

namespace WorkloadTrace

/-- The part of a run that makes a log record. -/
inductive Origin where
  /-- The session. -/
  | session
  /-- The sink. -/
  | sink
  /-- A client. -/
  | client
  /-- The replay of recorded operations. -/
  | replay
deriving DecidableEq, Repr

/-- The name of the logger of a part. -/
def Origin.name : Origin → Text
  | .session => "session".toText
  | .sink => "sink".toText
  | .client => "client".toText
  | .replay => "replay".toText

/-- A log record together with the part that made it. -/
structure JournalEntry where
  /-- The part that made it. -/
  origin : Origin
  /-- The severity. -/
  severity : Severity
  /-- The message. -/
  message : Text
  /-- The fields that were bound. -/
  context : Fields Text
  /-- The report of an exception, if there was one. -/
  trouble : Option Text
deriving DecidableEq, Repr

/-- The records made so far, the last one first, and the state of logging. -/
structure Journal where
  /-- The state of logging. -/
  log : Log := {}
  /-- The records, the last one first. -/
  latest : List JournalEntry := []
deriving DecidableEq, Repr

namespace Journal

/-- The records in the order in which they were made. -/
def entries (j : Journal) : List JournalEntry := j.latest.reverse

/-- The log record of an entry. -/
def record (e : JournalEntry) : Log.Record :=
  ⟨e.severity.level, e.origin.name, e.message, e.context, e.trouble⟩

/-- What logging writes of the records, each stamped with the same time. -/
def written (time : Text) (j : Journal) : Text :=
  let admitted := j.entries.filter fun e => j.log.admits e.severity.level
  match j.log.format with
  | some format => admitted.flatMap fun e => (record e).render format time
  | none =>
    (admitted.filter fun e => Log.lastResort ≤ e.severity.level).flatMap fun e => (record e).bare

/-- Makes a record with the fields that are bound. -/
def note (severity : Severity) (origin : Origin) (message : Text) (trouble : Option Text)
    (j : Journal) : Journal :=
  { j with latest := ⟨origin, severity, message, j.log.context, trouble⟩ :: j.latest }

/-- Enters a block with fields of its own. -/
def enter (values : Fields Value) (j : Journal) : Journal := { j with log := j.log.enter values }

/-- Leaves the innermost block. -/
def exit (j : Journal) : Journal := { j with log := j.log.exit }

/-- Does something inside a block with fields of its own. -/
def within {α : Type} (values : Fields Value) (body : Journal → α × Journal) (j : Journal) :
    α × Journal :=
  let r := body (j.enter values)
  (r.1, r.2.exit)

/-- Making a record leaves the state of logging as it was. -/
@[simp] theorem log_note (severity : Severity) (origin : Origin) (message : Text)
    (trouble : Option Text) (j : Journal) :
    (j.note severity origin message trouble).log = j.log := rfl

/-- A block whose body leaves the state of logging as it found it restores the former state. -/
theorem log_within {α : Type} (values : Fields Value) (body : Journal → α × Journal) (j : Journal)
    (h : (body (j.enter values)).2.log = (j.enter values).log) :
    (j.within values body).2.log = j.log := by
  change (body (j.enter values)).2.log.exit = j.log
  rw [h]
  rfl

end Journal

end WorkloadTrace
