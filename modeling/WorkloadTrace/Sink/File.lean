import WorkloadTrace.Path
import WorkloadTrace.Sink

/-!
# Sinks that append to a file

The sink holds a handle exactly from an opening that succeeded to the next closing. Every failed
operation of the storage below adds one failure, and so does every line that arrives while there
is no handle; nothing else does, and no failure reaches the caller. What the storage raises does: a
path or a line that cannot be encoded is no failure of the system.
-/

namespace WorkloadTrace

/-- What comes of opening a file. -/
inductive Opening (η : Type) where
  /-- The file is open. -/
  | opened (handle : η)
  /-- The system refused. -/
  | failed (error : SystemError)
  /-- No system accepts such a path. -/
  | raised (t : Trouble)
deriving Repr

/-- What comes of an operation on an open file. -/
inductive Completion where
  /-- It is done. -/
  | done
  /-- The system refused. -/
  | failed (error : SystemError)
  /-- No file can hold such a text. -/
  | raised (t : Trouble)
deriving Repr

/-- The operations on files that a sink needs, on a state of the storage. -/
structure Storage (σ η : Type) where
  /-- Makes the directories of a path and opens the file for appending. -/
  openAppend : Path → σ → Opening η × σ
  /-- Appends text. -/
  append : Text → η → σ → Completion × η × σ
  /-- Closes the file; the handle is gone however that ends. -/
  close : η → σ → Option SystemError × σ

/-- A sink that appends to a file. -/
structure FileSink (η : Type) where
  /-- The file. -/
  path : Path
  /-- The handle of the open file, if it is open. -/
  handle : Option η := none
  /-- The failures recorded so far, in order. -/
  failures : List ErrorDetail := []

namespace FileSink

variable {σ η : Type}

/-- What the sink was doing when something went wrong. -/
inductive Stage where
  /-- Opening the file. -/
  | opening
  /-- Writing a line. -/
  | writing
  /-- Closing the file. -/
  | closing
deriving DecidableEq, Repr

/-- The name of a stage. -/
def Stage.name : Stage → Text
  | .opening => "open".toText
  | .writing => "write".toText
  | .closing => "close".toText

/-- The code of a failure at a stage. -/
def Stage.code : Stage → Text
  | .opening => ErrorDetail.openFailed
  | .writing => ErrorDetail.writeFailed
  | .closing => ErrorDetail.closeFailed

/-- The failure for an exception of the system. -/
def systemFailure (path : Path) (stage : Stage) (e : SystemError) : ErrorDetail :=
  let detail := ErrorDetail.ofException (.system e) (some stage.code)
  { detail with
    metadata := Fields.setAll detail.metadata
      [("path".toText, path.text), ("stage".toText, stage.name)] }

/-- The failure for a line that arrives while there is no handle. -/
def notOpenFailure (path : Path) : ErrorDetail :=
  .make .dependency "trace sink is not open".toText (some ErrorDetail.writeFailed)
    [("path".toText, path.text)] false

/-- Records an exception of the system. -/
def record (stage : Stage) (e : SystemError) (s : FileSink η) (j : Journal) :
    FileSink η × Journal :=
  let message := "trace sink ".toText ++ stage.name ++ " failed: path=".toText ++ s.path.text ++
    " exception_type=".toText ++ e.kind.name
  ({ s with failures := s.failures ++ [systemFailure s.path stage e] },
    j.note .warning .sink message (some ((Exception.system e).report j.log.levels)))

/-- Opens the file unless it is open. -/
def start (storage : Storage σ η) (s : FileSink η) (files : σ) (j : Journal) :
    Option Trouble × (FileSink η × σ) × Journal :=
  match s.handle with
  | some _ => (none, (s, files), j)
  | none =>
    match storage.openAppend s.path files with
    | (.opened h, files) =>
      (none, ({ s with handle := some h }, files),
        j.note .info .sink ("trace sink opened: path=".toText ++ s.path.text) none)
    | (.failed e, files) =>
      let (s, j) := record .opening e s j
      (none, (s, files), j)
    | (.raised t, files) => (some t, (s, files), j)

/-- Appends a line to the file if it is open. -/
def receive (storage : Storage σ η) (line : Text) (s : FileSink η) (files : σ) (j : Journal) :
    Option Trouble × (FileSink η × σ) × Journal :=
  match s.handle with
  | none =>
    (none, ({ s with failures := s.failures ++ [notOpenFailure s.path] }, files),
      j.note .warning .sink
        ("trace line dropped, sink not open: path=".toText ++ s.path.text) none)
  | some h =>
    match storage.append line h files with
    | (.done, h, files) => (none, ({ s with handle := some h }, files), j)
    | (.failed e, h, files) =>
      let (s, j) := record .writing e { s with handle := some h } j
      (none, (s, files), j)
    | (.raised t, h, files) => (some t, ({ s with handle := some h }, files), j)

/-- Closes the file if it is open. -/
def stop (storage : Storage σ η) (s : FileSink η) (files : σ) (j : Journal) :
    (FileSink η × σ) × Journal :=
  match s.handle with
  | none => ((s, files), j)
  | some h =>
    match storage.close h files with
    | (none, files) =>
      (({ s with handle := none }, files),
        j.note .info .sink ("trace sink closed: path=".toText ++ s.path.text) none)
    | (some e, files) =>
      let (s, j) := record .closing e { s with handle := none } j
      ((s, files), j)

end FileSink

/-- The sink that appends to a file of a storage. -/
def Sink.file {σ η : Type} (storage : Storage σ η) : Sink (FileSink η × σ) where
  start s j := FileSink.start storage s.1 s.2 j
  receive line s j := FileSink.receive storage line s.1 s.2 j
  stop s j :=
    let (s, j) := FileSink.stop storage s.1 s.2 j
    (none, s, j)
  failures s := .ok s.1.failures

end WorkloadTrace
