import WorkloadTrace.Settings
import WorkloadTrace.Sink

/-!
# Sessions

A session shares one sink and one count of selectors among its clients. The sink is started when
the first client attaches and stopped when the last one detaches; a detachment too many changes
nothing. A client issues calls whether it is attached or not. What raises keeps the effects that it
had by then: a client is not attached if the sink cannot be started, it is detached even if the sink
cannot be stopped, and a call can lose the selector that it has taken.
-/

namespace WorkloadTrace

/-- The state of a session, with the state of its sink. -/
structure Session (σ : Type) where
  /-- The settings. -/
  settings : Settings
  /-- The name that identifies the session. -/
  id : Text
  /-- The state of the sink. -/
  sink : σ
  /-- The number of clients that are attached. -/
  attached : Nat := 0
  /-- The number of clients that were ever attached. -/
  clients : Nat := 0
  /-- The number of selectors taken. -/
  issued : Nat := 0
  /-- How deep a value can be nested and still be shown. -/
  levels : Nat := 900

namespace Session

variable {σ : Type}

/-- The fields that identify the session in log records. -/
def fields (s : Session σ) : Fields Value :=
  Log.sessionFields (.text s.id) (.text s.settings.trace.file.text)

/-- What decides how the calls of the session are written. -/
def profile (s : Session σ) : Profile := s.settings.profile s.levels

/-- Starts the sink. -/
def startSink (ops : Sink σ) (s : Session σ) (j : Journal) :
    (Option Trouble × Session σ) × Journal :=
  let j := j.note .info .session "trace session starting".toText none
  let (trouble, sink, j) := ops.start s.sink j
  ((trouble, { s with sink := sink }), j)

/-- With one more client. -/
def enlist (s : Session σ) : Session σ :=
  { s with attached := s.attached + 1, clients := s.clients + 1 }

/-- Attaches a client, unless the sink has to be started and that raises. -/
def attach (ops : Sink σ) (s : Session σ) (j : Journal) : Option Trouble × Session σ × Journal :=
  if s.attached = 0 then
    match j.within s.fields (startSink ops s) with
    | ((some t, s), j) => (some t, s, j)
    | ((none, s), j) => (none, s.enlist, j)
  else (none, s.enlist, j)

/-- Stops the sink, and counts its failures for a record. -/
def stopSink (ops : Sink σ) (s : Session σ) (j : Journal) :
    (Option Trouble × Session σ) × Journal :=
  let (trouble, sink, j) := ops.stop s.sink j
  let s := { s with sink := sink }
  match trouble, ops.failures sink with
  | some t, _ => ((some t, s), j)
  | none, .error t => ((some t, s), j)
  | none, .ok failures =>
    let message := "trace session finished: selectors=".toText ++ Decimal.ofNat s.issued ++
      " failures=".toText ++ Decimal.ofNat failures.length
    ((none, s), j.note .info .session message none)

/-- Detaches a client. -/
def detach (ops : Sink σ) (s : Session σ) (j : Journal) : Option Trouble × Session σ × Journal :=
  match s.attached with
  | 0 =>
    (none, s, j.note .warning .session
      ("trace session detach without attach: session_id=".toText ++ s.id) none)
  | 1 =>
    let ((trouble, s), j) := j.within s.fields (stopSink ops { s with attached := 0 })
    (trouble, s, j)
  | n + 2 => (none, { s with attached := n + 1 }, j)

/-- Hands a line to the sink. -/
def emit (ops : Sink σ) (q : QueryLine) (s : Session σ) (j : Journal) :
    Option Trouble × Session σ × Journal :=
  let j := j.note .debug .client ("trace line emitted: operation=".toText ++ q.verb.word) none
  let (trouble, sink, j) := ops.receive q.render s.sink j
  (trouble, { s with sink := sink }, j)

/-- Performs a call: makes its line, which can take a selector, and hands it to the sink. -/
def call (ops : Sink σ) (c : Call) (s : Session σ) (j : Journal) :
    Option Trouble × Session σ × Journal :=
  let line := c.line? s.profile s.issued
  let s := { s with issued := c.issuedAfter s.profile s.issued }
  match line with
  | .error t => (some t, s, j)
  | .ok none => (none, s, j)
  | .ok (some q) => emit ops q s j

/-- Whether an index denotes a client; an index below zero counts from the last one. -/
def hasClient (s : Session σ) (index : Int) : Bool :=
  -(s.clients : Int) ≤ index && index < s.clients

/-- A step of a session. -/
inductive Step where
  /-- A client attaches. -/
  | attach
  /-- A client detaches. -/
  | detach
  /-- The client at an index issues a call. -/
  | call (client : Int) (c : Call)

/-- What a step answers. -/
inductive Reply where
  /-- A client with this index is attached. -/
  | attached (client : Nat)
  /-- A client is detached, or there was none. -/
  | detached
  /-- The call was performed. -/
  | performed
  /-- This was raised instead. -/
  | raised (t : Trouble)
  /-- There is no such client. -/
  | noClient
deriving DecidableEq, Repr

/-- The reply to what is done unless something is raised. -/
def Reply.of (done : Reply) : Option Trouble → Reply
  | none => done
  | some t => .raised t

/-- Performs a step. -/
def step (ops : Sink σ) (s : Session σ) (j : Journal) : Step → Reply × Session σ × Journal
  | .attach =>
    let (trouble, after, j) := attach ops s j
    (Reply.of (.attached s.clients) trouble, after, j)
  | .detach =>
    let (trouble, s, j) := detach ops s j
    (Reply.of .detached trouble, s, j)
  | .call client c =>
    if s.hasClient client then
      let (trouble, s, j) := call ops c s j
      (Reply.of .performed trouble, s, j)
    else (.noClient, s, j)

/-- Performs steps in order: the reply to each, and the states after it. -/
def run (ops : Sink σ) : Session σ → Journal → List Step → List (Reply × Session σ × Journal)
  | _, _, [] => []
  | s, j, step :: rest =>
    let r := s.step ops j step
    r :: run ops r.2.1 r.2.2 rest

/-- Detaches until no client is attached. -/
def detachAll (ops : Sink σ) : Nat → Session σ → Journal → Session σ × Journal
  | 0, s, j => (s, j)
  | n + 1, s, j =>
    let (_, s, j) := detach ops s j
    detachAll ops n s j

end Session

end WorkloadTrace
