import WorkloadTrace.Proofs.SessionTrail
import WorkloadTrace.Sink.File

/-!
# The accounts of a file sink

A run of a file sink on a storage whose operations may fail at any time. Beside the sink before and
after it, each step of a run is recorded with what it did to the storage, so the handle, the
failures and the accepted lines can be compared with what the storage was asked for and answered.
-/

namespace WorkloadTrace

/-- Does one thing to a sink. -/
def Sink.perform {τ : Type} (ops : Sink τ) : SinkEvent → τ → Journal → Option Trouble × τ × Journal
  | .started, s, j => ops.start s j
  | .received line, s, j => ops.receive line s j
  | .stopped, s, j => ops.stop s j

/-- The error of an operation that the system refused. -/
def Completion.error : Completion → Option SystemError
  | .failed e => some e
  | _ => none

/-- What is asked of a storage, with the error that was answered, if there was one. -/
inductive Attempt where
  /-- A file was to be opened. -/
  | opening (error : Option SystemError)
  /-- A line was to be appended. -/
  | appending (line : Text) (error : Option SystemError)
  /-- A file was to be closed. -/
  | closing (error : Option SystemError)

namespace Attempt

/-- The error that was answered. -/
def error : Attempt → Option SystemError
  | .opening e => e
  | .appending _ e => e
  | .closing e => e

/-- The line that an open file took. -/
def accepted? : Attempt → Option Text
  | .appending line none => some line
  | _ => none

/-- Whether a file was opened. -/
def opens : Attempt → Bool
  | .opening none => true
  | _ => false

end Attempt

namespace Storage

variable {σ η : Type}

/-- A storage that keeps a list of what is asked of it, unless that raises. -/
def watched (storage : Storage σ η) : Storage (σ × List Attempt) η where
  openAppend path state :=
    match storage.openAppend path state.1 with
    | (.opened h, files) => (.opened h, files, state.2 ++ [.opening none])
    | (.failed e, files) => (.failed e, files, state.2 ++ [.opening (some e)])
    | (.raised t, files) => (.raised t, files, state.2)
  append line h state :=
    match storage.append line h state.1 with
    | (.raised t, h, files) => (.raised t, h, files, state.2)
    | (completion, h, files) =>
      (completion, h, files, state.2 ++ [.appending line completion.error])
  close h state :=
    let r := storage.close h state.1
    (r.1, r.2, state.2 ++ [.closing r.1])

/-- Whether a storage raises nothing: it does what it is asked for, or the system refuses. -/
structure Quiet (storage : Storage σ η) (path : Path) : Prop where
  /-- It opens the path, or the system refuses. -/
  openAppend : ∀ files t, (storage.openAppend path files).1 ≠ .raised t
  /-- It appends what it is given, or the system refuses. -/
  append : ∀ line h files t, (storage.append line h files).1 ≠ .raised t

end Storage

namespace FileSink

variable {σ η : Type}

/-- Watching a storage changes nothing for the sink above it. -/
theorem perform_watched (storage : Storage σ η) (event : SinkEvent) (s : FileSink η) (files : σ)
    (asked : List Attempt) (j : Journal) :
    let seen := (Sink.file storage.watched).perform event (s, files, asked) j
    (seen.1, (seen.2.1.1, seen.2.1.2.1), seen.2.2) =
      (Sink.file storage).perform event (s, files) j := by
  cases event with
  | started =>
    simp only [Sink.perform, Sink.file, start, Storage.watched]
    cases s.handle with
    | some h => rfl
    | none =>
      simp only
      cases storage.openAppend s.path files with
      | mk opening files => cases opening <;> rfl
  | received line =>
    simp only [Sink.perform, Sink.file, receive, Storage.watched]
    cases s.handle with
    | none => rfl
    | some h =>
      simp only
      rcases storage.append line h files with ⟨completion, rest⟩
      cases completion <;> rfl
  | stopped =>
    simp only [Sink.perform, Sink.file, stop, Storage.watched]
    cases s.handle with
    | none => rfl
    | some h =>
      simp only
      cases storage.close h files with
      | mk error files => cases error <;> rfl

/-- One step of a run. -/
structure Record (η : Type) where
  /-- What was done to the sink. -/
  event : SinkEvent
  /-- The sink before the step. -/
  before : FileSink η
  /-- What the step asked of the storage. -/
  attempts : List Attempt
  /-- What the step raised, if it raised anything. -/
  raised : Option Trouble
  /-- The sink after the step. -/
  after : FileSink η

/-- The steps of a run in order. What a step asks of the storage is what the same step asks of the
storage when it is watched. -/
def history (storage : Storage σ η) :
    FileSink η → σ → Journal → List SinkEvent → List (Record η)
  | _, _, _, [] => []
  | s, files, j, event :: rest =>
    let r := (Sink.file storage).perform event (s, files) j
    let seen := (Sink.file storage.watched).perform event (s, files, []) j
    ⟨event, s, seen.2.1.2.2, r.1, r.2.1.1⟩ :: history storage r.2.1.1 r.2.1.2 r.2.2 rest

/-- The sink after all steps of a run. -/
def afterAll (s : FileSink η) (rs : List (Record η)) : FileSink η :=
  (rs.getLast?.map Record.after).getD s

@[simp] theorem afterAll_nil (s : FileSink η) : s.afterAll [] = s := rfl

@[simp] theorem afterAll_cons (s : FileSink η) (r : Record η) (rs : List (Record η)) :
    s.afterAll (r :: rs) = r.after.afterAll rs :=
  getD_map_getLast?_cons _ r rs s

/-- Everything that a step may do on a storage that raises nothing. -/
inductive Account : Record η → Prop where
  /-- An open file stays open. -/
  | reopened {s : FileSink η} (h : s.handle.isSome = true) : Account ⟨.started, s, [], none, s⟩
  /-- The file is opened. -/
  | opened {s : FileSink η} (h : s.handle = none) (handle : η) :
    Account ⟨.started, s, [.opening none], none, { s with handle := some handle }⟩
  /-- The file cannot be opened. -/
  | openingFailed {s : FileSink η} (h : s.handle = none) (e : SystemError) :
    Account ⟨.started, s, [.opening (some e)], none,
      { s with failures := s.failures ++ [systemFailure s.path .opening e] }⟩
  /-- A line arrives while no file is open. -/
  | dropped {s : FileSink η} (h : s.handle = none) (line : Text) :
    Account ⟨.received line, s, [], none,
      { s with failures := s.failures ++ [notOpenFailure s.path] }⟩
  /-- A line is appended. -/
  | appended {s : FileSink η} (h : s.handle.isSome = true) (line : Text) (handle : η) :
    Account ⟨.received line, s, [.appending line none], none, { s with handle := some handle }⟩
  /-- A line cannot be appended. -/
  | appendingFailed {s : FileSink η} (h : s.handle.isSome = true) (line : Text) (handle : η)
    (e : SystemError) :
    Account ⟨.received line, s, [.appending line (some e)], none,
      { s with handle := some handle, failures := s.failures ++ [systemFailure s.path .writing e] }⟩
  /-- No file is open. -/
  | notOpen {s : FileSink η} (h : s.handle = none) : Account ⟨.stopped, s, [], none, s⟩
  /-- The file is closed. -/
  | closed {s : FileSink η} (h : s.handle.isSome = true) :
    Account ⟨.stopped, s, [.closing none], none, { s with handle := none }⟩
  /-- Closing fails and the file is gone. -/
  | closingFailed {s : FileSink η} (h : s.handle.isSome = true) (e : SystemError) :
    Account ⟨.stopped, s, [.closing (some e)], none,
      { s with handle := none, failures := s.failures ++ [systemFailure s.path .closing e] }⟩

/-- Every event at a sink that is watched is accounted for. -/
theorem account_watched {storage : Storage σ η} {s : FileSink η}
    (hquiet : storage.Quiet s.path) (event : SinkEvent)
    (files : σ) (j : Journal) :
    let seen := (Sink.file storage.watched).perform event (s, files, []) j
    Account ⟨event, s, seen.2.1.2.2, seen.1, seen.2.1.1⟩ := by
  obtain ⟨path, handle, failures⟩ := s
  cases event with
  | started =>
    cases handle with
    | some h => exact .reopened rfl
    | none =>
      simp only [Sink.perform, Sink.file, start, Storage.watched]
      cases hopen : storage.openAppend path files with
      | mk opening files' =>
        cases opening with
        | opened handle => exact .opened rfl handle
        | failed e => exact .openingFailed rfl e
        | raised t => exact absurd (congrArg Prod.fst hopen) (hquiet.openAppend files t)
  | received line =>
    cases handle with
    | none => exact .dropped rfl line
    | some h =>
      simp only [Sink.perform, Sink.file, receive, Storage.watched]
      cases happend : storage.append line h files with
      | mk completion rest =>
        cases completion with
        | done => exact .appended rfl line rest.1
        | failed e => exact .appendingFailed rfl line rest.1 e
        | raised t => exact absurd (congrArg Prod.fst happend) (hquiet.append line h files t)
  | stopped =>
    cases handle with
    | none => exact .notOpen rfl
    | some h =>
      simp only [Sink.perform, Sink.file, stop, Storage.watched]
      cases storage.close h files with
      | mk error files' =>
        cases error with
        | none => exact .closed rfl
        | some e => exact .closingFailed rfl e

/-- A step of a sink is one of the accounts. -/
theorem account_perform {storage : Storage σ η} {s : FileSink η}
    (hquiet : storage.Quiet s.path) (event : SinkEvent)
    (files : σ) (j : Journal) :
    let r := (Sink.file storage).perform event (s, files) j
    let seen := (Sink.file storage.watched).perform event (s, files, []) j
    Account ⟨event, s, seen.2.1.2.2, r.1, r.2.1.1⟩ := by
  intro r seen
  have hsame : (seen.1, (seen.2.1.1, seen.2.1.2.1), seen.2.2) = r :=
    perform_watched storage event s files [] j
  rw [← hsame]
  exact account_watched hquiet event files j

/-- A step keeps the path of its sink. -/
theorem Account.path_eq {r : Record η} (h : Account r) : r.after.path = r.before.path := by
  cases h <;> rfl

/-- Accounts in a row: each step begins with the sink that the one before it left. -/
inductive Ledger : FileSink η → List (Record η) → Prop where
  /-- Nothing was done. -/
  | nil (s : FileSink η) : Ledger s []
  /-- One more step in front. -/
  | cons {r : Record η} {rs : List (Record η)} (h : Account r) (hrest : Ledger r.after rs) :
    Ledger r.before (r :: rs)

/-- A run on a storage that raises nothing is a ledger. -/
theorem ledger_history {storage : Storage σ η} {s : FileSink η}
    (hquiet : storage.Quiet s.path) (files : σ) (j : Journal)
    (events : List SinkEvent) : Ledger s (history storage s files j events) := by
  induction events generalizing s files j with
  | nil => exact .nil s
  | cons event rest ih =>
    have hstep := account_perform hquiet event files j
    have hkept := hstep.path_eq
    simp only at hkept
    exact .cons hstep (ih (by rwa [hkept]) _ _)

/-- All records of a ledger are. -/
theorem Ledger.account {s : FileSink η} {rs : List (Record η)} (h : Ledger s rs) :
    ∀ r ∈ rs, Account r := by
  induction h with
  | nil s => simp
  | cons hr hrest ih => exact List.forall_mem_cons.2 ⟨hr, ih⟩

namespace Record

/-- Whether the step opened the file. -/
def opens (r : Record η) : Bool := r.attempts.any Attempt.opens

/-- Whether the storage failed. -/
def breaks (r : Record η) : Bool := r.attempts.any fun a => a.error.isSome

/-- Whether the step is a line for which no file is open. -/
def drops (r : Record η) : Bool := r.event.line?.isSome && r.before.handle.isNone

/-- The lines that an open file took during the step. -/
def accepted (r : Record η) : List Text := r.attempts.filterMap Attempt.accepted?

/-- The line of the step if a file was open and the storage did not fail. -/
def written? (r : Record η) : Option Text :=
  if r.before.handle.isSome && !r.breaks then r.event.line? else none

end Record

/-- A file was opened that has not been closed since. -/
def OpenSince (rs : List (Record η)) : Prop :=
  ∃ front r rear, rs = front ++ r :: rear ∧ r.opens = true ∧ ∀ t ∈ rear, t.event ≠ .stopped

/-- A file is open since a first record, or since a later one. -/
theorem openSince_cons {r : Record η} {rs : List (Record η)} :
    OpenSince (r :: rs) ↔ r.opens = true ∧ (∀ t ∈ rs, t.event ≠ .stopped) ∨ OpenSince rs := by
  constructor
  · rintro ⟨front, t, rear, hsplit, ht, hrear⟩
    cases front with
    | nil =>
      obtain ⟨rfl, rfl⟩ := List.cons.inj hsplit
      exact Or.inl ⟨ht, hrear⟩
    | cons u front =>
      obtain ⟨rfl, rfl⟩ := List.cons.inj hsplit
      exact Or.inr ⟨front, t, rear, rfl, ht, hrear⟩
  · rintro (⟨hr, hrs⟩ | ⟨front, t, rear, rfl, ht, hrear⟩)
    · exact ⟨[], r, rs, rfl, hr, hrs⟩
    · exact ⟨r :: front, t, rear, rfl, ht, hrear⟩

/-- A step leaves a handle exactly when it opens the file, or finds a handle and does not close. -/
theorem Account.handle_iff {r : Record η} (h : Account r) :
    r.after.handle.isSome = true ↔
      r.opens = true ∨ r.before.handle.isSome = true ∧ r.event ≠ .stopped := by
  cases h <;> simp [Record.opens, Attempt.opens, *]

/-- There is a handle at the end when one was opened and not closed since. -/
theorem Ledger.handle_iff {s : FileSink η} {rs : List (Record η)} (h : Ledger s rs) :
    (s.afterAll rs).handle.isSome = true ↔
      OpenSince rs ∨ s.handle.isSome = true ∧ ∀ r ∈ rs, r.event ≠ .stopped := by
  induction h with
  | nil s => simp [OpenSince]
  | cons hr hrest ih =>
    rw [afterAll_cons, ih, hr.handle_iff, openSince_cons, List.forall_mem_cons]
    constructor
    · rintro (hopen | ⟨hopens | ⟨hheld, hstep⟩, hstops⟩)
      · exact Or.inl (Or.inr hopen)
      · exact Or.inl (Or.inl ⟨hopens, hstops⟩)
      · exact Or.inr ⟨hheld, hstep, hstops⟩
    · rintro ((⟨hopens, hstops⟩ | hopen) | ⟨hheld, hstep, hstops⟩)
      · exact Or.inr ⟨Or.inl hopens, hstops⟩
      · exact Or.inl hopen
      · exact Or.inr ⟨Or.inr ⟨hheld, hstep⟩, hstops⟩

/-- A step adds one failure when the storage fails or a line is dropped, and none otherwise. -/
theorem Account.failures {r : Record η} (h : Account r) :
    ∃ new, r.after.failures = r.before.failures ++ new ∧
      new.length = if r.breaks || r.drops then 1 else 0 := by
  have hnone : ∀ old : List ErrorDetail, old = old ++ [] := fun old => (List.append_nil old).symm
  cases h with
  | reopened h => exact ⟨[], hnone _, rfl⟩
  | opened h handle => exact ⟨[], hnone _, rfl⟩
  | openingFailed h e => exact ⟨[_], rfl, rfl⟩
  | dropped h line => exact ⟨[_], rfl, by simp [Record.breaks, Record.drops, SinkEvent.line?, h]⟩
  | appended h line handle =>
    obtain ⟨held, hheld⟩ := Option.isSome_iff_exists.1 h
    exact ⟨[], hnone _, by simp [Record.breaks, Record.drops, Attempt.error, hheld]⟩
  | appendingFailed h line handle e => exact ⟨[_], rfl, rfl⟩
  | notOpen h => exact ⟨[], hnone _, rfl⟩
  | closed h => exact ⟨[], hnone _, rfl⟩
  | closingFailed h e => exact ⟨[_], rfl, rfl⟩

/-- The failures of a run are as many as its events that break and the lines that it drops. -/
theorem Ledger.failures {s : FileSink η} {rs : List (Record η)} (h : Ledger s rs) :
    ∃ new, (s.afterAll rs).failures = s.failures ++ new ∧
      new.length = rs.countP fun r => r.breaks || r.drops := by
  induction h with
  | nil s => exact ⟨[], by simp⟩
  | cons hr hrest ih =>
    obtain ⟨here, hhere, hcount⟩ := hr.failures
    obtain ⟨later, hlater, hrestCount⟩ := ih
    refine ⟨here ++ later, ?_, ?_⟩
    · rw [afterAll_cons, hlater, hhere, List.append_assoc]
    · rw [List.length_append, hcount, hrestCount, List.countP_cons, Nat.add_comm]

/-- A step that brings a line hands it to an open file or records one failed write. -/
theorem Account.write {r : Record η} (h : Account r) {line : Text}
    (hline : r.event = .received line) :
    r.accepted = [line] ∧ r.after.failures = r.before.failures ∨
      r.accepted = [] ∧ ∃ d : ErrorDetail, d.code = ErrorDetail.writeFailed ∧
        r.after.failures = r.before.failures ++ [d] := by
  cases h with
  | dropped h line => exact Or.inr ⟨rfl, notOpenFailure _, rfl, rfl⟩
  | appended h line handle =>
    obtain rfl := SinkEvent.received.inj hline
    exact Or.inl ⟨rfl, rfl⟩
  | appendingFailed h line handle e => exact Or.inr ⟨rfl, systemFailure _ .writing e, rfl, rfl⟩
  | _ => exact absurd hline (by simp)

/-- What an open file takes during a step is the line of the step, unless the storage fails. -/
theorem Account.accepted_eq {r : Record η} (h : Account r) :
    r.accepted = r.written?.toList := by
  cases h <;>
    simp [Record.accepted, Record.written?, Record.breaks, SinkEvent.line?, Attempt.accepted?,
      Attempt.error, *]

/-- What the storage was handed are the texts that were written. -/
theorem Ledger.accepted_eq {s : FileSink η} {rs : List (Record η)} (h : Ledger s rs) :
    rs.flatMap Record.accepted = rs.filterMap Record.written? := by
  induction h with
  | nil s => rfl
  | @cons r rs hr hrest ih =>
    rw [List.flatMap_cons, hr.accepted_eq, ih]
    cases hwritten : r.written? <;> simp [hwritten]

/-- The accounts of a run from a sink without a handle are in order. -/
structure Balanced (s : FileSink η) (rs : List (Record η)) : Prop where
  /-- Every step returns. -/
  returned : ∀ r ∈ rs, r.raised = none
  /-- The sink has a handle exactly when a file was opened that has not been closed since. -/
  handle_iff : (s.afterAll rs).handle.isSome = true ↔ OpenSince rs
  /-- Opening an open file changes nothing and asks nothing of the storage. -/
  reopening : ∀ r ∈ rs, r.event = .started → r.before.handle.isSome = true →
    r.after = r.before ∧ r.attempts = []
  /-- A file that cannot be opened leaves no handle. -/
  openingFailed : ∀ r ∈ rs, r.event = .started → r.breaks = true → r.after.handle = none
  /-- Closing leaves no handle, however it ends. -/
  stopping : ∀ r ∈ rs, r.event = .stopped → r.after.handle = none
  /-- A step adds one failure when the storage fails or a line is dropped, and none otherwise. -/
  failing : ∀ r ∈ rs, ∃ new, r.after.failures = r.before.failures ++ new ∧
    new.length = if r.breaks || r.drops then 1 else 0
  /-- The run adds as many failures as it has such steps. -/
  failures : ∃ new, (s.afterAll rs).failures = s.failures ++ new ∧
    new.length = rs.countP fun r => r.breaks || r.drops
  /-- The open files took the lines that found one open which did not fail, in order. -/
  accepted : rs.flatMap Record.accepted = rs.filterMap Record.written?
  /-- A line is taken once or recorded as one failed write, and never both. -/
  write : ∀ r ∈ rs, ∀ line, r.event = .received line →
    r.accepted = [line] ∧ r.after.failures = r.before.failures ∨
      r.accepted = [] ∧ ∃ d : ErrorDetail, d.code = ErrorDetail.writeFailed ∧
        r.after.failures = r.before.failures ++ [d]

/-- Every run of a file sink keeps its accounts in order, whatever the storage below it answers. -/
theorem history_balanced (storage : Storage σ η) (path : Path) (files : σ) (j : Journal)
    (events : List SinkEvent) (hquiet : storage.Quiet path) :
    Balanced { path := path } (history storage { path := path } files j events) := by
  have hledger : Ledger { path := path } (history storage { path := path } files j events) :=
    ledger_history hquiet files j events
  have haccount := hledger.account
  refine ⟨?_, ?_, ?_, ?_, ?_, ?_, hledger.failures, hledger.accepted_eq, ?_⟩
  · intro r hr
    cases haccount r hr <;> rfl
  · have hiff := hledger.handle_iff
    simpa using hiff
  · intro r hr hevent hheld
    cases haccount r hr with
    | reopened h => exact ⟨rfl, rfl⟩
    | opened h handle => simp [h] at hheld
    | openingFailed h e => simp [h] at hheld
    | _ => exact absurd hevent (by simp)
  · intro r hr hevent hbreaks
    cases haccount r hr with
    | reopened h => exact absurd hbreaks (by simp [Record.breaks])
    | opened h handle => exact absurd hbreaks (by simp [Record.breaks, Attempt.error])
    | openingFailed h e => exact h
    | _ => exact absurd hevent (by simp)
  · intro r hr hevent
    cases haccount r hr with
    | notOpen h => exact h
    | closed h => rfl
    | closingFailed h e => rfl
    | _ => exact absurd hevent (by simp)
  · exact fun r hr => (haccount r hr).failures
  · exact fun r hr line hline => (haccount r hr).write hline

/-- A storage that answers as a script says: each operation takes the next answer, and none when the
script is at its end. -/
def scripted : Storage (List (Option SystemError)) Unit where
  openAppend _ script :=
    match script with
    | some e :: rest => (.failed e, rest)
    | _ => (.opened (), script.tail)
  append _ _ script :=
    match script with
    | some e :: rest => (.failed e, (), rest)
    | _ => (.done, (), script.tail)
  close _ script := (script.head?.join, script.tail)

/-- A script has no answer that raises. -/
theorem quiet_scripted (path : Path) : scripted.Quiet path where
  openAppend script t := by
    simp only [scripted]
    split <;> simp
  append line h script t := by
    simp only [scripted]
    split <;> simp

/-- A run in which an opening, a line and a closing fail, and lines arrive while no file is open. -/
def faultyRun : List (Record Unit) :=
  let full : SystemError := .ofNumber 28 "No space left on device".toText "trace.log".toText
  history scripted { path := Path.parse "trace.log".toText }
    [some full, none, none, some full, some full] {}
    [.received "a".toText, .started, .started, .started, .received "b".toText,
      .received "c".toText, .stopped, .received "d".toText, .stopped, .started,
      .received "e".toText]

/-- A run in which an opening, a write and a closing fail. -/
theorem faultyRun_balanced :
    scripted.Quiet (Path.parse "trace.log".toText) ∧
      Balanced { path := Path.parse "trace.log".toText } faultyRun ∧
      faultyRun.flatMap Record.accepted = ["b".toText, "e".toText] ∧
      (faultyRun.countP fun r => r.breaks || r.drops) = 5 :=
  ⟨quiet_scripted _, history_balanced scripted _ _ _ _ (quiet_scripted _), by decide, by decide⟩

end FileSink

end WorkloadTrace
