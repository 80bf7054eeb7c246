import Mathlib.Data.List.Forall2
import WorkloadTrace.Proofs.CallArguments
import WorkloadTrace.Proofs.SessionCourse
import WorkloadTrace.Replay

/-!
# The account of a replay

Every line of a replay is counted once, as applied, as skipped or as rejected, and a rejection names
the place of its line among all lines. Lines that are not applied leave the session alone: what
reaches the sink, and the count of selectors, are those of the calls of the accepted lines,
performed one after the other. A replay stops early only when a call raises, and none does when
every call can be written and the sink takes its line.
-/

namespace WorkloadTrace

/-- The arguments of a recorded operation are of the declared kinds. -/
theorem Operation.isTyped_toCall (o : Operation) : o.toCall.IsTyped := by
  cases o <;>
    simp only [toCall, Call.IsTyped, Value.isText_text, Value.isInteger_int, and_self]

namespace Session

variable {σ : Type}

/-- Performs calls one after the other, up to one that raises. -/
def callAll (ops : Sink σ) :
    List Call → Session σ → Journal → Option Trouble × Session σ × Journal
  | [], s, j => (none, s, j)
  | c :: rest, s, j =>
    match s.call ops c j with
    | (none, s, j) => callAll ops rest s j
    | (some t, s, j) => (some t, s, j)

/-- A session as its watched sink saw it. -/
def seen (s : Session (σ × List SinkEvent)) : Session (List SinkEvent) :=
  ⟨s.settings, s.id, s.sink.2, s.attached, s.clients, s.issued, s.levels⟩

/-- After a call that raises nothing the others are performed. -/
theorem callAll_cons {ops : Sink σ} {c : Call} {s : Session σ} {j : Journal}
    (h : (s.call ops c j).1 = none) (rest : List Call) :
    callAll ops (c :: rest) s j = callAll ops rest (s.call ops c j).2.1 (s.call ops c j).2.2 := by
  rw [callAll]
  generalize s.call ops c j = r at h
  obtain ⟨trouble, s', j'⟩ := r
  obtain rfl := h
  rfl

/-- What a call does is seen alike by a watched sink and by one in memory, and what raises on that
raises on any other. -/
theorem seen_call (ops : Sink σ) (c : Call) (s : Session (σ × List SinkEvent)) (j j' : Journal) :
    let r := s.call ops.watched c j
    let r' := s.seen.call Sink.memory c j'
    r.2.1.seen = r'.2.1 ∧ (r.1 = none → r'.1 = none) := by
  have hline : c.line? s.seen.profile s.seen.issued = c.line? s.profile s.issued := rfl
  simp only [call, hline]
  cases c.line? s.profile s.issued with
  | error t => exact ⟨rfl, fun h => h⟩
  | ok line => cases line <;> exact ⟨rfl, fun _ => rfl⟩

/-- No call changes what decides how calls are written. -/
theorem profile_call (ops : Sink σ) (c : Call) (s : Session σ) (j : Journal) :
    (s.call ops c j).2.1.profile = s.profile := by
  simp only [call]
  cases c.line? s.profile s.issued with
  | error t => rfl
  | ok line => cases line <;> rfl

end Session

/-- Whether a call raises nothing and has a line that is taken, or none, however many selectors have
been taken before. -/
def Call.Writes (takes : Text → Prop) (p : Profile) (c : Call) : Prop :=
  ∀ issued, ∃ line, c.line? p issued = .ok line ∧ ∀ q, line = some q → takes q.render

/-- A sink that raises nothing while its state is a good one, when it is handed lines that it
takes. -/
structure Sink.Serves {σ : Type} (ops : Sink σ) (takes : Text → Prop) (good : σ → Prop) : Prop where
  /-- It starts, and its state stays good. -/
  start : ∀ s j, good s → (ops.start s j).1 = none ∧ good (ops.start s j).2.1
  /-- It receives a line, and its state stays good. -/
  receive : ∀ line s j, good s → takes line →
    (ops.receive line s j).1 = none ∧ good (ops.receive line s j).2.1
  /-- It stops, and its state stays good. -/
  stop : ∀ s j, good s → (ops.stop s j).1 = none ∧ good (ops.stop s j).2.1
  /-- It tells its failures. -/
  failures : ∀ s, good s → ∃ failures, ops.failures s = .ok failures

/-- A sink in memory takes every line. -/
theorem Sink.serves_memory : Sink.memory.Serves (fun _ => True) fun _ => True :=
  ⟨fun _ _ _ => ⟨rfl, trivial⟩, fun _ _ _ _ _ => ⟨rfl, trivial⟩, fun _ _ _ => ⟨rfl, trivial⟩,
    fun _ _ => ⟨[], rfl⟩⟩

section Serves

variable {σ : Type} {ops : Sink σ} {takes : Text → Prop} {good : σ → Prop}

/-- A sink that is watched raises what it raises otherwise. -/
theorem Sink.Serves.watched (h : ops.Serves takes good) :
    ops.watched.Serves takes fun s => good s.1 where
  start s j hs := by
    obtain ⟨hnone, hgood⟩ := h.start s.1 j hs
    simp only [Sink.watched]
    generalize ops.start s.1 j = r at hnone hgood
    obtain ⟨trouble, sink, j'⟩ := r
    obtain rfl := hnone
    exact ⟨rfl, hgood⟩
  receive line s j hs hline := h.receive line s.1 j hs hline
  stop s j hs := h.stop s.1 j hs
  failures s hs := h.failures s.1 hs

/-- A call that can be written raises nothing on a sink that takes its line. -/
theorem Session.call_of_serves (h : ops.Serves takes good) {s : Session σ} (hs : good s.sink)
    {c : Call} (hc : c.Writes takes s.profile) (j : Journal) :
    (s.call ops c j).1 = none ∧ good (s.call ops c j).2.1.sink := by
  obtain ⟨line, hline, htakes⟩ := hc s.issued
  simp only [call, hline]
  cases line with
  | none => exact ⟨rfl, hs⟩
  | some q => exact h.receive q.render s.sink _ hs (htakes q rfl)

end Serves

namespace Replay

/-- Whether a line is blank or a comment. -/
def isSkipped (raw : Text) : Bool :=
  Text.strip raw = [] || (Text.strip raw).head? = some (char '#')

/-- The operation that a line holds, if it is to be performed. -/
def operation? (raw : Text) : Option Operation :=
  if isSkipped raw then none else (Operation.parse (Text.strip raw)).toOption

/-- Whether a line holds an operation that is to be performed. -/
def isAccepted (raw : Text) : Bool := (operation? raw).isSome

/-- Whether a line that is not skipped holds no operation. -/
def isRejected (raw : Text) : Bool := !isSkipped raw && (operation? raw).isNone

/-- The calls of the lines that are accepted, in order. -/
def calls (lines : List Text) : List Call := (lines.filterMap operation?).map Operation.toCall

/-- What a line is to be done with, in terms of what it holds. -/
theorem classify_cases (raw : Text) :
    (classify raw = .skipped ∧ isSkipped raw = true ∧ operation? raw = none) ∨
    (∃ o, classify raw = .operation o ∧ isSkipped raw = false ∧ operation? raw = some o) ∨
    (∃ issue, classify raw = .rejected issue ∧ isSkipped raw = false ∧ operation? raw = none) := by
  cases hs : Text.strip raw with
  | nil => exact .inl (by simp [classify, isSkipped, operation?, hs])
  | cons c cs =>
    by_cases hc : c = char '#'
    · exact .inl (by simp [classify, isSkipped, operation?, hs, hc])
    · refine .inr ?_
      cases hparse : Operation.parse (c :: cs) with
      | valid o =>
        exact .inl ⟨o, by simp [classify, isSkipped, operation?, hs, hc, hparse, Checked.toOption]⟩
      | invalid issue others =>
        exact .inr ⟨issue, by
          simp [classify, isSkipped, operation?, hs, hc, hparse, Checked.toOption]⟩

variable {σ : Type}

/-- A line that holds an operation is taken by performing its call, and is counted unless that
raises. -/
theorem takeLine_of_operation? {raw : Text} {o : Operation} (h : operation? raw = some o)
    (ops : Sink σ) (number : Nat) (st : State σ) :
    let r := st.session.call ops o.toCall st.journal
    takeLine ops number raw st = (r.1,
      ⟨{ st.report with applied := st.report.applied + if r.1.isNone then 1 else 0 },
        r.2.1, r.2.2⟩) := by
  rcases classify_cases raw with ⟨-, -, hnone⟩ | ⟨o', hline, -, ho⟩ | ⟨issue, -, -, hnone⟩
  · exact absurd (h.symm.trans hnone) nofun
  · obtain rfl := Option.some.inj (h.symm.trans ho)
    simp only [takeLine, hline]
    rcases st.session.call ops o.toCall st.journal with ⟨trouble, s, j⟩
    cases trouble <;> rfl
  · exact absurd (h.symm.trans hnone) nofun

/-- A line that holds no operation raises nothing and leaves the session alone. -/
theorem takeLine_of_operation?_eq_none {raw : Text} (h : operation? raw = none) (ops : Sink σ)
    (number : Nat) (st : State σ) :
    (takeLine ops number raw st).1 = none ∧
      (takeLine ops number raw st).2.session = st.session := by
  rcases classify_cases raw with ⟨hline, -, -⟩ | ⟨o, -, -, ho⟩ | ⟨issue, hline, -, -⟩
  · simp only [takeLine, hline, and_self]
  · exact absurd (h.symm.trans ho) nofun
  · simp only [takeLine, hline, and_self]

/-- A line changes the session by the call of its operation, if it holds one. -/
theorem takeLine_session (ops : Sink σ) (number : Nat) (raw : Text) (st : State σ) :
    (takeLine ops number raw st).2.session =
      match operation? raw with
      | some o => (st.session.call ops o.toCall st.journal).2.1
      | none => st.session := by
  cases ho : operation? raw with
  | some o => rw [takeLine_of_operation? ho]
  | none => exact (takeLine_of_operation?_eq_none ho ops number st).2

/-- After a line that raises nothing the others are taken. -/
theorem takeLines_cons {ops : Sink σ} {number : Nat} {raw : Text} {st : State σ}
    (h : (takeLine ops number raw st).1 = none) (rest : List Text) :
    takeLines ops number (raw :: rest) st =
      takeLines ops (number + 1) rest (takeLine ops number raw st).2 := by
  rw [takeLines]
  generalize takeLine ops number raw st = r at h
  obtain ⟨trouble, st'⟩ := r
  obtain rfl := h
  rfl

/-- The first line raises nothing in a replay that raises nothing. -/
theorem takeLine_of_takeLines {ops : Sink σ} {number : Nat} {raw : Text} {rest : List Text}
    {st : State σ} (h : (takeLines ops number (raw :: rest) st).1 = none) :
    (takeLine ops number raw st).1 = none := by
  rw [takeLines] at h
  generalize takeLine ops number raw st = r at h
  obtain ⟨trouble, st'⟩ := r
  cases trouble with
  | none => rfl
  | some t => cases h

/-- A state of a replay whose sink is no longer watched. -/
def State.unwatched (st : State (σ × List SinkEvent)) : State σ :=
  ⟨st.report, st.session.unwatched, st.journal⟩

/-- Watching a sink changes nothing about a line. -/
theorem unwatched_takeLine (ops : Sink σ) (number : Nat) (raw : Text)
    (st : State (σ × List SinkEvent)) :
    let r := takeLine ops.watched number raw st
    (r.1, r.2.unwatched) = takeLine ops number raw st.unwatched := by
  cases hline : classify raw with
  | skipped => simp only [takeLine, hline, State.unwatched]
  | rejected issue => simp only [takeLine, hline, State.unwatched]
  | operation o =>
    have hcall := Session.unwatched_call ops st.session st.journal o.toCall
    simp only [takeLine, hline, State.unwatched, ← hcall]
    rcases st.session.call ops.watched o.toCall st.journal with ⟨trouble, s, j⟩
    cases trouble <;> rfl

/-- Watching a sink changes nothing about a replay. -/
theorem unwatched_takeLines (ops : Sink σ) (number : Nat) (lines : List Text)
    (st : State (σ × List SinkEvent)) :
    let r := takeLines ops.watched number lines st
    (r.1, r.2.unwatched) = takeLines ops number lines st.unwatched := by
  induction lines generalizing number st with
  | nil => rfl
  | cons raw rest ih =>
    have hline := unwatched_takeLine ops number raw st
    simp only [takeLines, ← hline]
    rcases takeLine ops.watched number raw st with ⟨trouble, st'⟩
    cases trouble with
    | some t => rfl
    | none => exact ih (number + 1) st'

/-- What a rejection says of the line with a given number. -/
structure Rejects (number : Nat) (e : ErrorDetail) : Prop where
  /-- It has the code of a line that holds no operation. -/
  code_eq : e.code = ErrorDetail.invalidOperation
  /-- It is an error of validation. -/
  category_eq : e.category = .validation
  /-- It names the line. -/
  metadata_eq : e.metadata = [("line".toText, Decimal.ofNat number)]
  /-- So does its message. -/
  message : "line ".toText ++ Decimal.ofNat number ++ ": ".toText <+: e.message

/-- The message for a rejected line begins with the number of the line. -/
theorem rejectionMessage_prefix (number : Nat) (issue : Issue) :
    "line ".toText ++ Decimal.ofNat number ++ ": ".toText <+: rejectionMessage number issue := by
  unfold rejectionMessage
  exact ((List.prefix_append _ _).trans (List.prefix_append _ _)).trans (List.prefix_append _ _)

/-- A rejection says which line it rejects. -/
theorem rejects_rejection (number : Nat) (issue : Issue) :
    Rejects number (rejection number issue) :=
  ⟨rfl, rfl, rfl, rejectionMessage_prefix number issue⟩

/-- A line that raises nothing is counted once, and a line that is rejected has its error
appended. -/
theorem takeLine_report {ops : Sink σ} {number : Nat} {raw : Text} {st : State σ}
    (h : (takeLine ops number raw st).1 = none) :
    ∃ errors, (takeLine ops number raw st).2.report =
        ⟨st.report.applied + (if isAccepted raw then 1 else 0),
          st.report.skipped + (if isSkipped raw then 1 else 0), st.report.rejected ++ errors⟩ ∧
      List.Forall₂ Rejects (if isRejected raw then [number] else []) errors := by
  rcases classify_cases raw with ⟨hline, hs, ho⟩ | ⟨o, hline, hs, ho⟩ | ⟨issue, hline, hs, ho⟩
  · exact ⟨[], by simp [takeLine, hline, isAccepted, hs, ho], by simp [isRejected, hs]⟩
  · rw [takeLine_of_operation? ho] at h ⊢
    have hnone : (st.session.call ops o.toCall st.journal).1 = none := h
    exact ⟨[], by simp [isAccepted, hs, ho, hnone], by simp [isRejected, ho]⟩
  · exact ⟨[rejection number issue], by simp [takeLine, hline, isAccepted, hs, ho],
      by simp [isRejected, hs, ho, rejects_rejection]⟩

/-- The numbers of the lines that are rejected, the first line having the given number. -/
def rejectedAt (number : Nat) (lines : List Text) : List Nat :=
  ((lines.zipIdx number).filter fun line => isRejected line.1).map Prod.snd

/-- The first line is rejected under its number, and the others under the next ones. -/
theorem rejectedAt_cons (number : Nat) (raw : Text) (rest : List Text) :
    rejectedAt number (raw :: rest) =
      (if isRejected raw then [number] else []) ++ rejectedAt (number + 1) rest := by
  simp only [rejectedAt, List.zipIdx_cons, List.filter_cons]
  split <;> simp

/-- The report of a replay that raises nothing counts the lines that are accepted and those that are
skipped, and it has one error for each of the others, in order. -/
theorem takeLines_report {ops : Sink σ} {number : Nat} {lines : List Text} {st : State σ}
    (h : (takeLines ops number lines st).1 = none) :
    ∃ errors, (takeLines ops number lines st).2.report =
        ⟨st.report.applied + lines.countP isAccepted, st.report.skipped + lines.countP isSkipped,
          st.report.rejected ++ errors⟩ ∧
      List.Forall₂ Rejects (rejectedAt number lines) errors := by
  induction lines generalizing number st with
  | nil => exact ⟨[], by simp [takeLines], .nil⟩
  | cons raw rest ih =>
    have hline := takeLine_of_takeLines h
    rw [takeLines_cons hline] at h ⊢
    obtain ⟨first, hfirst, hfirst_rejects⟩ := takeLine_report hline
    obtain ⟨errors, herrors, hrejects⟩ := ih h
    refine ⟨first ++ errors, ?_, ?_⟩
    · rw [herrors, hfirst]
      simp only [List.countP_cons, List.append_assoc, Report.mk.injEq, and_true]
      omega
    · rw [rejectedAt_cons]
      exact List.rel_append hfirst_rejects hrejects

/-- Each line is of exactly one of the three kinds. -/
theorem countP_add_countP_add_length_rejectedAt (number : Nat) (lines : List Text) :
    lines.countP isAccepted + lines.countP isSkipped + (rejectedAt number lines).length =
      lines.length := by
  induction lines generalizing number with
  | nil => rfl
  | cons raw rest ih =>
    have hrest := ih (number + 1)
    rw [rejectedAt_cons, List.countP_cons, List.countP_cons, List.length_append, List.length_cons]
    rcases classify_cases raw with ⟨-, hs, ho⟩ | ⟨o, -, hs, ho⟩ | ⟨issue, -, hs, ho⟩ <;>
      simp [isAccepted, isRejected, hs, ho] <;> omega

/-- A line without an operation makes no call. -/
theorem calls_cons_of_none {raw : Text} (h : operation? raw = none) (rest : List Text) :
    calls (raw :: rest) = calls rest := by
  rw [calls, List.filterMap_cons_none h, ← calls]

/-- A line with an operation makes its call before those of the others. -/
theorem calls_cons_of_some {raw : Text} {o : Operation} (h : operation? raw = some o)
    (rest : List Text) : calls (raw :: rest) = o.toCall :: calls rest := by
  rw [calls, List.filterMap_cons_some h, List.map_cons, ← calls]

/-- A replay that raises nothing does to the session what the calls of the accepted lines do. The
two journals differ by the notes on rejected lines, so the journal of the calls is any. -/
theorem seen_takeLines {ops : Sink σ} {number : Nat} {lines : List Text}
    {st : State (σ × List SinkEvent)} (h : (takeLines ops.watched number lines st).1 = none)
    (j : Journal) :
    let r := Session.callAll Sink.memory (calls lines) st.session.seen j
    r.1 = none ∧ r.2.1 = (takeLines ops.watched number lines st).2.session.seen := by
  induction lines generalizing number st j with
  | nil => exact ⟨rfl, rfl⟩
  | cons raw rest ih =>
    have hline := takeLine_of_takeLines h
    have hsession := takeLine_session ops.watched number raw st
    rw [takeLines_cons hline] at h ⊢
    cases ho : operation? raw with
    | none =>
      rw [ho] at hsession
      have hrest := ih h j
      rw [hsession] at hrest
      rw [calls_cons_of_none ho]
      exact hrest
    | some o =>
      simp only [ho] at hsession
      rw [takeLine_of_operation? ho] at hline
      obtain ⟨hseen, hnone⟩ := Session.seen_call ops o.toCall st.session st.journal j
      rw [calls_cons_of_some ho, Session.callAll_cons (hnone hline), ← hseen, ← hsession]
      exact ih h _

/-- How a replay of some lines stops when something is raised: the lines in front of one are taken,
and the call of the operation that this holds raises it. -/
structure Stops (ops : Sink σ) (number : Nat) (st : State σ) (taken : List Text) (raw : Text)
    (t : Trouble) (after : State σ) : Prop where
  /-- No line in front raises anything. -/
  taken_eq : (takeLines ops number taken st).1 = none
  /-- The line holds an operation. -/
  accepted : isAccepted raw = true
  /-- Its call raises. -/
  raised : takeLine ops (number + taken.length) raw (takeLines ops number taken st).2 =
    (some t, after)
  /-- It is not counted. -/
  report_eq : after.report = (takeLines ops number taken st).2.report

/-- A line that raises holds an operation and is not counted. -/
theorem takeLine_eq_some {ops : Sink σ} {number : Nat} {raw : Text} {st after : State σ}
    {t : Trouble} (h : takeLine ops number raw st = (some t, after)) :
    isAccepted raw = true ∧ after.report = st.report := by
  cases ho : operation? raw with
  | none =>
    obtain ⟨hnone, -⟩ := takeLine_of_operation?_eq_none ho ops number st
    rw [h] at hnone
    cases hnone
  | some o =>
    rw [takeLine_of_operation? ho, Prod.mk.injEq] at h
    obtain ⟨hraised, rfl⟩ := h
    exact ⟨by rw [isAccepted, ho, Option.isSome_some], by simp [hraised]⟩

/-- A replay that raises stops at a line whose call raises. -/
theorem exists_stops {ops : Sink σ} {number : Nat} {lines : List Text} {st after : State σ}
    {t : Trouble} (h : takeLines ops number lines st = (some t, after)) :
    ∃ taken raw rest, lines = taken ++ raw :: rest ∧ Stops ops number st taken raw t after := by
  induction lines generalizing number st with
  | nil => cases h
  | cons first others ih =>
    cases hline : takeLine ops number first st with
    | mk trouble st' =>
      cases trouble with
      | some u =>
        have hsame : takeLines ops number (first :: others) st = (some u, st') := by
          rw [takeLines, hline]
        obtain ⟨htrouble, rfl⟩ := Prod.mk.inj (hsame.symm.trans h)
        obtain rfl := Option.some.inj htrouble
        obtain ⟨haccepted, hreport⟩ := takeLine_eq_some hline
        exact ⟨[], first, others, rfl, rfl, haccepted, hline, hreport⟩
      | none =>
        have hnone : (takeLine ops number first st).1 = none := by rw [hline]
        rw [takeLines_cons hnone] at h
        obtain ⟨taken, raw, rest, rfl, hstops⟩ := ih h
        have hcons := takeLines_cons hnone taken
        refine ⟨first :: taken, raw, rest, rfl, ?_, hstops.accepted, ?_, ?_⟩
        · rw [hcons]
          exact hstops.taken_eq
        · rw [hcons, List.length_cons, Nat.add_comm taken.length, ← Nat.add_assoc]
          exact hstops.raised
        · rw [hcons]
          exact hstops.report_eq

/-- A replay raises nothing when its calls can be written and the sink takes their lines. -/
theorem takeLines_of_serves {ops : Sink σ} {takes : Text → Prop} {good : σ → Prop}
    (h : ops.Serves takes good) (number : Nat) {lines : List Text} (st : State σ)
    (hs : good st.session.sink) (hcalls : ∀ c ∈ calls lines, c.Writes takes st.session.profile) :
    (takeLines ops number lines st).1 = none ∧
      good (takeLines ops number lines st).2.session.sink := by
  induction lines generalizing number st with
  | nil => exact ⟨rfl, hs⟩
  | cons raw rest ih =>
    cases ho : operation? raw with
    | none =>
      obtain ⟨hline, hsession⟩ := takeLine_of_operation?_eq_none ho ops number st
      rw [calls_cons_of_none ho] at hcalls
      rw [takeLines_cons hline]
      exact ih (number + 1) _ (by rwa [hsession]) (by rwa [hsession])
    | some o =>
      rw [calls_cons_of_some ho, List.forall_mem_cons] at hcalls
      obtain ⟨hnone, hgood⟩ := Session.call_of_serves h hs hcalls.1 st.journal
      have htaken := takeLine_of_operation? ho ops number st
      rw [takeLines_cons (by rw [htaken]; exact hnone), htaken]
      exact ih (number + 1) _ hgood (by rw [Session.profile_call]; exact hcalls.2)

/-- Only lines with operations make calls. -/
theorem calls_filter_isAccepted (lines : List Text) :
    calls (lines.filter isAccepted) = calls lines := by
  rw [calls, List.filterMap_filter, calls]
  congr 2
  funext raw
  cases ho : operation? raw <;> simp [isAccepted, ho]

/-- None of the lines with operations is skipped. -/
theorem countP_isSkipped_filter_isAccepted (lines : List Text) :
    (lines.filter isAccepted).countP isSkipped = 0 := by
  rw [List.countP_eq_zero]
  intro raw hraw hskipped
  have haccepted := (List.mem_filter.1 hraw).2
  simp [isAccepted, operation?, hskipped] at haccepted

/-- All of them are accepted. -/
theorem countP_isAccepted_filter_isAccepted (lines : List Text) :
    (lines.filter isAccepted).countP isAccepted = lines.countP isAccepted := by
  rw [List.countP_filter]
  simp only [Bool.and_self]

/-- None of them is rejected. -/
theorem rejectedAt_filter_isAccepted (number : Nat) (lines : List Text) :
    rejectedAt number (lines.filter isAccepted) = [] := by
  rw [rejectedAt, List.map_eq_nil_iff, List.filter_eq_nil_iff]
  intro line hline
  have haccepted := (List.mem_filter.1 (List.fst_mem_of_mem_zipIdx hline)).2
  rw [isAccepted, Option.isSome_iff_ne_none] at haccepted
  simp [isRejected, haccepted]

/-- What a report says of lines that are taken from the first one on. -/
structure Accounts (lines : List Text) (report : Report) : Prop where
  /-- Each line is counted once. -/
  total_eq : report.applied + report.skipped + report.rejected.length = lines.length
  /-- Blank lines and comments are skipped. -/
  skipped_eq : report.skipped = lines.countP isSkipped
  /-- Each other line without an operation is rejected under its number. -/
  rejects : List.Forall₂ Rejects (rejectedAt 1 lines) report.rejected

/-- The report of lines that raise nothing accounts for them, and the lines with operations are
applied. -/
theorem accounts_takeLines {ops : Sink σ} {lines : List Text} {session : Session σ}
    {journal : Journal} (h : (takeLines ops 1 lines ⟨{}, session, journal⟩).1 = none) :
    let report := (takeLines ops 1 lines ⟨{}, session, journal⟩).2.report
    Accounts lines report ∧ report.applied = lines.countP isAccepted := by
  intro report
  obtain ⟨errors, hreport, hrejects⟩ := takeLines_report h
  have hsame : report = ⟨lines.countP isAccepted, lines.countP isSkipped, errors⟩ := by
    simpa using hreport
  rw [hsame]
  refine ⟨⟨?_, rfl, hrejects⟩, rfl⟩
  change lines.countP isAccepted + lines.countP isSkipped + errors.length = lines.length
  rw [← hrejects.length_eq]
  exact countP_add_countP_add_length_rejectedAt 1 lines

/-- Lines with operations alone are all applied. -/
theorem report_filter_isAccepted {ops : Sink σ} {lines : List Text} {session : Session σ}
    {journal : Journal}
    (h : (takeLines ops 1 (lines.filter isAccepted) ⟨{}, session, journal⟩).1 = none) :
    (takeLines ops 1 (lines.filter isAccepted) ⟨{}, session, journal⟩).2.report =
      ⟨lines.countP isAccepted, 0, []⟩ := by
  obtain ⟨errors, hreport, hrejects⟩ := takeLines_report h
  rw [rejectedAt_filter_isAccepted, List.forall₂_nil_left_iff] at hrejects
  rw [hreport, hrejects, countP_isSkipped_filter_isAccepted, countP_isAccepted_filter_isAccepted]
  simp

/-- When nothing is raised, every line of a replay is counted once and each rejected one is named,
and the lines that are accepted alone decide what happens to the session. What is raised is raised
by the call of one line, and the lines in front of it are accounted for. No call raises when all of
them can be written and the sink takes their lines. -/
theorem replay_accounts_for_lines (ops : Sink σ) (lines : List Text) (session : Session σ)
    (journal : Journal) :
    let start : State (σ × List SinkEvent) := ⟨{}, session.watched, journal⟩
    let r := takeLines ops.watched 1 lines start
    let kept := takeLines ops.watched 1 (lines.filter isAccepted) start
    (r.1, r.2.unwatched) = takeLines ops 1 lines ⟨{}, session, journal⟩ ∧
    (r.1 = none → Accounts lines r.2.report ∧
      (∀ j, let all := Session.callAll Sink.memory (calls lines) session.watched.seen j
        all.1 = none ∧ all.2.1 = r.2.session.seen) ∧
      (kept.1 = none → kept.2.session.seen = r.2.session.seen ∧
        kept.2.report = ⟨r.2.report.applied, 0, []⟩)) ∧
    (∀ t, r.1 = some t → ∃ taken raw rest, lines = taken ++ raw :: rest ∧
      Stops ops.watched 1 start taken raw t r.2 ∧ Accounts taken r.2.report) ∧
    ∀ (takes : Text → Prop) (good : σ → Prop), ops.Serves takes good → good session.sink →
      (∀ c ∈ calls lines, c.Writes takes session.profile) → r.1 = none ∧ kept.1 = none := by
  intro start r kept
  refine ⟨unwatched_takeLines ops 1 lines _, fun hnone => ?_, fun t ht => ?_,
    fun takes good hops hs hcalls => ?_⟩
  · obtain ⟨haccounts, happlied⟩ := accounts_takeLines hnone
    have hseen (j : Journal) := seen_takeLines hnone j
    refine ⟨haccounts, hseen, fun hkept => ⟨?_, ?_⟩⟩
    · have hsame := (seen_takeLines hkept {}).2
      rw [calls_filter_isAccepted] at hsame
      exact hsame.symm.trans (hseen {}).2
    · rw [happlied]
      exact report_filter_isAccepted hkept
  · obtain ⟨taken, raw, rest, hlines, hstops⟩ := exists_stops (Prod.ext ht rfl)
    refine ⟨taken, raw, rest, hlines, hstops, ?_⟩
    rw [hstops.report_eq]
    exact (accounts_takeLines hstops.taken_eq).1
  · have hkept : ∀ c ∈ calls (lines.filter isAccepted), c.Writes takes session.profile := by
      rwa [calls_filter_isAccepted]
    exact ⟨(takeLines_of_serves hops.watched 1 _ hs hcalls).1,
      (takeLines_of_serves hops.watched 1 _ hs hkept).1⟩

/-- A replay for too many users stops at a line that asks for one of them, and so does not count all
its lines. -/
theorem takeLines_manyUsers {n : Nat} (h : 10 ^ Decimal.maxDigits ≤ n) (rest : List Text) :
    let line := "\x7b\"op\": \"read_meta\", \"fieldnum\": 3, ".toText ++
      "\"condition\": \"0\", \"keymatch\": \"key*\"\x7d".toText
    let session : Session (List SinkEvent) :=
      { settings := { workload := Identity.manyUsers n }, id := [], sink := [] }
    let lines := line :: rest
    let r := takeLines Sink.memory 1 lines ⟨{}, session, {}⟩
    r.1 = some .longNumeral ∧
      r.2.report.applied + r.2.report.skipped + r.2.report.rejected.length ≠ lines.length := by
  intro line session lines r
  have hline : operation? line =
      some (.readMeta "usertable".toText 3 "0".toText "key*".toText) := by decide +kernel
  have hcall : Call.line? session.profile session.issued
      (.readMeta (.text "usertable".toText) (.int 3) (.text "0".toText) (.text "key*".toText)) =
        .error .longNumeral :=
    Call.line?_eq_error_iff.2 ⟨1, Call.trouble?_manyUsers h rfl _ _⟩
  have htaken := takeLine_of_operation? hline Sink.memory 1 ⟨{}, session, {}⟩
  simp only [Operation.toCall, Session.call, Int.cast_ofNat_Int, hcall] at htaken
  simp only [r, lines, takeLines, htaken]
  simp

/-- Not every replay takes all lines and counts them, since a call can raise. -/
theorem long_numeral_stops_replay :
    let line := "\x7b\"op\": \"read_meta\", \"fieldnum\": 3, ".toText ++
      "\"condition\": \"0\", \"keymatch\": \"key*\"\x7d".toText
    let session : Session (List SinkEvent) :=
      { settings := { workload := Identity.manyUsers (10 ^ Decimal.maxDigits) }, id := [],
        sink := [] }
    let lines := [line, "# the end".toText]
    let r := takeLines Sink.memory 1 lines ⟨{}, session, {}⟩
    r.1 = some .longNumeral ∧
      r.2.report.applied + r.2.report.skipped + r.2.report.rejected.length ≠ lines.length := by
  obtain ⟨n, hn⟩ : ∃ n, n = 10 ^ Decimal.maxDigits := ⟨_, rfl⟩
  rw [← hn]
  exact takeLines_manyUsers (Nat.le_of_eq hn.symm) ["# the end".toText]

example :
    let (_, st) := takeLines Sink.memory 1
      ["# expiry".toText, [], "scan".toText,
        "\x7b\"op\": \"verify_ttl\", \"recordcount\": 3\x7d".toText] ⟨{}, Session.withOneClient, {}⟩
    (st.report.applied, st.report.skipped, st.report.rejected.map ErrorDetail.metadata) =
      (1, 2, [[("line".toText, "3".toText)]]) := by
  decide +kernel

end Replay

end WorkloadTrace
