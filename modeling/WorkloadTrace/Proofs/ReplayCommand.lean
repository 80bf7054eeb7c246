import WorkloadTrace.CommandLine
import WorkloadTrace.Proofs.PrintedLines
import WorkloadTrace.Proofs.ReplayedLines

/-!
# The replay command from end to end

The exit code of a replay says what became of every line of its file. A code of 0 or 3 means that
the trace file was opened, so that it holds what it held before and then the lines of the applied
operations in order; the code 4 means that it could not be opened, and each line of the trace is
then recorded as lost. Settings that are not valid end with the code 2 before any file is touched.
There is no exit code for a path that cannot be encoded, and none when the summary cannot be
printed, which shows the path.
-/

namespace WorkloadTrace

open Decimal (maxDigits)
open FileTree (Holds Handle)

/-- The lines that calls write one after the other when `issued` selectors have been taken before
the first of them. -/
def Call.linesFrom (p : Profile) : Nat → List Call → List Text
  | _, [] => []
  | issued, c :: rest =>
    (c.events p issued).filterMap SinkEvent.line? ++ linesFrom p (c.issuedAfter p issued) rest

namespace Session

variable {σ : Type}

/-- A call takes its selector whatever comes of it. -/
theorem issued_call (ops : Sink σ) (c : Call) (s : Session σ) (j : Journal) :
    (s.call ops c j).2.1.issued = c.issuedAfter s.profile s.issued := by
  simp only [Session.call]
  cases c.line? s.profile s.issued with
  | error e => rfl
  | ok line => cases line <;> rfl

/-- The lines among the events of a call are those of its query. -/
theorem filterMap_line?_events (s : Session σ) (c : Call) :
    (c.events s.profile s.issued).filterMap SinkEvent.line? =
      ((s.queryFor c).map QueryLine.render).toList := by
  simp only [Call.events, queryFor]
  cases c.line? s.profile s.issued with
  | error e => rfl
  | ok line => cases line <;> rfl

/-- A detachment leaves one client less. -/
theorem attached_detach (ops : Sink σ) (s : Session σ) (j : Journal) :
    (s.detach ops j).2.1.attached = s.attached - 1 := by
  rcases s.detach_cases ops j with ⟨hlast, j', -, hafter⟩ | ⟨-, hafter⟩
  · rw [hafter, hlast]
  · rw [hafter]

end Session

namespace Replay

variable {σ : Type}

/-- A report that counts every line once, with one error for each line that is rejected. -/
structure Tallied (lines : List Text) (report : Report) : Prop where
  /-- The lines that hold an operation. -/
  applied_eq : report.applied = lines.countP isAccepted
  /-- The lines that are blank or comments. -/
  skipped_eq : report.skipped = lines.countP isSkipped
  /-- The other lines, each with its place. -/
  rejected : List.Forall₂ Rejects (rejectedAt 1 lines) report.rejected

/-- The report of a replay tells its lines apart. -/
theorem tallied_takeLines {ops : Sink σ} {lines : List Text} {s : Session σ} {j : Journal}
    {st : State σ} (h : takeLines ops 1 lines ⟨{}, s, j⟩ = (none, st)) :
    Tallied lines st.report := by
  obtain ⟨errors, hreport, hrejects⟩ := takeLines_report (congrArg Prod.fst h)
  rw [h] at hreport
  rw [hreport]
  exact ⟨Nat.zero_add _, Nat.zero_add _, by simpa using hrejects⟩

/-- Every line is applied, rejected or skipped. -/
theorem Tallied.sum {lines : List Text} {report : Report} (h : Tallied lines report) :
    report.applied + report.rejected.length + report.skipped = lines.length := by
  have hcount := countP_add_countP_add_length_rejectedAt 1 lines
  rw [h.applied_eq, h.skipped_eq, ← h.rejected.length_eq]
  omega

/-- No number is reported when no line is rejected. -/
theorem rejectedAt_eq_nil_iff (number : Nat) (lines : List Text) :
    rejectedAt number lines = [] ↔ ∀ raw ∈ lines, isRejected raw = false := by
  induction lines generalizing number with
  | nil => simp [rejectedAt]
  | cons raw rest ih =>
    rw [rejectedAt_cons, List.append_eq_nil_iff, ih, List.forall_mem_cons]
    cases isRejected raw <;> simp

/-- Without a rejection every line that is not skipped holds an operation. -/
theorem Tallied.isAccepted {lines : List Text} {report : Report} (h : Tallied lines report)
    (hnone : report.rejected = []) {raw : Text} (hraw : raw ∈ lines)
    (hskipped : isSkipped raw = false) : isAccepted raw = true := by
  have hempty := h.rejected
  rw [hnone, List.forall₂_nil_right_iff, rejectedAt_eq_nil_iff] at hempty
  have hkept := hempty raw hraw
  simp only [isRejected, hskipped, Bool.not_false, Bool.true_and] at hkept
  simpa [Replay.isAccepted, Option.isSome_iff_ne_none] using hkept

/-- What holds of a session and of the lines written so far holds after a replay and of its lines,
too, if every call keeps it that raises nothing. -/
theorem takeLines_induction {ops : Sink σ} (holds : Session σ → List Text → Prop)
    (hcall : ∀ s written c j, (s.call ops c j).1 = none → holds s written →
      holds (s.call ops c j).2.1 (written ++ ((s.queryFor c).map QueryLine.render).toList))
    {number : Nat} {lines : List Text} {st : State σ}
    (hnone : (takeLines ops number lines st).1 = none) (written : List Text)
    (h : holds st.session written) :
    holds (takeLines ops number lines st).2.session
      (written ++ Call.linesFrom st.session.profile st.session.issued (calls lines)) := by
  induction lines generalizing number st written with
  | nil => simpa [takeLines, calls, Call.linesFrom] using h
  | cons raw rest ih =>
    have hline := takeLine_of_takeLines hnone
    have hsession := takeLine_session ops number raw st
    rw [takeLines_cons hline] at hnone ⊢
    cases ho : operation? raw with
    | none =>
      simp only [ho] at hsession
      have hrest := ih hnone written (hsession ▸ h)
      rw [hsession] at hrest
      rwa [calls_cons_of_none ho]
    | some o =>
      simp only [ho] at hsession
      rw [takeLine_of_operation? ho] at hline
      have hstep := hcall st.session written o.toCall st.journal hline h
      have hrest := ih hnone _ (hsession ▸ hstep)
      rw [hsession, Session.profile_call, Session.issued_call, List.append_assoc,
        ← Session.filterMap_line?_events] at hrest
      rwa [calls_cons_of_some ho, Call.linesFrom]

/-- While the file is open, the lines are appended to it. -/
theorem traces_takeLines {path : Path} {files : FileTree} {place : Location}
    {content : List UInt8} {failures : List ErrorDetail} {number : Nat} {lines : List Text}
    {st : State (FileSink Handle × FileTree)}
    (hnone : (takeLines (Sink.file FileTree.storage) number lines st).1 = none)
    (h : Session.Traces path files place st.session content failures)
    (hattached : 0 < st.session.attached) :
    let s := st.session
    let s' := (takeLines (Sink.file FileTree.storage) number lines st).2.session
    (s'.attached = s.attached ∧ s'.clients = s.clients) ∧
      Session.Traces path files place s'
        (content ++ Text.utf8 (Call.linesFrom s.profile s.issued (calls lines)).flatten)
        failures := by
  intro s
  refine takeLines_induction (fun s' written =>
    (s'.attached = s.attached ∧ s'.clients = s.clients) ∧
      Session.Traces path files place s' (content ++ Text.utf8 written.flatten) failures)
    ?_ hnone [] ⟨⟨rfl, rfl⟩, by simpa [Text.utf8] using h⟩
  rintro s' written c j hperformed ⟨⟨hcount, hever⟩, htraces⟩
  cases hquery : s'.queryFor c with
  | none =>
    obtain ⟨hsame, hkept, hclients⟩ :=
      Session.call_of_queryFor_eq_none hquery (Sink.file FileTree.storage) j
    exact ⟨⟨hkept.trans hcount, hclients.trans hever⟩,
      by simpa using htraces.congr hsame hkept hclients⟩
  | some q =>
    obtain ⟨⟨j', hreply, hline⟩, hkept, hclients⟩ :=
      Session.call_of_queryFor_eq_some hquery (Sink.file FileTree.storage) j
    have hsome : 0 < s'.attached := hcount ▸ hattached
    refine ⟨⟨hkept.trans hcount, hclients.trans hever⟩, ?_⟩
    obtain ⟨hraised, hreceived⟩ := htraces.receive hsome q.render j'
    have hlegible : Text.hasSurrogate q.render = false :=
      Text.encodeTrouble?_fitsUtf8.1 (hraised.symm.trans (hreply.symm.trans hperformed))
    have hwritten := hreceived _ hline hkept
    rw [hlegible] at hwritten
    simpa [Text.utf8_append] using hwritten

/-- A batch that raises nothing counts its lines. -/
theorem tallied_batch {ops : Sink σ} {lines : List Text} {s s' : Session σ} {j j' : Journal}
    {report : Report} (h : batch ops lines s j = (.ok report, s', j')) : Tallied lines report := by
  obtain ⟨s₁, j₁, st, -, htaken, -, rfl⟩ := batch_eq_ok h
  exact tallied_takeLines htaken

/-- A batch on a file that can be opened appends the lines of its calls. -/
theorem traces_batch {path : Path} {files opened : FileTree} {place : Location}
    {s s' : Session (FileSink Handle × FileTree)} {content : List UInt8}
    {failures : List ErrorDetail} {lines : List Text} {report : Report} {j j' : Journal}
    (hopen : FileTree.openAppend path files = (.opened (.file place []), opened))
    (hopened : Holds opened path place (files.contentAt place))
    (h : Session.Traces path files place s content failures)
    (hbatch : batch (Sink.file FileTree.storage) lines s j = (.ok report, s', j')) :
    s'.attached = s.attached ∧ s'.clients = s.clients + 1 ∧
      Session.Traces path files place s'
        (content ++ Text.utf8 (Call.linesFrom s.profile s.issued (calls lines)).flatten)
        failures := by
  obtain ⟨s₁, j₁, st, hattach, htaken, hdetach, -⟩ := batch_eq_ok hbatch
  obtain ⟨s₁', j₁', hattached, hclients, htraces⟩ := h.attach hopen hopened j
  obtain ⟨-, hpair⟩ := Prod.mk.inj (hattach.symm.trans hattached)
  obtain ⟨rfl, rfl⟩ := Prod.mk.inj hpair
  have hkeeps := Session.attach_keeps (Sink.file FileTree.storage) s j
  rw [hattach] at hkeeps
  obtain ⟨hprofile, hissued, hcount⟩ := hkeeps
  have hsome : s₁.attached = s.attached + 1 := hcount rfl
  obtain ⟨⟨hkept, hever⟩, hwritten⟩ :=
    traces_takeLines (congrArg Prod.fst htaken) htraces (by rw [hsome]; exact Nat.succ_pos _)
  rw [htaken] at hkept hever hwritten
  obtain ⟨-, hdetached, hfinal⟩ := hwritten.detach st.journal
  have hleft := st.session.attached_detach (Sink.file FileTree.storage) st.journal
  rw [hdetach] at hdetached hfinal hleft
  refine ⟨?_, hdetached.trans (hever.trans hclients), ?_⟩
  · rw [hleft, hkept, hsome, Nat.add_sub_cancel]
  · rw [← hprofile, ← hissued]
    exact hfinal

end Replay

namespace CommandLine

open Replay

/-- The session of a replay before its client attaches. -/
def opening (id : Text) (settings : Settings) (files : FileTree) :
    Session (FileSink Handle × FileTree) :=
  { settings := settings, id := id, sink := ({ path := settings.trace.file }, files) }

end CommandLine

end WorkloadTrace
