import WorkloadTrace.Proofs.ReplayCommand

/-!
# Replays in batches

Lines that are replayed in two batches, with the client detached and another one attached in
between, are replayed as in one batch: the sink receives the same lines, as many selectors are
taken, and the counts add up. Only the numbers of the rejected lines begin again with each batch.
A session has nothing else to carry from one batch to the next, so the proof is a summary of one
batch and its behaviour under concatenation.
-/

namespace WorkloadTrace

open Decimal (maxDigits)

namespace Session

variable {σ : Type}

/-- The lines that reached the sink since it is watched. -/
def received (s : Session (σ × List SinkEvent)) : List Text := s.sink.2.filterMap SinkEvent.line?

/-- No line reaches the sink when a client attaches. -/
theorem received_attach (ops : Sink σ) (s : Session (σ × List SinkEvent)) (j : Journal) :
    (s.attach ops.watched j).2.1.received = s.received := by
  have hstart (j' : Journal) :
      (ops.watched.start s.sink j').2.1.2.filterMap SinkEvent.line? = s.received := by
    obtain ⟨start, receive, stop, failures⟩ := ops
    simp only [Sink.watched]
    rcases start s.sink.1 j' with ⟨trouble, sink, j''⟩
    cases trouble <;> simp [received, SinkEvent.line?]
  rcases s.attach_cases ops.watched j with ⟨-, j', -, hafter⟩ | hjoined
  · rw [hafter]
    split <;> exact hstart j'
  · rw [hjoined]
    rfl

/-- Detaching leaves what decides how calls are written, and the selectors, and no line reaches the
sink. -/
theorem detach_keeps (ops : Sink σ) (s : Session (σ × List SinkEvent)) (j : Journal) :
    let s' := (s.detach ops.watched j).2.1
    s'.profile = s.profile ∧ s'.issued = s.issued ∧ s'.received = s.received := by
  intro s'
  rcases s.detach_cases ops.watched j with ⟨-, j', -, hafter⟩ | ⟨-, hafter⟩
  · simp only [s', hafter]
    exact ⟨rfl, trivial, by simp [received, Sink.watched, SinkEvent.line?]⟩
  · simp only [s', hafter]
    exact ⟨rfl, trivial, rfl⟩

/-- A call brings its line to the sink. -/
theorem received_call (ops : Sink σ) (c : Call) (s : Session (σ × List SinkEvent)) (j : Journal) :
    (s.call ops.watched c j).2.1.received =
      s.received ++ ((s.queryFor c).map QueryLine.render).toList := by
  cases hquery : s.queryFor c with
  | none =>
    obtain ⟨hsink, -⟩ := call_of_queryFor_eq_none hquery ops.watched j
    simp [received, hsink]
  | some q =>
    obtain ⟨⟨j', -, hsink⟩, -⟩ := call_of_queryFor_eq_some hquery ops.watched j
    rw [received, hsink]
    simp [received, Sink.watched, SinkEvent.line?]

end Session

/-- The lines of calls in a row are those of the first calls and then those of the others, which
find the selectors of the first ones taken. -/
theorem Call.linesFrom_append (p : Profile) (issued : Nat) (front rear : List Call) :
    linesFrom p issued (front ++ rear) =
      linesFrom p issued front ++
        linesFrom p (front.foldl (fun n c => c.issuedAfter p n) issued) rear := by
  induction front generalizing issued with
  | nil => rfl
  | cons c rest ih =>
    simp only [List.cons_append, linesFrom, ih, List.foldl_cons, List.append_assoc]

namespace Replay

variable {σ : Type}

/-- The calls of two batches are those of the one and then those of the other. -/
theorem calls_append (front rear : List Text) :
    calls (front ++ rear) = calls front ++ calls rear := by
  simp only [calls, List.filterMap_append, List.map_append]

/-- The errors of the lines that are rejected, the first line having the given number. -/
def rejections : Nat → List Text → List ErrorDetail
  | _, [] => []
  | number, raw :: rest =>
    match classify raw with
    | .rejected issue => rejection number issue :: rejections (number + 1) rest
    | _ => rejections (number + 1) rest

/-- The rejections of the second batch are numbered on from the first. -/
theorem rejections_append (number : Nat) (front rear : List Text) :
    rejections number (front ++ rear) =
      rejections number front ++ rejections (number + front.length) rear := by
  induction front generalizing number with
  | nil => rfl
  | cons raw rest ih =>
    have hplace : number + (raw :: rest).length = number + 1 + rest.length := by
      rw [List.length_cons, Nat.add_right_comm, Nat.add_assoc]
    rw [List.cons_append, rejections, rejections, ih, hplace]
    split <;> rfl

/-- The error for the line with a number that is rejected for a reason. -/
def rejectedAtLine (number : Nat) (reason : Text) : ErrorDetail where
  code := ErrorDetail.invalidOperation
  message := "line ".toText ++ Decimal.ofNat number ++ ": ".toText ++ reason
  category := .validation
  metadata := [("line".toText, Decimal.ofNat number)]

/-- The rejection of a line, and of the same line further down. -/
def Renumbered (distance : Nat) (e e' : ErrorDetail) : Prop :=
  ∃ number reason, e = rejectedAtLine number reason ∧
    e' = rejectedAtLine (number + distance) reason

/-- The message names the line, and then the reason, which is the same wherever the line stands. -/
theorem rejectionMessage_eq (issue : Issue) :
    ∃ reason, ∀ number, rejectionMessage number issue =
      "line ".toText ++ Decimal.ofNat number ++ ": ".toText ++ reason := by
  unfold rejectionMessage
  refine ⟨(if issue.location.isEmpty then "payload".toText else issue.location) ++
    (": ".toText ++ issue.fault.message), fun number => ?_⟩
  rw [List.append_assoc, ← List.append_assoc _ _ (": ".toText ++ issue.fault.message)]

/-- A rejection further down has a greater number and says the same otherwise. -/
theorem renumbered_rejection (number distance : Nat) (issue : Issue) :
    Renumbered distance (rejection number issue) (rejection (number + distance) issue) := by
  obtain ⟨reason, hreason⟩ := rejectionMessage_eq issue
  refine ⟨number, reason, ?_, ?_⟩ <;> rw [rejection, hreason] <;> rfl

/-- So have all of them. -/
theorem renumbered_rejections (number distance : Nat) (lines : List Text) :
    List.Forall₂ (Renumbered distance) (rejections number lines)
      (rejections (number + distance) lines) := by
  induction lines generalizing number with
  | nil => exact .nil
  | cons raw rest ih =>
    have hrest := ih (number + 1)
    rw [Nat.add_right_comm] at hrest
    simp only [rejections]
    split
    · exact .cons (renumbered_rejection number distance _) hrest
    · exact hrest

/-- The rejections of lines are recorded behind the earlier ones. -/
theorem rejected_takeLines {ops : Sink σ} {number : Nat} {lines : List Text} {st : State σ}
    (h : (takeLines ops number lines st).1 = none) :
    (takeLines ops number lines st).2.report.rejected =
      st.report.rejected ++ rejections number lines := by
  induction lines generalizing number st with
  | nil => exact (List.append_nil _).symm
  | cons raw rest ih =>
    have hline := takeLine_of_takeLines h
    rw [takeLines_cons hline] at h ⊢
    rw [ih h, rejections]
    cases hclass : classify raw with
    | skipped => simp [takeLine, hclass]
    | rejected issue => simp [takeLine, hclass]
    | operation o =>
      simp only [takeLine, hclass] at hline ⊢
      rcases st.session.call ops o.toCall st.journal with ⟨trouble, s, j⟩
      cases trouble <;> rfl

/-- Each line takes the selector of its call, if it holds one. -/
theorem issued_takeLines {ops : Sink σ} {number : Nat} {lines : List Text} {st : State σ}
    (h : (takeLines ops number lines st).1 = none) :
    let s := st.session
    let s' := (takeLines ops number lines st).2.session
    s'.profile = s.profile ∧
      s'.issued = (calls lines).foldl (fun n c => c.issuedAfter s.profile n) s.issued := by
  induction lines generalizing number st with
  | nil => exact ⟨rfl, rfl⟩
  | cons raw rest ih =>
    have hline := takeLine_of_takeLines h
    have hsession := takeLine_session ops number raw st
    rw [takeLines_cons hline] at h ⊢
    have hrest := ih h
    cases ho : operation? raw with
    | none =>
      simp only [ho] at hsession
      rw [hsession] at hrest
      rwa [calls_cons_of_none ho]
    | some o =>
      simp only [ho] at hsession
      simp only [hsession, Session.profile_call, Session.issued_call] at hrest
      rwa [calls_cons_of_some ho]

/-- The lines of the calls reach the sink. -/
theorem received_takeLines {ops : Sink σ} {number : Nat} {lines : List Text}
    {st : State (σ × List SinkEvent)} (h : (takeLines ops.watched number lines st).1 = none) :
    (takeLines ops.watched number lines st).2.session.received = st.session.received ++
      Call.linesFrom st.session.profile st.session.issued (calls lines) := by
  refine takeLines_induction (fun s written => s.received = st.session.received ++ written) ?_ h
    [] (List.append_nil _).symm
  intro s written c j _ hwritten
  rw [Session.received_call, hwritten, List.append_assoc]

/-- What a batch of lines does to a session that takes it. -/
structure Batched (lines : List Text) (s : Session (σ × List SinkEvent)) (report : Report)
    (s' : Session (σ × List SinkEvent)) : Prop where
  /-- The lines that hold an operation are counted. -/
  applied_eq : report.applied = lines.countP isAccepted
  /-- So are those that are blank or comments. -/
  skipped_eq : report.skipped = lines.countP isSkipped
  /-- The others are rejected, numbered from 1. -/
  rejected_eq : report.rejected = rejections 1 lines
  /-- What decides how calls are written stays. -/
  profile_eq : s'.profile = s.profile
  /-- The calls of the lines take their selectors. -/
  issued_eq : s'.issued = (calls lines).foldl (fun n c => c.issuedAfter s.profile n) s.issued
  /-- The lines of the calls reach the sink. -/
  received_eq : s'.received = s.received ++ Call.linesFrom s.profile s.issued (calls lines)

/-- A batch whose client cannot be attached ends at once, whatever lines it has. -/
theorem batch_of_refused {ops : Sink σ} {s : Session σ} {j : Journal} {t : Trouble}
    (h : (s.attach ops j).1 = some t) (lines : List Text) :
    batch ops lines s j = (.error t, (s.attach ops j).2) := by
  rcases hr : s.attach ops j with ⟨trouble, s', j'⟩
  rw [hr] at h
  obtain rfl : trouble = some t := h
  simp only [batch, hr]

/-- A batch that raises nothing reports the rejections of its lines. -/
theorem rejected_batch {ops : Sink σ} {lines : List Text} {s s' : Session σ} {j j' : Journal}
    {report : Report} (h : batch ops lines s j = (.ok report, s', j')) :
    report.rejected = rejections 1 lines := by
  obtain ⟨s₁, j₁, st, -, htaken, -, rfl⟩ := batch_eq_ok h
  have hrejected := rejected_takeLines (congrArg Prod.fst htaken)
  rwa [htaken] at hrejected

/-- A batch that is finished is what it is to be. -/
theorem batched_batch {ops : Sink σ} {lines : List Text} {s s' : Session (σ × List SinkEvent)}
    {j j' : Journal} {report : Report} (h : batch ops.watched lines s j = (.ok report, s', j')) :
    Batched lines s report s' := by
  have htallied := tallied_batch h
  have hrejected := rejected_batch h
  obtain ⟨s₁, j₁, st, hattach, htaken, hdetach, rfl⟩ := batch_eq_ok h
  have hnone := congrArg Prod.fst htaken
  have hattached := Session.attach_keeps ops.watched s j
  have hreceived := s.received_attach ops j
  have hkept := issued_takeLines hnone
  have hlines := received_takeLines hnone
  have hleft := Session.detach_keeps ops st.session st.journal
  rw [hattach] at hattached hreceived
  rw [htaken] at hkept hlines
  rw [hdetach] at hleft
  obtain ⟨hprofile, hissued, -⟩ := hattached
  have hselectors : s₁.issued = s.issued := hissued
  simp only [hprofile, hselectors, hreceived] at hkept hlines
  exact {
    applied_eq := htallied.applied_eq
    skipped_eq := htallied.skipped_eq
    rejected_eq := hrejected
    profile_eq := hleft.1.trans hkept.1
    issued_eq := hleft.2.1.trans hkept.2
    received_eq := hleft.2.2.trans hlines }

/-- Watching a sink changes nothing about a batch. -/
theorem unwatched_batch (ops : Sink σ) (lines : List Text) (s : Session (σ × List SinkEvent))
    (j : Journal) :
    let r := batch ops.watched lines s j
    (r.1, r.2.1.unwatched, r.2.2) = batch ops lines s.unwatched j := by
  have hattach := Session.unwatched_attach ops s j
  simp only [batch, ← hattach]
  rcases s.attach ops.watched j with ⟨trouble, s₁, j₁⟩
  cases trouble with
  | some t => rfl
  | none =>
    have htaken := unwatched_takeLines ops 1 lines ⟨{}, s₁, j₁⟩
    simp only [State.unwatched] at htaken
    simp only [← htaken]
    rcases takeLines ops.watched 1 lines ⟨{}, s₁, j₁⟩ with ⟨raised, st⟩
    have hdetach := Session.unwatched_detach ops st.session st.journal
    simp only [← hdetach]
    rcases st.session.detach ops.watched st.journal with ⟨unreleased, s₂, j₂⟩
    cases unreleased.or raised <;> rfl

/-- What the report of one batch has of those of two: the counts are added up, and the errors of the
second batch stand after those of the first, with the numbers of their lines moved on. -/
structure Joined (distance : Nat) (first second whole : Report) : Prop where
  /-- The lines performed. -/
  applied_eq : whole.applied = first.applied + second.applied
  /-- The lines skipped. -/
  skipped_eq : whole.skipped = first.skipped + second.skipped
  /-- The lines rejected. -/
  rejected : ∃ moved, whole.rejected = first.rejected ++ moved ∧
    List.Forall₂ (Renumbered distance) second.rejected moved

/-- Two batches together are the one of all their lines. -/
theorem Batched.joined {front rear : List Text} {s s₁ s₂ s' : Session (σ × List SinkEvent)}
    {first second whole : Report} (hfirst : Batched front s first s₁)
    (hsecond : Batched rear s₁ second s₂) (hwhole : Batched (front ++ rear) s whole s') :
    Joined front.length first second whole ∧ s'.received = s₂.received ∧
      s'.issued = s₂.issued := by
  refine ⟨⟨?_, ?_, rejections (1 + front.length) rear, ?_, ?_⟩, ?_, ?_⟩
  · rw [hwhole.applied_eq, hfirst.applied_eq, hsecond.applied_eq, List.countP_append]
  · rw [hwhole.skipped_eq, hfirst.skipped_eq, hsecond.skipped_eq, List.countP_append]
  · rw [hwhole.rejected_eq, hfirst.rejected_eq, rejections_append]
  · rw [hsecond.rejected_eq]
    exact renumbered_rejections 1 front.length rear
  · rw [hwhole.received_eq, hsecond.received_eq, hfirst.received_eq, hfirst.profile_eq,
      hfirst.issued_eq, calls_append, Call.linesFrom_append, List.append_assoc]
  · rw [hwhole.issued_eq, hsecond.issued_eq, hfirst.profile_eq, hfirst.issued_eq, calls_append,
      List.foldl_append]

/-- Two batches of lines, with a detachment and a new attachment between them, are one batch, on any
sink, which may be watched: the sink receives the same lines in the same order and as many selectors
are taken, the counts add up, and the rejected lines are those of the first batch and then those of
the second, with the length of the first added to their numbers. A batch whose client cannot be
attached is refused whatever lines it has. No batch raises anything on a sink that takes lines
without surrogates, if no number of a record is too long. -/
theorem two_batches_are_one (ops : Sink σ) (s : Session σ) (j : Journal)
    (front rear : List Text) :
    let first := batch ops.watched front s.watched j
    let second := batch ops.watched rear first.2.1 first.2.2
    let whole := batch ops.watched (front ++ rear) s.watched j
    ((first.1, first.2.1.unwatched, first.2.2) = batch ops front s j ∧
      (second.1, second.2.1.unwatched, second.2.2) =
        batch ops rear first.2.1.unwatched first.2.2 ∧
      (whole.1, whole.2.1.unwatched, whole.2.2) = batch ops (front ++ rear) s j) ∧
    (∀ t, (s.attach ops j).1 = some t → first.1 = .error t ∧ whole = first) ∧
    (∀ good, ops.Serves (fun line => Text.hasSurrogate line = false) good → good s.sink →
      s.profile.workload.recordCount ≤ 10 ^ maxDigits →
      ∃ r₁ r₂ r, first.1 = .ok r₁ ∧ second.1 = .ok r₂ ∧ whole.1 = .ok r) ∧
    ∀ r₁ r₂ r, first.1 = .ok r₁ → second.1 = .ok r₂ → whole.1 = .ok r →
      Joined front.length r₁ r₂ r ∧ whole.2.1.received = second.2.1.received ∧
        whole.2.1.issued = second.2.1.issued := by
  intro first second whole
  refine ⟨⟨unwatched_batch .., unwatched_batch .., unwatched_batch ..⟩, fun t ht => ?_,
    fun good hserves hs hrecords => ?_, fun r₁ r₂ r hfirst hsecond hwhole => ?_⟩
  · have hrefused : (s.watched.attach ops.watched j).1 = some t :=
      (congrArg Prod.fst (Session.unwatched_attach ops s.watched j)).trans ht
    have hfirst := batch_of_refused hrefused front
    have hwhole := batch_of_refused hrefused (front ++ rear)
    exact ⟨congrArg Prod.fst hfirst, hwhole.trans hfirst.symm⟩
  · obtain ⟨⟨r₁, hr₁⟩, hgood⟩ := batch_of_serves hserves.watched (s := s.watched) hs
      (writes_of_mem_calls front hrecords) j
    obtain ⟨⟨r, hr⟩, -⟩ := batch_of_serves hserves.watched (s := s.watched) hs
      (writes_of_mem_calls (front ++ rear) hrecords) j
    have hprofile : first.2.1.profile = s.profile :=
      (batched_batch (Prod.ext hr₁ rfl : first = (.ok r₁, first.2.1, first.2.2))).profile_eq
    obtain ⟨⟨r₂, hr₂⟩, -⟩ := batch_of_serves hserves.watched (s := first.2.1) hgood
      (writes_of_mem_calls rear (hprofile ▸ hrecords)) first.2.2
    exact ⟨r₁, r₂, r, hr₁, hr₂, hr⟩
  · exact (batched_batch (Prod.ext hfirst rfl : first = (.ok r₁, first.2.1, first.2.2))).joined
      (batched_batch (Prod.ext hsecond rfl : second = (.ok r₂, second.2.1, second.2.2)))
      (batched_batch (Prod.ext hwhole rfl : whole = (.ok r, whole.2.1, whole.2.2)))

/-- Two batches with rejected lines and operations on metadata, whose lines name the selectors. -/
theorem batches_of_two_metadata_lines :
    let ask (purpose : String) : Text := "\x7b\"op\": \"read_meta\", \"fieldnum\": 0, ".toText ++
      "\"condition\": \"".toText ++ purpose.toText ++ "\", \"keymatch\": \"key*\"\x7d".toText
    let front : List Text := [ask "ads", "none".toText]
    let rear : List Text := ["# again".toText, "none".toText, ask "billing"]
    let s : Session (List SinkEvent) :=
      { settings := { workload := { recordCount := 7 } }, id := [], sink := [] }
    let first := batch Sink.memory.watched front s.watched {}
    let second := batch Sink.memory.watched rear first.2.1 first.2.2
    let whole := batch Sink.memory.watched (front ++ rear) s.watched {}
    Sink.memory.Serves (fun line => Text.hasSurrogate line = false) (fun _ => True) ∧
    (∃ r₁ r₂ r, first.1 = .ok r₁ ∧ second.1 = .ok r₂ ∧ whole.1 = .ok r ∧
      Joined front.length r₁ r₂ r ∧ r.applied = 2 ∧ r.skipped = 1 ∧
      r.rejected.map ErrorDetail.metadata =
        [[("line".toText, "2".toText)], [("line".toText, "4".toText)]]) ∧
    whole.2.1.received = second.2.1.received ∧ whole.2.1.issued = second.2.1.issued ∧
    second.2.1.received =
      ["query(GETM(\"key*\"))&purpose-is(ads)&session-key-is(2)\n".toText,
        "query(GETM(\"key*\"))&purpose-is(billing)&session-key-is(4)\n".toText] := by
  intro ask front rear s first second whole
  have hserves : Sink.memory.Serves (fun line => Text.hasSurrogate line = false) fun _ => True :=
    ⟨Sink.serves_memory.start, fun line s j hs _ => Sink.serves_memory.receive line s j hs trivial,
      Sink.serves_memory.stop, Sink.serves_memory.failures⟩
  have hrecords : 7 ≤ 10 ^ maxDigits := Decimal.le_pow_maxDigits (by decide)
  obtain ⟨-, -, htaken, hjoined⟩ := two_batches_are_one Sink.memory s {} front rear
  obtain ⟨r₁, r₂, r, hr₁, hr₂, hr⟩ := htaken _ hserves trivial hrecords
  obtain ⟨hreport, hreceived, hissued⟩ := hjoined r₁ r₂ r hr₁ hr₂ hr
  have hcounts : let r := whole.1.toOption.getD {}
      r.applied = 2 ∧ r.skipped = 1 ∧ r.rejected.map ErrorDetail.metadata =
        [[("line".toText, "2".toText)], [("line".toText, "4".toText)]] := by
    decide +kernel
  rw [show whole.1 = .ok r from hr] at hcounts
  exact ⟨hserves, ⟨r₁, r₂, r, hr₁, hr₂, hr, hreport, hcounts⟩, hreceived, hissued,
    by decide +kernel⟩

/-- A batch that raises nothing leaves what decides how calls are written and takes the selectors of
its calls. -/
theorem batch_profile_and_issued {ops : Sink σ} {lines : List Text} {s s' : Session σ}
    {j j' : Journal} {report : Report} (h : batch ops lines s j = (.ok report, s', j')) :
    s'.profile = s.profile ∧
      s'.issued = (calls lines).foldl (fun n c => c.issuedAfter s.profile n) s.issued := by
  have hsame := unwatched_batch ops lines s.watched j
  rcases hr : batch ops.watched lines s.watched j with ⟨result, s₁, j₁⟩
  rw [hr] at hsame
  obtain ⟨hresult, hpair⟩ := Prod.mk.inj (hsame.trans h)
  obtain ⟨hafter, -⟩ := Prod.mk.inj hpair
  subst hresult
  have hbatched := batched_batch hr
  rw [← hafter]
  exact ⟨hbatched.profile_eq, hbatched.issued_eq⟩

/-- A trace file that can be opened has the same content after two batches as after one, if none of
them raises anything. -/
theorem batches_fill_one_file {path : Path} {files opened : FileTree} {place : Location}
    {s s₁ s₂ s' : Session (FileSink FileTree.Handle × FileTree)} {content : List UInt8}
    {failures : List ErrorDetail} {front rear : List Text} {r₁ r₂ r : Report}
    {j j₁ j₂ j' : Journal}
    (hopen : FileTree.openAppend path files = (.opened (.file place []), opened))
    (hopened : FileTree.Holds opened path place (files.contentAt place))
    (h : Session.Traces path files place s content failures) (hnone : s.attached = 0)
    (hfirst : batch (Sink.file FileTree.storage) front s j = (.ok r₁, s₁, j₁))
    (hsecond : batch (Sink.file FileTree.storage) rear s₁ j₁ = (.ok r₂, s₂, j₂))
    (hwhole : batch (Sink.file FileTree.storage) (front ++ rear) s j = (.ok r, s', j')) :
    s₂.sink.2.content? path = s'.sink.2.content? path ∧
      s₂.sink.1.failures = s'.sink.1.failures := by
  obtain ⟨hattached₁, hclients₁, htraces₁⟩ := traces_batch hopen hopened h hfirst
  obtain ⟨hattached₂, hclients₂, htraces₂⟩ := traces_batch hopen hopened htraces₁ hsecond
  obtain ⟨hattached, hclients, htraces⟩ := traces_batch hopen hopened h hwhole
  obtain ⟨hprofile, hissued⟩ := batch_profile_and_issued hfirst
  rw [hprofile, hissued, List.append_assoc, ← Text.utf8_append, ← List.flatten_append,
    ← Call.linesFrom_append, ← calls_append] at htraces₂
  have hcontent₂ := (htraces₂.contentAt_eq (hattached₂.trans (hattached₁.trans hnone))).2
    (hclients₂ ▸ Nat.succ_pos _)
  have hcontent := (htraces.contentAt_eq (hattached.trans hnone)).2 (hclients ▸ Nat.succ_pos _)
  exact ⟨hcontent₂.2.trans hcontent.2.symm, htraces₂.failures_eq.trans htraces.failures_eq.symm⟩

end Replay

end WorkloadTrace
