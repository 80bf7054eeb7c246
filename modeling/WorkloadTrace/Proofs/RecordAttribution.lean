import WorkloadTrace.Proofs.SessionCourse
import WorkloadTrace.Proofs.SinkTrouble

/-!
# The attribution of log records

A log record carries the fields that are bound when it is made. A session binds the fields that
identify it while it opens and closes its sink, and at no other time. What a step adds to the
journal is followed from the sink upwards: the records of an opening and a closing are made inside
the block, and the warnings of a surplus detachment and of a line that the sink does not keep are
not. Those steps apart, every record from the usual course of events up can be attributed to its
session.
-/

namespace WorkloadTrace

namespace Journal

/-- A journal that continues another one: the records made meanwhile, and the state of logging as it
was. -/
structure Continues (j : Journal) (made : List JournalEntry) (j' : Journal) : Prop where
  /-- The records made come after the earlier ones. -/
  entries_eq : j'.entries = j.entries ++ made
  /-- Every block that was entered has been left. -/
  log_eq : j'.log = j.log

/-- A journal continues itself with no entries. -/
theorem Continues.refl (j : Journal) : j.Continues [] j := ⟨by simp, rfl⟩

/-- What continues a continuation continues the journal with the entries of both. -/
theorem Continues.trans {j j' j'' : Journal} {made more : List JournalEntry}
    (h : j.Continues made j') (h' : j'.Continues more j'') : j.Continues (made ++ more) j'' :=
  ⟨by rw [h'.entries_eq, h.entries_eq, List.append_assoc], h'.log_eq.trans h.log_eq⟩

/-- A record is made with the fields that are bound. -/
theorem continues_note (severity : Severity) (origin : Origin) (message : Text)
    (trouble : Option Text) (j : Journal) :
    j.Continues [⟨origin, severity, message, j.log.context, trouble⟩]
      (j.note severity origin message trouble) :=
  ⟨by simp [entries, note], rfl⟩

/-- What continues the journal inside a block continues it outside. -/
theorem Continues.within {α : Type} {values : Fields Value} {body : Journal → α × Journal}
    {j : Journal} {made : List JournalEntry}
    (h : (j.enter values).Continues made (body (j.enter values)).2) :
    j.Continues made (j.within values body).2 :=
  ⟨h.entries_eq, j.log_within values body h.log_eq⟩

/-- The records that a journal gains are the ones beyond those that it had. -/
theorem Continues.made_eq {j j' : Journal} {made : List JournalEntry} (h : j.Continues made j') :
    j'.entries.drop j.entries.length = made := by
  rw [h.entries_eq, List.drop_left]

/-- A journal that gains records with the fields that are bound, and no others. -/
def GrowsTo (j j' : Journal) : Prop :=
  ∃ made, j.Continues made j' ∧ ∀ e ∈ made, e.context = j.log.context

/-- A journal has grown to itself. -/
theorem GrowsTo.refl (j : Journal) : j.GrowsTo j := ⟨[], .refl j, by simp⟩

/-- It grows by what is noted. -/
theorem growsTo_note (severity : Severity) (origin : Origin) (message : Text)
    (trouble : Option Text) (j : Journal) : j.GrowsTo (j.note severity origin message trouble) :=
  ⟨_, j.continues_note severity origin message trouble, by simp⟩

/-- What has grown goes on growing. -/
theorem GrowsTo.trans {j j' j'' : Journal} (h : j.GrowsTo j') (h' : j'.GrowsTo j'') :
    j.GrowsTo j'' := by
  obtain ⟨made, hmade, hcontext⟩ := h
  obtain ⟨more, hmore, hcontext'⟩ := h'
  refine ⟨made ++ more, hmade.trans hmore, fun e he => ?_⟩
  rcases List.mem_append.1 he with he | he
  · exact hcontext e he
  · rw [hcontext' e he, hmade.log_eq]

end Journal

namespace FileSink

variable {σ η : Type} (storage : Storage σ η)

/-- An opening makes its records with the fields that are bound. -/
theorem growsTo_start (s : FileSink η) (files : σ) (j : Journal) :
    j.GrowsTo (start storage s files j).2.2 := by
  simp only [start]
  cases s.handle with
  | some handle => exact .refl j
  | none =>
    simp only
    cases storage.openAppend s.path files with
    | mk opening files =>
      cases opening with
      | opened handle => exact j.growsTo_note _ _ _ _
      | failed e => exact j.growsTo_note _ _ _ _
      | raised t => exact .refl j

/-- So does a closing. -/
theorem growsTo_stop (s : FileSink η) (files : σ) (j : Journal) :
    j.GrowsTo (stop storage s files j).2 := by
  simp only [stop]
  cases s.handle with
  | none => exact .refl j
  | some handle =>
    simp only
    cases storage.close handle files with
    | mk error files => cases error <;> exact j.growsTo_note _ _ _ _

/-- A line that the sink keeps makes no record, nor does one for which the storage raises; any other
costs a failure and makes a warning. -/
theorem receive_continues (line : Text) (s : FileSink η) (files : σ) (j : Journal) :
    let r := (receive storage line s files j).2
    (r.1.1.failures = s.failures ∧ j.Continues [] r.2) ∨
      (r.1.1.failures ≠ s.failures ∧ ∃ entry : JournalEntry, entry.severity = .warning ∧
        entry.context = j.log.context ∧ j.Continues [entry] r.2) := by
  simp only [receive]
  cases s.handle with
  | none => exact .inr ⟨by simp, _, rfl, rfl, j.continues_note _ _ _ _⟩
  | some handle =>
    simp only
    cases storage.append line handle files with
    | mk completion rest =>
      cases completion with
      | done => exact .inl ⟨rfl, .refl j⟩
      | failed e => exact .inr ⟨by simp [record], _, rfl, rfl, j.continues_note _ _ _ _⟩
      | raised t => exact .inl ⟨rfl, .refl j⟩

end FileSink

namespace Session

variable {σ η : Type}

/-- Fields that identify a session, by its name and its trace file. -/
def Attributed (s : Session σ) (context : Fields Text) : Prop :=
  Fields.get? "session_id".toText context = some s.id ∧
    Fields.get? "trace_file".toText context = some s.settings.trace.file.text

instance (s : Session σ) (context : Fields Text) : Decidable (s.Attributed context) :=
  inferInstanceAs (Decidable (_ ∧ _))

/-- The block of a session binds the fields that identify it, whatever was bound before. -/
theorem attributed_enter (s : Session σ) (j : Journal) :
    s.Attributed (j.enter s.fields).log.context := by
  have hbound : Log.boundTexts s.fields =
      [("session_id".toText, s.id), ("trace_file".toText, s.settings.trace.file.text)] := rfl
  have hcontext : (j.enter s.fields).log.context =
      Fields.setAll j.log.context (Log.boundTexts s.fields) := rfl
  have hne : "trace_file".toText ≠ "session_id".toText := by decide
  rw [hcontext, hbound]
  refine ⟨?_, Fields.get?_set_self _ _ _⟩
  exact (Fields.get?_set_of_ne hne _ _).trans (Fields.get?_set_self _ _ _)

/-- Records of which none from the usual course of events up lacks the fields of a session. -/
def AllAttributed (s : Session σ) (records : List JournalEntry) : Prop :=
  ∀ e ∈ records, Severity.info.level ≤ e.severity.level → s.Attributed e.context

@[simp] theorem allAttributed_nil (s : Session σ) : s.AllAttributed [] := by simp [AllAttributed]

/-- The last of some records decides if it is a warning and the others are attributed. -/
theorem allAttributed_concat_iff {s : Session σ} {records : List JournalEntry}
    (hrecords : s.AllAttributed records) {entry : JournalEntry}
    (hwarning : entry.severity = .warning) :
    s.AllAttributed (records ++ [entry]) ↔ s.Attributed entry.context := by
  have hlevel : Severity.info.level ≤ entry.severity.level := by rw [hwarning]; decide
  constructor
  · intro h
    exact h entry (List.mem_append_right _ (List.mem_singleton_self _)) hlevel
  · intro h e he hinfo
    rcases List.mem_append.1 he with he | he
    · exact hrecords e he hinfo
    · obtain rfl := List.mem_singleton.1 he
      exact h

/-- Everything that is recorded inside the block of a session is attributed. -/
theorem records_within {α : Type} (s : Session σ) (j : Journal) (body : Journal → α × Journal)
    (h : (j.enter s.fields).GrowsTo (body (j.enter s.fields)).2) :
    ∃ made, j.Continues made (j.within s.fields body).2 ∧ s.AllAttributed made := by
  obtain ⟨made, hmade, hcontext⟩ := h
  exact ⟨made, hmade.within, fun e he _ => hcontext e he ▸ s.attributed_enter j⟩

section File

variable (storage : Storage σ η) (s : Session (FileSink η × σ)) (j : Journal)

/-- An attachment records everything inside the block. -/
theorem attach_records :
    ∃ made, j.Continues made (s.attach (Sink.file storage) j).2.2 ∧ s.AllAttributed made := by
  by_cases hnone : s.attached = 0
  · obtain ⟨made, hmade, hall⟩ := s.records_within j (startSink (Sink.file storage) s)
      ((Journal.growsTo_note ..).trans (FileSink.growsTo_start storage s.sink.1 s.sink.2 _))
    refine ⟨made, ?_, hall⟩
    simp only [attach, hnone, if_true]
    generalize j.within s.fields (startSink (Sink.file storage) s) = r at hmade
    obtain ⟨⟨trouble, s'⟩, j'⟩ := r
    cases trouble <;> exact hmade
  · simp only [attach, hnone, if_false]
    exact ⟨[], .refl j, by simp⟩

/-- So does a detachment, unless there is nobody to detach: then its warning has the context of
whoever asked for it. -/
theorem detach_records :
    ∃ made, j.Continues made (s.detach (Sink.file storage) j).2.2 ∧
      (s.AllAttributed made ↔ s.Attributed j.log.context ∨ 0 < s.attached) := by
  rcases s.attached_cases with hnone | hlast | ⟨n, hmore⟩
  · simp only [detach, hnone]
    refine ⟨_, j.continues_note _ _ _ _, ?_⟩
    simpa using allAttributed_concat_iff s.allAttributed_nil rfl
  · obtain ⟨made, hmade, hall⟩ := s.records_within j
      (stopSink (Sink.file storage) { s with attached := 0 })
      ((FileSink.growsTo_stop storage s.sink.1 s.sink.2 _).trans (Journal.growsTo_note ..))
    simp only [detach, hlast]
    exact ⟨made, hmade, by simp [hall]⟩
  · simp only [detach, hmore]
    exact ⟨[], .refl j, by simp⟩

/-- A call records nothing from the usual course of events up, except for the warning that its line
was not kept. -/
theorem call_records (c : Call) :
    let r := s.call (Sink.file storage) c j
    ∃ made, j.Continues made r.2.2 ∧ (s.AllAttributed made ↔
      s.Attributed j.log.context ∨ r.2.1.sink.1.failures = s.sink.1.failures) := by
  simp only [call]
  cases c.line? s.profile s.issued with
  | error t => exact ⟨[], .refl j, by simp⟩
  | ok line =>
    cases line with
    | none => exact ⟨[], .refl j, by simp⟩
    | some q =>
      simp only [emit, Sink.file]
      generalize "trace line emitted: operation=".toText ++ q.verb.word = message
      have hnote := j.continues_note .debug .client message none
      have hdebug : s.AllAttributed [⟨.client, .debug, message, j.log.context, none⟩] := by
        simp [AllAttributed, Severity.level]
      rcases FileSink.receive_continues storage q.render s.sink.1 s.sink.2
          (j.note .debug .client message none) with
        ⟨hkept, hmade⟩ | ⟨hlost, entry, hwarning, hcontext, hmade⟩
      · exact ⟨_, hnote.trans hmade, iff_of_true hdebug (.inr hkept)⟩
      · refine ⟨_, hnote.trans hmade, ?_⟩
        rw [allAttributed_concat_iff hdebug hwarning, hcontext]
        exact (or_iff_left hlost).symm

/-- The steps whose records are attributed whatever is bound around them: all but the detachments of
nobody and the calls that cost the sink a failure. -/
def Transition.Covered (t : Transition (FileSink η × σ)) : Prop :=
  match t.action with
  | .attach => True
  | .detach => 0 < t.before.attached
  | .call _ _ => t.after.sink.1.failures = t.before.sink.1.failures

instance : (t : Transition (FileSink η × σ)) → Decidable t.Covered
  | ⟨_, .attach, _, _⟩ => inferInstanceAs (Decidable True)
  | ⟨s, .detach, _, _⟩ => inferInstanceAs (Decidable (0 < s.attached))
  | ⟨s, .call _ _, _, s'⟩ =>
    inferInstanceAs (Decidable (s'.sink.1.failures = s.sink.1.failures))

/-- The records of a step are attributed exactly when the step is covered or the fields of the
session are bound around it. -/
theorem step_records (action : Step) :
    let r := s.step (Sink.file storage) j action
    ∃ made, j.Continues made r.2.2 ∧ (s.AllAttributed made ↔
      s.Attributed j.log.context ∨ Transition.Covered ⟨s, action, r.1, r.2.1⟩) := by
  cases action with
  | attach =>
    obtain ⟨made, hmade, hall⟩ := attach_records storage s j
    exact ⟨made, hmade, iff_of_true hall (.inr trivial)⟩
  | detach => exact detach_records storage s j
  | call client c =>
    obtain ⟨made, hmade, hall⟩ := call_records storage s j c
    simp only [step]
    by_cases hclient : s.hasClient client = true
    · simp only [hclient, if_true]
      exact ⟨made, hmade, hall⟩
    · simp only [hclient, Bool.false_eq_true, if_false]
      exact ⟨[], .refl j, iff_of_true s.allAttributed_nil (.inr rfl)⟩

end File

/-- No step changes what identifies a session. -/
theorem Effect.attributed_eq {ops : Sink σ} {t : Passage σ} (h : Effect ops t) :
    t.after.Attributed = t.before.Attributed := by
  cases h <;> rfl

/-- One step of a run together with the log records that it made. -/
structure Chapter (σ : Type) extends Transition σ where
  /-- The records of the step. -/
  records : List JournalEntry

/-- The steps of a run in order. The records of a step are the ones by which it makes the journal
longer. -/
def chronicle (ops : Sink σ) : Session σ → Journal → List Step → List (Chapter σ)
  | _, _, [] => []
  | s, j, action :: rest =>
    let r := s.step ops j action
    ⟨⟨s, action, r.1, r.2.1⟩, r.2.2.entries.drop j.entries.length⟩ :: chronicle ops r.2.1 r.2.2 rest

/-- A chronicle is the trail of the same run with the records beside it. -/
theorem chronicle_map_toTransition (ops : Sink σ) (s : Session σ) (j : Journal)
    (steps : List Step) :
    (chronicle ops s j steps).map Chapter.toTransition = trail ops s j steps := by
  induction steps generalizing s j with
  | nil => rfl
  | cons action rest ih =>
    simp only [chronicle, trail, List.map_cons]
    rw [ih]

/-- The journal after all steps of a run. -/
def journalAfter (ops : Sink σ) (s : Session σ) (j : Journal) (steps : List Step) : Journal :=
  ((s.run ops j steps).getLast?.map fun r => r.2.2).getD j

/-- The journal of a run is that of its first step, gone on with. -/
theorem journalAfter_cons (ops : Sink σ) (s : Session σ) (j : Journal) (action : Step)
    (rest : List Step) :
    let r := s.step ops j action
    s.journalAfter ops j (action :: rest) = r.2.1.journalAfter ops r.2.2 rest :=
  getD_map_getLast?_cons _ _ _ j

/-- The journal of a run of a session on a file is what its steps record, in order. The records of a
step from the usual course of events up have the fields of the session exactly when these are bound
around the whole run, or when the step neither detaches nobody nor costs the sink a line. -/
theorem records_attributed_iff (storage : Storage σ η) (s : Session (FileSink η × σ)) (j : Journal)
    (steps : List Step) :
    let ts := chronicle (Sink.file storage) s j steps
    (s.journalAfter (Sink.file storage) j steps).entries =
        j.entries ++ ts.flatMap Chapter.records ∧
      ∀ t ∈ ts, s.AllAttributed t.records ↔ s.Attributed j.log.context ∨ t.Covered := by
  induction steps generalizing s j with
  | nil => exact ⟨by simp [journalAfter, run, chronicle], by simp [chronicle]⟩
  | cons action rest ih =>
    obtain ⟨made, hmade, hstep⟩ := step_records storage s j action
    have hsame : (s.step (Sink.file storage) j action).2.1.Attributed = s.Attributed :=
      (effect_step (Sink.file storage) s j action).attributed_eq
    obtain ⟨hentries, hrest⟩ := ih (s.step (Sink.file storage) j action).2.1
      (s.step (Sink.file storage) j action).2.2
    simp only [AllAttributed, hsame, hmade.log_eq] at hrest
    refine ⟨?_, List.forall_mem_cons.2 ⟨?_, hrest⟩⟩
    · rw [journalAfter_cons, hentries, hmade.entries_eq, chronicle, List.flatMap_cons,
        hmade.made_eq, List.append_assoc]
    · rw [hmade.made_eq]
      exact hstep

/-- One line is written, and then two clients detach where one has attached. -/
theorem surplus_detachment_after_one_line :
    let path := Path.parse "out.txt".toText
    let s : Session (FileSink FileTree.Handle × FileTree) :=
      { settings := { trace := { file := path } }, id := "7f".toText
        sink := ({ path := path }, {}) }
    let log : Call := .readLog (.text "usertable".toText) (.int 1)
    let ts := chronicle (Sink.file FileTree.storage) s {} [.attach, .call 0 log, .detach, .detach]
    ts.map (fun t => t.records.length) = [2, 1, 2, 1] ∧
    (∀ t ∈ ts.take 3, s.AllAttributed t.records) ∧
    ∃ t ∈ ts.drop 3, ¬ s.AllAttributed t.records := by
  intro path s log ts
  have hcovered : ∀ t ∈ ts.take 3, t.Covered := by decide +kernel
  have hsurplus : ∃ t ∈ ts.drop 3, ¬ (s.Attributed [] ∨ t.Covered) := by decide +kernel
  obtain ⟨-, hts⟩ := records_attributed_iff FileTree.storage s {}
    [.attach, .call 0 log, .detach, .detach]
  refine ⟨by decide +kernel, fun t ht => ?_, ?_⟩
  · exact (hts t (List.mem_of_mem_take ht)).2 (.inr (hcovered t ht))
  · obtain ⟨t, ht, hbare⟩ := hsurplus
    exact ⟨t, ht, fun h => hbare ((hts t (List.mem_of_mem_drop ht)).1 h)⟩

/-- A directory stands where the trace file should be. The line of an attached client is not kept,
and the warning that says so names neither the session nor its file. -/
theorem dropped_line_unattributed :
    let path := Path.parse "traces".toText
    let files : FileTree := { nodes := [([Text.systemBytes "traces".toText], .directory)] }
    let s : Session (FileSink FileTree.Handle × FileTree) :=
      { settings := { trace := { file := path } }, id := "7f".toText
        sink := ({ path := path }, files) }
    let log : Call := .readLog (.text "usertable".toText) (.int 1)
    ∃ t ∈ chronicle (Sink.file FileTree.storage) s {} [.attach, .call 0 log],
      t.action = .call 0 log ∧ t.before.attached = 1 ∧
      ∃ e ∈ t.records, e.severity = .warning ∧ ¬ s.Attributed e.context := by
  intro path files s log
  refine ⟨_, List.mem_cons_of_mem _ (List.mem_singleton_self _), rfl, rfl, ?_⟩
  decide +kernel

end Session

end WorkloadTrace
