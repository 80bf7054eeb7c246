import WorkloadTrace.Proofs.CallArguments
import WorkloadTrace.Proofs.TraceFile
import WorkloadTrace.Settings.Resolve

/-!
# Trouble stays in the sink

A session on a file sink whose storage may answer anything at any time. While no client is attached
the sink holds no handle, so the first client to attach opens the file, and what the storage answers
then decides the reply. The system refusing an operation is never seen in a reply; to open the file
costs one failure then. A step raises only if a path or a line cannot be given to any storage, or if
a value is too large to be written, and the settings let paths that no storage accepts through.
-/

namespace WorkloadTrace

namespace FileSink

variable {σ η : Type}

/-- A line leaves the path and opens nothing. It raises only what the storage raises for it. -/
theorem receive_cases (storage : Storage σ η) (line : Text) (s : FileSink η) (files : σ)
    (j : Journal) :
    let r := receive storage line s files j
    r.2.1.1.path = s.path ∧ (s.handle = none → r.2.1.1.handle = none) ∧
      ∀ t, r.1 = some t →
        ∃ handle, s.handle = some handle ∧ (storage.append line handle files).1 = .raised t := by
  simp only [receive]
  cases hhandle : s.handle with
  | none => exact ⟨rfl, fun _ => rfl, by simp⟩
  | some handle =>
    simp only
    rcases happend : storage.append line handle files with ⟨completion, handle', files'⟩
    cases completion with
    | done => exact ⟨rfl, by simp, by simp⟩
    | failed e => exact ⟨rfl, by simp, by simp⟩
    | raised u =>
      refine ⟨rfl, by simp, fun t ht => ⟨handle, rfl, ?_⟩⟩
      rw [happend, Option.some.inj ht]

/-- A closing leaves the path and no handle. -/
theorem stop_path_and_handle (storage : Storage σ η) (s : FileSink η) (files : σ) (j : Journal) :
    let s' := (stop storage s files j).1.1
    s'.path = s.path ∧ s'.handle = none := by
  simp only [stop]
  cases hhandle : s.handle with
  | none => exact ⟨rfl, hhandle⟩
  | some handle =>
    simp only
    cases storage.close handle files with
    | mk error files' => cases error <;> exact ⟨rfl, rfl⟩

end FileSink

namespace Session

open FileTree (Handle)

variable {σ η : Type} {path : Path} {s : Session (FileSink η × σ)}

/-- A session on a file that is not open while no client is attached. -/
structure Settled (path : Path) (s : Session (FileSink η × σ)) : Prop where
  /-- The file of the sink. -/
  path_eq : s.sink.1.path = path
  /-- Without clients there is no handle. -/
  handle_eq : s.attached = 0 → s.sink.1.handle = none

/-- What comes of an opening, as the storage answers it. -/
theorem Settled.attach_eq (h : Settled path s) (hnone : s.attached = 0) (storage : Storage σ η)
    (j : Journal) :
    let r := s.attach (Sink.file storage) j
    match (storage.openAppend path s.sink.2).1 with
    | .opened handle => r.1 = none ∧ r.2.1.attached = 1 ∧
        r.2.1.sink.1 = { s.sink.1 with handle := some handle }
    | .failed e => r.1 = none ∧ r.2.1.attached = 1 ∧
        r.2.1.sink.1 = { s.sink.1 with
          failures := s.sink.1.failures ++ [FileSink.systemFailure path .opening e] }
    | .raised t => r.1 = some t ∧ r.2.1.attached = 0 ∧ r.2.1.sink.1 = s.sink.1 := by
  obtain ⟨rfl, hclosed⟩ := h
  have hhandle := hclosed hnone
  simp only [Session.attach, hnone, if_true, Journal.within, startSink, Sink.file, FileSink.start,
    hhandle]
  cases storage.openAppend s.sink.1.path s.sink.2 with
  | mk opening files => cases opening <;> simp [FileSink.record, hhandle, enlist]

/-- A client that attaches beside others asks nothing of the sink. -/
theorem attach_of_attached {τ : Type} {s : Session τ} (h : 0 < s.attached) (ops : Sink τ)
    (j : Journal) : s.attach ops j = (none, s.enlist, j) := by
  rw [Session.attach, if_neg (Nat.ne_of_gt h)]

/-- The sink stays settled when a client attaches. -/
theorem Settled.attach (h : Settled path s) (storage : Storage σ η) (j : Journal) :
    Settled path (s.attach (Sink.file storage) j).2.1 := by
  by_cases hnone : s.attached = 0
  · have hopening := h.attach_eq hnone storage j
    revert hopening
    cases (storage.openAppend path s.sink.2).1 with
    | opened handle =>
      rintro ⟨-, hone, hsink⟩
      exact ⟨by rw [hsink, ← h.path_eq], fun hzero => absurd (hone.symm.trans hzero) (by simp)⟩
    | failed e =>
      rintro ⟨-, hone, hsink⟩
      exact ⟨by rw [hsink, ← h.path_eq], fun hzero => absurd (hone.symm.trans hzero) (by simp)⟩
    | raised t =>
      rintro ⟨-, -, hsink⟩
      exact ⟨by rw [hsink, h.path_eq], fun _ => by rw [hsink, h.handle_eq hnone]⟩
  · rw [attach_of_attached (Nat.pos_of_ne_zero hnone)]
    exact ⟨h.path_eq, fun hzero => absurd hzero (Nat.succ_ne_zero _)⟩

/-- A detachment on a file sink raises nothing, and the sink stays settled. -/
theorem Settled.detach (h : Settled path s) (storage : Storage σ η) (j : Journal) :
    let r := s.detach (Sink.file storage) j
    r.1 = none ∧ Settled path r.2.1 := by
  rcases s.attached_cases with hnone | hlast | ⟨n, hmore⟩
  · simp only [Session.detach, hnone]
    exact ⟨trivial, h⟩
  · obtain ⟨hpath, hhandle⟩ := FileSink.stop_path_and_handle storage s.sink.1 s.sink.2
      (j.enter s.fields)
    simp only [Session.detach, hlast, Journal.within, stopSink, Sink.file]
    exact ⟨trivial, hpath.trans h.path_eq, fun _ => hhandle⟩
  · simp only [Session.detach, hmore]
    exact ⟨trivial, h.path_eq, fun hzero => absurd hzero (Nat.succ_ne_zero n)⟩

/-- The sink stays settled when a client issues a call. -/
theorem Settled.call (h : Settled path s) (storage : Storage σ η) (c : Call) (j : Journal) :
    Settled path (s.call (Sink.file storage) c j).2.1 := by
  cases hquery : s.queryFor c with
  | none =>
    obtain ⟨hsink, hattached, -⟩ := call_of_queryFor_eq_none hquery (Sink.file storage) j
    exact ⟨by rw [hsink, h.path_eq], fun hzero => by rw [hsink, h.handle_eq (hattached ▸ hzero)]⟩
  | some q =>
    obtain ⟨⟨j', -, hsink⟩, hattached, -⟩ :=
      call_of_queryFor_eq_some hquery (Sink.file storage) j
    obtain ⟨hpath, hhandle, -⟩ := FileSink.receive_cases storage q.render s.sink.1 s.sink.2 j'
    refine ⟨?_, fun hzero => ?_⟩
    · rw [hsink]
      exact hpath.trans h.path_eq
    · rw [hsink]
      exact hhandle (h.handle_eq (hattached ▸ hzero))

/-- Every step leaves a settled sink settled. -/
theorem Settled.step (h : Settled path s) (storage : Storage σ η) (j : Journal) (action : Step) :
    Settled path (s.step (Sink.file storage) j action).2.1 := by
  cases action with
  | attach => exact h.attach storage j
  | detach => exact (h.detach storage j).2
  | call client c =>
    simp only [Session.step]
    split
    · exact h.call storage c j
    · exact h

/-- The sink is settled before every step of a run. -/
theorem Settled.of_mem_trail (h : Settled path s) {storage : Storage σ η} {j : Journal}
    {steps : List Step} {t : Transition (FileSink η × σ)}
    (ht : t ∈ trail (Sink.file storage) s j steps) : Settled path t.before := by
  induction steps generalizing s j with
  | nil => exact absurd ht List.not_mem_nil
  | cons action rest ih =>
    rcases List.mem_cons.1 ht with rfl | ht
    · exact h
    · exact ih (h.step storage j action) ht

/-- Whether a storage raises this when a session hands over the line of a call. -/
def RaisesFor (storage : Storage σ η) (s : Session (FileSink η × σ)) (c : Call) (t : Trouble) :
    Prop :=
  ∃ q handle, c.line? s.profile s.issued = .ok (some q) ∧ s.sink.1.handle = some handle ∧
    (storage.append q.render handle s.sink.2).1 = .raised t

/-- What a step answers and records, whatever the storage does. -/
structure Shielded (storage : Storage σ η) (path : Path) (t : Transition (FileSink η × σ)) :
    Prop where
  /-- Nothing but a path that the storage cannot be given refuses a client. -/
  attached : t.action = .attach → t.reply = .attached t.before.clients ∨
    ∃ u, t.reply = .raised u ∧ t.before.attached = 0 ∧
      (storage.openAppend path t.before.sink.2).1 = .raised u
  /-- A detachment never fails. -/
  detached : t.action = .detach → t.reply = .detached
  /-- A client performs every call whose arguments are of the declared kinds, unless a value is too
  large to be written or the storage cannot be given the line. -/
  performed : ∀ client c, t.action = .call client c → c.IsTyped →
    t.before.hasClient client = true → t.reply = .performed ∨
      ∃ u, t.reply = .raised u ∧
        (c.line? t.before.profile t.before.issued = .error u ∧ u.IsSize ∨
          RaisesFor storage t.before c u)
  /-- A file that cannot be opened costs one failure, and the client is attached all the same. -/
  openingFailed : ∀ e, t.action = .attach → t.before.attached = 0 →
    (storage.openAppend path t.before.sink.2).1 = .failed e →
    t.reply = .attached t.before.clients ∧ t.after.sink.1.handle = none ∧
      ∃ d : ErrorDetail, d.code = ErrorDetail.openFailed ∧
        t.after.sink.1.failures = t.before.sink.1.failures ++ [d]

/-- The first client to attach. -/
theorem Settled.shielded_opening (h : Settled path s) (hnone : s.attached = 0)
    (storage : Storage σ η) (j : Journal) :
    let r := s.step (Sink.file storage) j .attach
    Shielded storage path ⟨s, .attach, r.1, r.2.1⟩ := by
  have hopening := h.attach_eq hnone storage j
  simp only [Session.step]
  generalize s.attach (Sink.file storage) j = r at hopening
  obtain ⟨trouble, s', j'⟩ := r
  cases hanswer : (storage.openAppend path s.sink.2).1 with
  | opened handle =>
    rw [hanswer] at hopening
    obtain ⟨rfl, -, hsink⟩ := hopening
    exact ⟨fun _ => .inl rfl, by simp, by simp, by simp [hanswer]⟩
  | failed e =>
    rw [hanswer] at hopening
    obtain ⟨rfl, -, hsink⟩ := hopening
    refine ⟨fun _ => .inl rfl, by simp, by simp, fun e' _ _ he => ?_⟩
    obtain rfl := Opening.failed.inj (hanswer.symm.trans he)
    exact ⟨rfl, by rw [hsink]; exact h.handle_eq hnone,
      FileSink.systemFailure path .opening e, rfl, by rw [hsink]⟩
  | raised u =>
    rw [hanswer] at hopening
    obtain ⟨rfl, -, -⟩ := hopening
    exact ⟨fun _ => .inr ⟨u, rfl, hnone, hanswer⟩, by simp, by simp, by simp [hanswer]⟩

/-- A client that attaches beside others. -/
theorem shielded_joining (hsome : 0 < s.attached) (storage : Storage σ η) (path : Path)
    (j : Journal) :
    let r := s.step (Sink.file storage) j .attach
    Shielded storage path ⟨s, .attach, r.1, r.2.1⟩ := by
  simp only [Session.step, attach_of_attached hsome]
  exact ⟨fun _ => .inl rfl, by simp, by simp, fun _ _ hnone => absurd hnone (Nat.ne_of_gt hsome)⟩

/-- A call of a client raises what its line or the storage raises. -/
theorem call_cases (storage : Storage σ η) (s : Session (FileSink η × σ)) (c : Call) (j : Journal)
    {t : Trouble} (h : (s.call (Sink.file storage) c j).1 = some t) :
    c.line? s.profile s.issued = .error t ∨ RaisesFor storage s c t := by
  simp only [Session.call] at h
  cases hline : c.line? s.profile s.issued with
  | error u =>
    rw [hline] at h
    exact .inl (congrArg Except.error (Option.some.inj h))
  | ok line =>
    rw [hline] at h
    cases line with
    | none => cases h
    | some q =>
      obtain ⟨-, -, hraised⟩ := FileSink.receive_cases storage q.render s.sink.1 s.sink.2 _
      obtain ⟨handle, hhandle, happend⟩ := hraised t h
      exact .inr ⟨q, handle, hline, hhandle, happend⟩

/-- A call. -/
theorem shielded_call (storage : Storage σ η) (path : Path) (j : Journal) (client : Int)
    (c : Call) :
    let r := s.step (Sink.file storage) j (.call client c)
    Shielded storage path ⟨s, .call client c, r.1, r.2.1⟩ := by
  refine ⟨nofun, nofun, ?_, nofun⟩
  intro k c' haction hc hclient
  obtain ⟨rfl, rfl⟩ := Step.call.inj haction
  have hhas : s.hasClient client = true := hclient
  simp only [Session.step, hhas, if_true]
  cases htrouble : (s.call (Sink.file storage) c j).1 with
  | none => exact .inl rfl
  | some t =>
    refine .inr ⟨t, rfl, (call_cases storage s c j htrouble).imp_left fun hline => ⟨hline, ?_⟩⟩
    exact Call.isSize_of_isTyped hc hline

/-- Every step on a settled sink is shielded. -/
theorem Settled.shielded_step (h : Settled path s) (storage : Storage σ η) (j : Journal)
    (action : Step) :
    let r := s.step (Sink.file storage) j action
    Shielded storage path ⟨s, action, r.1, r.2.1⟩ := by
  cases action with
  | attach =>
    by_cases hnone : s.attached = 0
    · exact h.shielded_opening hnone storage j
    · exact shielded_joining (Nat.pos_of_ne_zero hnone) storage path j
  | detach =>
    have hdetach := (h.detach storage j).1
    exact ⟨nofun, fun _ => by simp only [Session.step, hdetach]; rfl, nofun, nofun⟩
  | call client c => exact shielded_call storage path j client c

/-- What a storage raises, if it raises anything, is about a path or a line that no file system can
be given. -/
structure Storage.Accepts (storage : Storage σ η) : Prop where
  /-- A path that can be encoded and has no NUL is opened or refused. -/
  opens : ∀ path files t, Path.trouble? path.text = none →
    (storage.openAppend path files).1 ≠ .raised t
  /-- A line without surrogates is written or refused. -/
  writes : ∀ line handle files t, Text.hasSurrogate line = false →
    (storage.append line handle files).1 ≠ .raised t

/-- Nothing is seen of the sink in the answer to a step. -/
structure Unnoticed (t : Transition (FileSink η × σ)) : Prop where
  /-- Every client is attached. -/
  attached : t.action = .attach → t.reply = .attached t.before.clients
  /-- A detachment never fails. -/
  detached : t.action = .detach → t.reply = .detached
  /-- A client performs every call whose arguments are of the declared kinds and have texts, when
  its line has no surrogate. -/
  performed : ∀ client c, t.action = .call client c → c.IsTyped → c.Fits t.before.profile →
    t.before.hasClient client = true →
    (∀ line, t.before.lineOf t.action = some line → Text.hasSurrogate line = false) →
    t.reply = .performed

/-- A step that is shielded is unnoticed if the storage can be given the path. -/
theorem Shielded.unnoticed {storage : Storage σ η} {t : Transition (FileSink η × σ)}
    (h : Shielded storage path t) (haccepts : Storage.Accepts storage)
    (hpath : Path.trouble? path.text = none) : Unnoticed t := by
  refine ⟨fun hattach => ?_, h.detached, ?_⟩
  · rcases h.attached hattach with hdone | ⟨u, -, -, hraised⟩
    · exact hdone
    · exact absurd hraised (haccepts.opens path _ u hpath)
  · intro client c hcall hc hfits hclient hline
    rcases h.performed client c hcall hc hclient with hdone | ⟨u, -, ⟨hraised, -⟩ | hraised⟩
    · exact hdone
    · exact absurd ((Call.line?_of_isTyped hc hfits).symm.trans hraised) nofun
    · obtain ⟨q, handle, hq, -, happend⟩ := hraised
      have hlegible := hline q.render (hcall ▸ lineOf_call hclient hq)
      exact absurd happend (haccepts.writes q.render handle _ u hlegible)

/-- Whatever the trace file of the settings and whatever the storage does, every step of a session
is shielded; and nothing is seen of the sink in the answers if the storage can be given the path. -/
theorem trouble_stays_in_sink (storage : Storage σ η) (settings : Settings) (id : Text) (files : σ)
    (levels : Nat) (j : Journal) (steps : List Step) (haccepts : Storage.Accepts storage) :
    let start : Session (FileSink η × σ) :=
      { settings := settings, id := id, levels := levels
        sink := ({ path := settings.trace.file }, files) }
    ∀ t ∈ trail (Sink.file storage) start j steps,
      Shielded storage settings.trace.file t ∧
        (Path.trouble? settings.trace.file.text = none → Unnoticed t) := by
  intro start t ht
  have hstart : Settled settings.trace.file start := ⟨rfl, fun _ => rfl⟩
  obtain ⟨j', hreply, hafter⟩ := step_of_mem_trail ht
  have hshielded : Shielded storage settings.trace.file t := by
    have hstep := (hstart.of_mem_trail ht).shielded_step storage j' t.action
    simp only [← hreply, ← hafter] at hstep
    exact hstep
  exact ⟨hshielded, hshielded.unnoticed haccepts⟩

/-- A tree of files raises nothing else. -/
theorem accepts_fileTree : Storage.Accepts FileTree.storage where
  opens _ files t h := FileTree.openAppend_ne_raised h files t
  writes line handle files t h := by
    have hline := Text.encodeTrouble?_fitsUtf8.2 h
    simp only [FileTree.storage, FileTree.append, hline]
    cases handle with
    | file place pending => simp
    | lost onAppend onClose => cases onAppend <;> simp

/-- A directory stands where the trace file should be: the client is attached and performs its call,
and the sink has recorded the opening and the line. -/
theorem directory_in_place_of_trace_file :
    let path := Path.parse "traces".toText
    let settings : Settings := { trace := { file := path } }
    let files : FileTree := { nodes := [([Text.systemBytes "traces".toText], .directory)] }
    let log : Call := .readLog (.text "usertable".toText) (.int 1)
    let start : Session (FileSink Handle × FileTree) :=
      { settings := settings, id := [], levels := 900, sink := ({ path := path }, files) }
    let ts := trail (Sink.file FileTree.storage) start {} [.attach, .call 0 log, .detach]
    Storage.Accepts FileTree.storage ∧
    (∀ t ∈ ts, Shielded FileTree.storage path t ∧ Unnoticed t) ∧
    ts.map Transition.reply = [.attached 0, .performed, .detached] ∧
    (start.afterAll ts).sink.1.failures.map ErrorDetail.code =
      [ErrorDetail.openFailed, ErrorDetail.writeFailed] := by
  intro path settings files log start ts
  have hpath : Path.trouble? path.text = none := by decide
  have hts := trouble_stays_in_sink FileTree.storage settings [] files 900 {}
    [.attach, .call 0 log, .detach] accepts_fileTree
  exact ⟨accepts_fileTree, fun t ht => ⟨(hts t ht).1, (hts t ht).2 hpath⟩, by decide +kernel,
    by decide +kernel⟩

/-- The settings let a path with a NUL through, and no client can be attached then: nothing is
recorded, and the attachment raises. -/
theorem nul_in_trace_path_refuses_client :
    ∃ settings,
      Settings.resolve
        [("trace".toText, .object [("file".toText, .text [char 'a', Path.nul, char 'b'])])]
        [] none =
          .ok settings ∧
      let start : Session (FileSink Handle × FileTree) :=
        { settings := settings, id := [], sink := ({ path := settings.trace.file }, {}) }
      let r := start.step (Sink.file FileTree.storage) {} .attach
      r.1 = .raised .nulInPath ∧ r.2.1.attached = 0 ∧ r.2.1.sink.1.failures = [] :=
  ⟨{ trace := { file := ⟨[], [[char 'a', Path.nul, char 'b']]⟩ } }, rfl, by decide +kernel⟩

end Session

end WorkloadTrace
