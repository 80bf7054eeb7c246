import WorkloadTrace.Proofs.FileOpening
import WorkloadTrace.Proofs.SessionTrail

/-!
# The trace file of a session

A session that writes to a file of a tree, from a path that can be opened. Between an opening and
the next closing the lines wait with the handle, so what is followed through a run is the content
that the file has once these lines are written. An opening never loses what the file held, and a
line that comes while no client is attached is recorded as one failure and reaches no file. A line
with a surrogate cannot be written as UTF-8: while some client is attached it raises, and is neither
written nor recorded. When every client is gone, the file holds what it held before the run and then
the lines without surrogates that were written while some client was attached, in order.
-/

namespace WorkloadTrace

theorem Text.utf8_append (s t : Text) : utf8 (s ++ t) = utf8 s ++ utf8 t :=
  List.flatMap_append

/-- A text can be written as UTF-8 exactly when it has no surrogate. -/
theorem Text.encodeTrouble?_fitsUtf8 {s : Text} :
    encodeTrouble? fitsUtf8 s = none ↔ hasSurrogate s = false := by
  rw [encodeTrouble?_eq_none_iff, hasSurrogate]
  simp [fitsUtf8]

namespace Session

open FileTree (Holds Handle)

namespace Transition

variable {σ : Type}

/-- The line of a step, if some client is attached and the line can be written as UTF-8. -/
def kept? (t : Transition σ) : Option Text :=
  if 0 < t.before.attached then
    (t.before.lineOf t.action).filter fun line => !Text.hasSurrogate line
  else none

/-- Whether a step writes a line while no client is attached. -/
def isLate (t : Transition σ) : Bool :=
  t.before.attached = 0 && (t.before.lineOf t.action).isSome

end Transition

/-- A session on the file at a place: the content that the file has once the lines that wait are
written, and the failures so far. Before the first opening the tree is the given one. -/
inductive Traces (path : Path) (files : FileTree) (place : Location) :
    Session (FileSink Handle × FileTree) → List UInt8 → List ErrorDetail → Prop where
  /-- No client has ever been attached. -/
  | unopened {s : Session (FileSink Handle × FileTree)} {failures : List ErrorDetail}
    (hattached : s.attached = 0) (hclients : s.clients = 0)
    (hsink : s.sink = (⟨path, none, failures⟩, files)) :
    Traces path files place s (files.contentAt place) failures
  /-- No client is attached any more. -/
  | closed {s : Session (FileSink Handle × FileTree)} {failures : List ErrorDetail}
    {t : FileTree} {content : List UInt8} (hattached : s.attached = 0)
    (hsink : s.sink = (⟨path, none, failures⟩, t)) (hfile : Holds t path place content) :
    Traces path files place s content failures
  /-- Clients are attached, and lines may wait. -/
  | opened {s : Session (FileSink Handle × FileTree)} {failures : List ErrorDetail}
    {t : FileTree} {written : List UInt8} {pending : Text} (hattached : 0 < s.attached)
    (hsink : s.sink = (⟨path, some (.file place pending), failures⟩, t))
    (hfile : Holds t path place written) :
    Traces path files place s (written ++ Text.utf8 pending) failures

variable {path : Path} {files opened : FileTree} {place : Location} {content : List UInt8}
  {failures : List ErrorDetail} {s : Session (FileSink Handle × FileTree)}

/-- A client attaches whoever is there, and the file keeps its content. -/
theorem Traces.attach (hopen : FileTree.openAppend path files = (.opened (.file place []), opened))
    (hopened : Holds opened path place (files.contentAt place))
    (h : Traces path files place s content failures) (j : Journal) :
    ∃ s' j', s.attach (Sink.file FileTree.storage) j = (none, s', j') ∧
      s'.clients = s.clients + 1 ∧ Traces path files place s' content failures := by
  have hnil (bs : List UInt8) : bs = bs ++ Text.utf8 [] := (List.append_nil bs).symm
  cases h with
  | unopened hattached hclients hsink =>
    simp only [Session.attach, hattached, if_true, Journal.within, startSink, Sink.file,
      FileSink.start, hsink, FileTree.storage, hopen]
    refine ⟨_, _, rfl, rfl, ?_⟩
    rw [hnil (files.contentAt place)]
    exact .opened (Nat.succ_pos _) rfl hopened
  | @closed failures t content hattached hsink hfile =>
    simp only [Session.attach, hattached, if_true, Journal.within, startSink, Sink.file,
      FileSink.start, hsink, FileTree.storage, hfile.openAppend_eq]
    refine ⟨_, _, rfl, rfl, ?_⟩
    rw [hnil content]
    exact .opened (Nat.succ_pos _) rfl hfile
  | opened hattached hsink hfile =>
    simp only [Session.attach, Nat.ne_of_gt hattached, if_false]
    exact ⟨_, _, rfl, rfl, .opened (Nat.succ_pos _) hsink hfile⟩

/-- A client detaches, and the file keeps its content; the last one leaves no line waiting. -/
theorem Traces.detach (h : Traces path files place s content failures) (j : Journal) :
    let r := s.detach (Sink.file FileTree.storage) j
    r.1 = none ∧ r.2.1.clients = s.clients ∧
      Traces path files place r.2.1 content failures := by
  cases h with
  | unopened hattached hclients hsink =>
    simp only [Session.detach, hattached]
    exact ⟨trivial, trivial, .unopened hattached hclients hsink⟩
  | closed hattached hsink hfile =>
    simp only [Session.detach, hattached]
    exact ⟨trivial, trivial, .closed hattached hsink hfile⟩
  | @opened failures t written pending hattached hsink hfile =>
    rcases s.attached_cases with hnone | hlast | ⟨n, hmore⟩
    · exact absurd hnone (Nat.ne_of_gt hattached)
    · simp only [Session.detach, hlast, Journal.within, stopSink, Sink.file, FileSink.stop, hsink,
        FileTree.storage, FileTree.close]
      exact ⟨trivial, trivial, .closed rfl rfl (hfile.appendAt _)⟩
    · simp only [Session.detach, hmore]
      exact ⟨trivial, trivial, .opened (Nat.succ_pos _) hsink hfile⟩

/-- A call that writes no line changes neither the sink nor who is attached. -/
theorem call_of_queryFor_eq_none {σ : Type} {s : Session σ} {c : Call}
    (h : s.queryFor c = none) (ops : Sink σ) (j : Journal) :
    let s' := (s.call ops c j).2.1
    s'.sink = s.sink ∧ s'.attached = s.attached ∧ s'.clients = s.clients := by
  simp only [queryFor] at h
  simp only [Session.call]
  cases hline : c.line? s.profile s.issued with
  | error t => exact ⟨rfl, rfl, rfl⟩
  | ok line =>
    rw [hline] at h
    subst h
    exact ⟨rfl, rfl, rfl⟩

/-- A call that writes a line hands it to the sink and changes nothing about who is attached. -/
theorem call_of_queryFor_eq_some {σ : Type} {s : Session σ} {c : Call} {q : QueryLine}
    (h : s.queryFor c = some q) (ops : Sink σ) (j : Journal) :
    let r := s.call ops c j
    (∃ j', r.1 = (ops.receive q.render s.sink j').1 ∧
      r.2.1.sink = (ops.receive q.render s.sink j').2.1) ∧
      r.2.1.attached = s.attached ∧ r.2.1.clients = s.clients := by
  simp only [queryFor] at h
  simp only [Session.call]
  cases hline : c.line? s.profile s.issued with
  | error t => simp [hline] at h
  | ok line =>
    rw [hline] at h
    subst h
    exact ⟨⟨_, rfl, rfl⟩, rfl, rfl⟩

/-- What is traced depends on the sink, on who is attached and on whether anybody ever was. -/
theorem Traces.congr {s' : Session (FileSink Handle × FileTree)}
    (h : Traces path files place s content failures) (hsink : s'.sink = s.sink)
    (hattached : s'.attached = s.attached) (hclients : s'.clients = s.clients) :
    Traces path files place s' content failures := by
  cases h with
  | unopened hnone hnever hstate =>
    exact .unopened (hattached.trans hnone) (hclients.trans hnever) (hsink.trans hstate)
  | closed hnone hstate hfile => exact .closed (hattached.trans hnone) (hsink.trans hstate) hfile
  | opened hsome hstate hfile =>
    exact .opened (hattached ▸ hsome) (hsink.trans hstate) hfile

/-- A line that comes while a client is attached waits to be written after all others, unless it
has a surrogate: then it raises, and nothing waits for it. -/
theorem Traces.receive (h : Traces path files place s content failures)
    (hattached : 0 < s.attached) (line : Text) (j : Journal) :
    let r := (Sink.file FileTree.storage).receive line s.sink j
    r.1 = Text.encodeTrouble? Text.fitsUtf8 line ∧
      ∀ s' : Session (FileSink Handle × FileTree), s'.sink = r.2.1 → s'.attached = s.attached →
        Traces path files place s'
          (content ++ if Text.hasSurrogate line then [] else Text.utf8 line) failures := by
  cases h with
  | unopened hnone _ _ => exact absurd hnone (Nat.ne_of_gt hattached)
  | closed hnone _ _ => exact absurd hnone (Nat.ne_of_gt hattached)
  | opened _ hstate hfile =>
    simp only [Sink.file, FileSink.receive, hstate, FileTree.storage, FileTree.append]
    cases hline : Text.encodeTrouble? Text.fitsUtf8 line with
    | none =>
      rw [Text.encodeTrouble?_fitsUtf8] at hline
      refine ⟨rfl, fun s' hsink hsame => ?_⟩
      rw [hline, if_neg Bool.false_ne_true, List.append_assoc, ← Text.utf8_append]
      exact .opened (hsame ▸ hattached) hsink hfile
    | some t =>
      have hbad : Text.hasSurrogate line = true := by
        rw [← Bool.not_eq_false, ← Text.encodeTrouble?_fitsUtf8, hline]
        simp
      refine ⟨rfl, fun s' hsink hsame => ?_⟩
      rw [hbad, if_pos rfl, List.append_nil]
      exact .opened (hsame ▸ hattached) hsink hfile

/-- A line that comes while no client is attached adds a failure and reaches no file. -/
theorem Traces.drop (h : Traces path files place s content failures) (hattached : s.attached = 0)
    (line : Text) (j : Journal) :
    let r := (Sink.file FileTree.storage).receive line s.sink j
    r.1 = none ∧
      ∀ s' : Session (FileSink Handle × FileTree), s'.sink = r.2.1 → s'.attached = s.attached →
        s'.clients = s.clients →
        Traces path files place s' content (failures ++ [FileSink.notOpenFailure path]) ∧
          s'.sink.2 = s.sink.2 := by
  cases h with
  | unopened hnone hnever hstate =>
    simp only [Sink.file, FileSink.receive, hstate]
    exact ⟨trivial, fun s' hsink hsame hclients =>
      ⟨.unopened (hsame.trans hnone) (hclients.trans hnever) hsink, by rw [hsink]⟩⟩
  | closed hnone hstate hfile =>
    simp only [Sink.file, FileSink.receive, hstate]
    exact ⟨trivial, fun s' hsink hsame _ =>
      ⟨.closed (hsame.trans hnone) hsink hfile, by rw [hsink]⟩⟩
  | opened hsome _ _ => exact absurd hattached (Nat.ne_of_gt hsome)

/-- What a step does to what is traced: its line is kept or, if it is late, adds one failure and
leaves the files alone. -/
structure Adds (path : Path) (files : FileTree) (place : Location) (content : List UInt8)
    (failures : List ErrorDetail) (t : Transition (FileSink Handle × FileTree)) : Prop where
  /-- The file gets the line that is kept, and a late line is recorded. -/
  traces : Traces path files place t.after (content ++ Text.utf8 (t.kept?.getD []))
    (failures ++ if t.isLate then [FileSink.notOpenFailure path] else [])
  /-- A late line leaves the files alone. -/
  late : t.isLate = true → t.after.sink.2 = t.before.sink.2
  /-- Clients are counted, whether they stay or not. -/
  clients : t.before.clients ≤ t.after.clients ∧ (t.action = .attach → 0 < t.after.clients)
  /-- Clients come and go, and a line raises exactly if some client is attached and the line cannot
  be written. -/
  reply : match t.action with
    | .attach => t.reply = .attached t.before.clients
    | .detach => t.reply = .detached
    | .call _ _ => ∀ line, t.before.lineOf t.action = some line →
      t.reply = .of .performed
        (if 0 < t.before.attached then Text.encodeTrouble? Text.fitsUtf8 line else none)

/-- A step that writes no line adds nothing. -/
theorem Adds.of_lineOf_eq_none {t : Transition (FileSink Handle × FileTree)}
    (hline : t.before.lineOf t.action = none)
    (htraces : Traces path files place t.after content failures)
    (hclients : t.before.clients ≤ t.after.clients ∧ (t.action = .attach → 0 < t.after.clients))
    (hattach : t.action = .attach → t.reply = .attached t.before.clients)
    (hdetach : t.action = .detach → t.reply = .detached) :
    Adds path files place content failures t := by
  have hkept : t.kept? = none := by simp [Transition.kept?, hline]
  have hlate : t.isLate = false := by simp [Transition.isLate, hline]
  refine ⟨?_, by simp [hlate], hclients, ?_⟩
  · simpa [hkept, hlate, Text.utf8] using htraces
  · cases haction : t.action with
    | attach => exact hattach haction
    | detach => exact hdetach haction
    | call client c => simp [← haction, hline]

/-- What a call of a client adds. -/
theorem Traces.adds_call (h : Traces path files place s content failures) (client : Int) (c : Call)
    (hclient : s.hasClient client = true) (j : Journal) :
    let r := s.call (Sink.file FileTree.storage) c j
    Adds path files place content failures
      ⟨s, .call client c, .of .performed r.1, r.2.1⟩ := by
  cases hquery : s.queryFor c with
  | none =>
    obtain ⟨hsink, hattached, hclients⟩ :=
      call_of_queryFor_eq_none hquery (Sink.file FileTree.storage) j
    exact .of_lineOf_eq_none (by simp [lineOf, hquery]) (h.congr hsink hattached hclients)
      ⟨Nat.le_of_eq hclients.symm, by simp⟩ (by simp) (by simp)
  | some q =>
    obtain ⟨⟨j', hreply, hsink⟩, hattached, hclients⟩ :=
      call_of_queryFor_eq_some hquery (Sink.file FileTree.storage) j
    have hline : s.lineOf (.call client c) = some q.render := by simp [lineOf, hclient, hquery]
    by_cases hnone : s.attached = 0
    · obtain ⟨hperformed, hdrop⟩ := h.drop hnone q.render j'
      obtain ⟨htraces, hfiles⟩ := hdrop _ hsink hattached hclients
      refine ⟨?_, fun _ => hfiles, ⟨Nat.le_of_eq hclients.symm, by simp⟩, ?_⟩
      · simpa [Transition.kept?, Transition.isLate, hline, hnone, Text.utf8] using htraces
      · simp [hreply, hperformed, hnone]
    · have hsome : 0 < s.attached := Nat.pos_of_ne_zero hnone
      obtain ⟨hraised, hreceive⟩ := h.receive hsome q.render j'
      have htraces := hreceive _ hsink hattached
      refine ⟨?_, by simp [Transition.isLate, hnone], ⟨Nat.le_of_eq hclients.symm, by simp⟩, ?_⟩
      · cases hbad : Text.hasSurrogate q.render <;>
          simpa [Transition.kept?, Transition.isLate, hline, hnone, hsome, hbad, Text.utf8,
            Option.filter_some] using htraces
      · simp [hreply, hraised, hsome, hline]

/-- What a step adds. -/
theorem Traces.adds_step
    (hopen : FileTree.openAppend path files = (.opened (.file place []), opened))
    (hopened : Holds opened path place (files.contentAt place))
    (h : Traces path files place s content failures) (j : Journal) (action : Step) :
    let r := s.step (Sink.file FileTree.storage) j action
    Adds path files place content failures ⟨s, action, r.1, r.2.1⟩ := by
  cases action with
  | attach =>
    obtain ⟨s', j', hattach, hclients, htraces⟩ := h.attach hopen hopened j
    simp only [Session.step, hattach]
    exact .of_lineOf_eq_none rfl htraces
      ⟨hclients ▸ Nat.le_succ _, fun _ => hclients ▸ Nat.succ_pos _⟩ (fun _ => rfl) (by simp)
  | detach =>
    obtain ⟨hreply, hclients, htraces⟩ := h.detach j
    exact .of_lineOf_eq_none rfl htraces ⟨Nat.le_of_eq hclients.symm, by simp⟩ (by simp)
      fun _ => by simp [Session.step, hreply, Reply.of]
  | call client c =>
    cases hclient : s.hasClient client with
    | false =>
      simp only [Session.step, hclient]
      exact .of_lineOf_eq_none (by simp [lineOf, hclient]) h ⟨Nat.le_refl _, by simp⟩ (by simp)
        (by simp)
    | true =>
      simp only [Session.step, hclient, if_true]
      exact h.adds_call client c hclient j

theorem Traces.failures_eq (h : Traces path files place s content failures) :
    s.sink.1.failures = failures := by
  cases h with
  | unopened _ _ hsink => rw [hsink]
  | closed _ hsink _ => rw [hsink]
  | opened _ hsink _ => rw [hsink]

theorem Transition.flatten_filterMap_kept?_cons {σ : Type} (t : Transition σ)
    (ts : List (Transition σ)) :
    ((t :: ts).filterMap kept?).flatten = t.kept?.getD [] ++ (ts.filterMap kept?).flatten := by
  cases hkept : t.kept? with
  | none => rw [List.filterMap_cons_none hkept, Option.getD_none, List.nil_append]
  | some line => rw [List.filterMap_cons_some hkept, Option.getD_some, List.flatten_cons]

theorem Transition.map_filter_isLate_cons {σ : Type} (t : Transition σ) (ts : List (Transition σ))
    (e : ErrorDetail) :
    (((t :: ts).filter isLate).map fun _ => e) =
      (if t.isLate then [e] else []) ++ (ts.filter isLate).map fun _ => e := by
  cases hlate : t.isLate <;> simp [hlate]

/-- What a run adds, step by step and in all. -/
theorem Traces.adds_trail
    (hopen : FileTree.openAppend path files = (.opened (.file place []), opened))
    (hopened : Holds opened path place (files.contentAt place))
    (h : Traces path files place s content failures) (j : Journal) (steps : List Step) :
    let ts := trail (Sink.file FileTree.storage) s j steps
    Traces path files place (s.afterAll ts)
        (content ++ Text.utf8 (ts.filterMap Transition.kept?).flatten)
        (failures ++ (ts.filter Transition.isLate).map fun _ => FileSink.notOpenFailure path) ∧
      (∀ t ∈ ts, ∃ content, Adds path files place content t.before.sink.1.failures t) ∧
      s.clients ≤ (s.afterAll ts).clients ∧
      (Step.attach ∈ steps → 0 < (s.afterAll ts).clients) := by
  induction steps generalizing s j content failures with
  | nil => simpa [trail, Text.utf8] using h
  | cons action rest ih =>
    have hstep := h.adds_step hopen hopened j action
    have hfailures := h.failures_eq
    simp only [trail, afterAll_cons]
    generalize s.step (Sink.file FileTree.storage) j action = r at hstep
    obtain ⟨htraces, hadds, hmore, hattach⟩ := ih hstep.traces r.2.2
    obtain ⟨hclients, hfirst⟩ := hstep.clients
    refine ⟨?_, List.forall_mem_cons.2 ⟨⟨content, hfailures ▸ hstep⟩, hadds⟩,
      Nat.le_trans hclients hmore, fun hmem => ?_⟩
    · rw [Transition.flatten_filterMap_kept?_cons, Transition.map_filter_isLate_cons,
        Text.utf8_append, ← List.append_assoc, ← List.append_assoc]
      exact htraces
    · rcases List.mem_cons.1 hmem with heq | hmem
      · exact Nat.lt_of_lt_of_le (hfirst heq.symm) hmore
      · exact hattach hmem

/-- While no client is attached the file at the place has the content that is traced, and the path
leads to it if a client ever was attached. -/
theorem Traces.contentAt_eq (h : Traces path files place s content failures)
    (hattached : s.attached = 0) :
    s.sink.2.contentAt place = content ∧
      (0 < s.clients →
        s.sink.2.locate path = .ok place ∧ s.sink.2.content? path = some content) := by
  cases h with
  | unopened _ hclients hsink => exact ⟨by rw [hsink], fun hpos => absurd hpos (by simp [hclients])⟩
  | closed _ hsink hfile =>
    rw [hsink]
    exact ⟨hfile.contentAt_eq, fun _ => ⟨hfile.leads, hfile.content?_eq⟩⟩
  | opened hsome _ _ => exact absurd hattached (Nat.ne_of_gt hsome)

/-- What a run from a session leaves in the trace file, which stands at a place, and elsewhere. -/
structure WritesTo (path : Path) (files : FileTree) (place : Location)
    (start : Session (FileSink Handle × FileTree))
    (ts : List (Transition (FileSink Handle × FileTree))) : Prop where
  /-- Once no client is attached, the file holds what it held before the run and then the lines that
  were kept. -/
  content : (start.afterAll ts).attached = 0 → (start.afterAll ts).sink.2.contentAt place =
    files.contentAt place ++ Text.utf8 (ts.filterMap Transition.kept?).flatten
  /-- The path leads to the file if a client ever was attached. -/
  leads : (start.afterAll ts).attached = 0 → (∃ t ∈ ts, t.action = .attach) →
    (start.afterAll ts).sink.2.content? path = some ((start.afterAll ts).sink.2.contentAt place)
  /-- A late line adds one failure, and no other step adds any. -/
  failing : ∀ t ∈ ts, t.after.sink.1.failures = t.before.sink.1.failures ++
    if t.isLate then [FileSink.notOpenFailure path] else []
  /-- A late line leaves the files alone. -/
  late : ∀ t ∈ ts, t.isLate = true → t.after.sink.2 = t.before.sink.2
  /-- The failures of the run are those of the late lines. -/
  failures : (start.afterAll ts).sink.1.failures =
    (ts.filter Transition.isLate).map fun _ => FileSink.notOpenFailure path
  /-- Clients come and go, and a line raises exactly if some client is attached and the line cannot
  be written. -/
  reply : ∀ t ∈ ts, match t.action with
    | .attach => t.reply = .attached t.before.clients
    | .detach => t.reply = .detached
    | .call _ _ => ∀ line, t.before.lineOf t.action = some line →
      t.reply = .of .performed
        (if 0 < t.before.attached then Text.encodeTrouble? Text.fitsUtf8 line else none)

/-- Once no client is attached, the trace file holds what it held before the run and then the lines
without surrogates that were written while some client was attached. The lines written while none
was are the failures, one each; a line with a surrogate raises while some client is attached. -/
theorem trace_file_of_run (settings : Settings) (id : Text) (path : Path) (files : FileTree)
    (j : Journal) (steps : List Step) {handle : Handle} {opened : FileTree}
    (hopen : FileTree.openAppend path files = (.opened handle, opened)) :
    let start : Session (FileSink Handle × FileTree) :=
      { settings := settings, id := id, sink := ({ path := path }, files) }
    ∃ place, opened.locate path = .ok place ∧
      (∀ place', files.locate path = .ok place' → place' = place) ∧
      WritesTo path files place start (trail (Sink.file FileTree.storage) start j steps) ∧
      (FileSink.notOpenFailure path).code = ErrorDetail.writeFailed := by
  intro start
  obtain ⟨place, rfl, hopened, hsame⟩ := FileTree.holds_of_openAppend hopen
  have hstart : Traces path files place start (files.contentAt place) [] := .unopened rfl rfl rfl
  obtain ⟨htraces, hadds, -, hattach⟩ := hstart.adds_trail hopen hopened j steps
  refine ⟨place, hopened.leads, hsame, ⟨fun hnone => (htraces.contentAt_eq hnone).1, ?_, ?_, ?_,
    htraces.failures_eq, ?_⟩, rfl⟩
  · rintro hnone ⟨t, ht, haction⟩
    obtain ⟨hcontent, hleads⟩ := htraces.contentAt_eq hnone
    have hmem : Step.attach ∈ steps := haction ▸ action_mem_of_mem_trail ht
    exact hcontent ▸ (hleads (hattach hmem)).2
  · intro t ht
    obtain ⟨content, hstep⟩ := hadds t ht
    exact hstep.traces.failures_eq
  · intro t ht
    obtain ⟨content, hstep⟩ := hadds t ht
    exact hstep.late
  · intro t ht
    obtain ⟨content, hstep⟩ := hadds t ht
    exact hstep.reply

/-- A file that held a line and is opened twice. A client stays in use after it is detached: its
line is lost while nobody is attached, and kept once somebody is. -/
theorem two_openings_and_a_late_line :
    let path := Path.parse "trace.log".toText
    let place : Location := [Text.systemBytes "trace.log".toText]
    let files : FileTree := { nodes := [(place, .file (Text.utf8 "kept\n".toText))] }
    let log (count : Int) : Call := .readLog (.text "usertable".toText) (.int count)
    let steps : List Step :=
      [.attach, .call 0 (log 1), .detach, .call 0 (log 2), .attach, .call 0 (log 3),
        .call 1 (log 4), .detach]
    let start : Session (FileSink Handle × FileTree) :=
      { settings := {}, id := [], sink := ({ path := path }, files) }
    let final := start.afterAll (trail (Sink.file FileTree.storage) start {} steps)
    FileTree.openAppend path files = (.opened (.file place []), files) ∧
    final.attached = 0 ∧
    final.sink.2.content? path = some (Text.utf8
      "kept\nquery(getLogs(\"1\"))\nquery(getLogs(\"3\"))\nquery(getLogs(\"4\"))\n".toText) ∧
    final.sink.1.failures = [FileSink.notOpenFailure path] := by
  intro path place files log steps start final
  have hopen : FileTree.openAppend path files = (.opened (.file place []), files) := by rfl
  have hattached : final.attached = 0 := by decide +kernel
  obtain ⟨found, hfound, -, hwrites, -⟩ := trace_file_of_run {} [] path files {} steps hopen
  have hplace : found = place := Except.ok.inj (hfound.symm.trans rfl)
  refine ⟨hopen, hattached, ?_, ?_⟩
  · rw [hwrites.leads hattached ⟨_, List.mem_cons_self .., rfl⟩, hwrites.content hattached, hplace]
    decide +kernel
  · rw [hwrites.failures]
    decide +kernel

/-- A condition that is a single surrogate: its line is made while a client is attached, but it is
neither written nor recorded, and the selector is taken. -/
theorem line_with_surrogate_is_lost :
    let path := Path.parse "trace.log".toText
    let select : Call :=
      .readMeta (.text "t".toText) (.int 0) (.text [.surrogate 0]) (.text "key*".toText)
    let start : Session (FileSink Handle × FileTree) :=
      { settings := {}, id := [], sink := ({ path := path }, {}) }
    let ts := trail (Sink.file FileTree.storage) start {} [.attach, .call 0 select, .detach]
    let line := "query(GETM(\"key*\"))&purpose-is(".toText ++ .surrogate 0 ::
      ")&session-key-is(0)\n".toText
    (ts.filterMap fun t => t.before.lineOf t.action) = [line] ∧
    ts.map Transition.reply =
      [.attached 0, .raised (.unencodable line 31 32), .detached] ∧
    (start.afterAll ts).sink.2.content? path = some [] ∧
    (start.afterAll ts).sink.1.failures = [] ∧ (start.afterAll ts).issued = 1 := by
  decide +kernel

end Session

end WorkloadTrace
