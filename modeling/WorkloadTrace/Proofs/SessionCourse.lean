import WorkloadTrace.Proofs.SessionTrail

/-!
# The course of a session

A session on any sink, with what each of its steps brings to that sink. Watching a sink keeps a list
of what reaches it and leaves everything else as it was, so the events of a step are those that the
same step brings to the watched sink. `Effect` lists once all that a step may do; what holds of a
whole course follows from it by induction on the course.
-/

namespace WorkloadTrace

/-- A sink that also keeps what reaches it. An opening that raises is none, but a line and a closing
reach the sink however they end there. -/
def Sink.watched {σ : Type} (ops : Sink σ) : Sink (σ × List SinkEvent) where
  start s j :=
    match ops.start s.1 j with
    | (none, sink, j) => (none, (sink, s.2 ++ [.started]), j)
    | (some t, sink, j) => (some t, (sink, s.2), j)
  receive line s j :=
    let r := ops.receive line s.1 j
    (r.1, (r.2.1, s.2 ++ [.received line]), r.2.2)
  stop s j :=
    let r := ops.stop s.1 j
    (r.1, (r.2.1, s.2 ++ [.stopped]), r.2.2)
  failures s := ops.failures s.1

/-- What a call brings to the sink when `issued` selectors have been taken before it. -/
def Call.events (p : Profile) (issued : Nat) (c : Call) : List SinkEvent :=
  match c.line? p issued with
  | .ok (some q) => [.received q.render]
  | _ => []

namespace Session

variable {σ : Type}

/-- The session with a sink that keeps what reaches it from now on. -/
def watched (s : Session σ) : Session (σ × List SinkEvent) :=
  ⟨s.settings, s.id, (s.sink, []), s.attached, s.clients, s.issued, s.levels⟩

/-- The session with a sink that is no longer watched. -/
def unwatched (s : Session (σ × List SinkEvent)) : Session σ :=
  ⟨s.settings, s.id, s.sink.1, s.attached, s.clients, s.issued, s.levels⟩

section Watching

variable (ops : Sink σ) (s : Session (σ × List SinkEvent)) (j : Journal)

/-- Watching a sink changes nothing about the line that is handed to it. -/
theorem unwatched_emit (q : QueryLine) :
    let r := s.emit ops.watched q j
    (r.1, r.2.1.unwatched, r.2.2) = s.unwatched.emit ops q j := rfl

/-- Watching a sink changes nothing about a call. -/
theorem unwatched_call (c : Call) :
    let r := s.call ops.watched c j
    (r.1, r.2.1.unwatched, r.2.2) = s.unwatched.call ops c j := by
  have hline : c.line? s.unwatched.profile s.unwatched.issued = c.line? s.profile s.issued := rfl
  simp only [call, hline]
  cases c.line? s.profile s.issued with
  | error t => rfl
  | ok line =>
    cases line with
    | none => rfl
    | some q => exact unwatched_emit ops _ j q

/-- Attaching a client is the same when the events are left out. -/
theorem unwatched_attach :
    let r := s.attach ops.watched j
    (r.1, r.2.1.unwatched, r.2.2) = s.unwatched.attach ops j := by
  obtain ⟨settings, id, ⟨sink, events⟩, attached, clients, issued, levels⟩ := s
  obtain ⟨start, receive, stop, failures⟩ := ops
  cases attached with
  | succ n => rfl
  | zero =>
    simp only [attach, unwatched, Journal.within, startSink, Sink.watched, fields, if_true]
    generalize Journal.note _ _ _ _ _ = j'
    rcases start sink j' with ⟨trouble, rest⟩
    cases trouble <;> rfl

/-- So is stopping the sink. -/
theorem unwatched_stopSink :
    let r := s.stopSink ops.watched j
    ((r.1.1, r.1.2.unwatched), r.2) = s.unwatched.stopSink ops j := by
  obtain ⟨start, receive, stop, failures⟩ := ops
  simp only [stopSink, unwatched, Sink.watched]
  rcases stop s.sink.1 j with ⟨trouble, sink, j'⟩
  cases trouble with
  | some t => rfl
  | none =>
    simp only
    cases failures sink <;> rfl

/-- So is detaching a client. -/
theorem unwatched_detach :
    let r := s.detach ops.watched j
    (r.1, r.2.1.unwatched, r.2.2) = s.unwatched.detach ops j := by
  obtain ⟨settings, id, sink, attached, clients, issued, levels⟩ := s
  match attached with
  | 0 => rfl
  | 1 =>
    have hstop := unwatched_stopSink ops ⟨settings, id, sink, 0, clients, issued, levels⟩
      (j.enter (Log.sessionFields (.text id) (.text settings.trace.file.text)))
    simp only [detach, unwatched, Journal.within, fields] at hstop ⊢
    rw [← hstop]
  | n + 2 => rfl

/-- Watching a sink changes nothing about a step. -/
theorem unwatched_step (action : Step) :
    let r := s.step ops.watched j action
    (r.1, r.2.1.unwatched, r.2.2) = s.unwatched.step ops j action := by
  cases action with
  | attach =>
    have hattach := unwatched_attach ops s j
    simp only [step, ← hattach]
    rfl
  | detach =>
    have hdetach := unwatched_detach ops s j
    simp only [step, ← hdetach]
  | call client c =>
    have hcall := unwatched_call ops s j c
    have hclient : s.unwatched.hasClient client = s.hasClient client := rfl
    simp only [step, hclient, ← hcall]
    cases s.hasClient client <;> rfl

end Watching

/-- One step of a session together with what it brought to the sink. -/
structure Passage (σ : Type) extends Transition σ where
  /-- What reached the sink during the step. -/
  brought : List SinkEvent

/-- The steps of a run in order. What a step brings to the sink is what the same step brings to it
when it is watched. -/
def course (ops : Sink σ) : Session σ → Journal → List Step → List (Passage σ)
  | _, _, [] => []
  | s, j, action :: rest =>
    let r := s.step ops j action
    let seen := s.watched.step ops.watched j action
    ⟨⟨s, action, r.1, r.2.1⟩, seen.2.1.sink.2⟩ :: course ops r.2.1 r.2.2 rest

/-- The session after all steps of a course. -/
def atEnd (s : Session σ) (ts : List (Passage σ)) : Session σ :=
  s.afterAll (ts.map Passage.toTransition)

@[simp] theorem atEnd_nil (s : Session σ) : s.atEnd [] = s := rfl

/-- A course ends where it ends after its first step. -/
@[simp] theorem atEnd_cons (s : Session σ) (t : Passage σ) (ts : List (Passage σ)) :
    s.atEnd (t :: ts) = t.after.atEnd ts := by
  simp only [atEnd, List.map_cons, afterAll_cons]

/-- A course is the trail of the same run with the events beside it. -/
theorem course_map_toTransition (ops : Sink σ) (s : Session σ) (j : Journal) (steps : List Step) :
    (course ops s j steps).map Passage.toTransition = trail ops s j steps := by
  induction steps generalizing s j with
  | nil => rfl
  | cons action rest ih =>
    simp only [course, trail, List.map_cons]
    rw [ih]

/-- Whether something was raised instead of a reply. -/
def Reply.isRaised : Reply → Bool
  | .raised _ => true
  | _ => false

@[simp] theorem Reply.isRaised_of (done : Reply) (t : Trouble) :
    (Reply.of done (some t)).isRaised = true := rfl

/-- A call that is performed or raises is made by a client. -/
@[simp] theorem Reply.of_performed_ne_noClient (trouble : Option Trouble) :
    Reply.of .performed trouble ≠ .noClient := by
  cases trouble <;> simp [Reply.of]

/-- Everything that a step may do. -/
inductive Effect (ops : Sink σ) : Passage σ → Prop where
  /-- The first client attaches. -/
  | opened {s : Session σ} (h : s.attached = 0) (sink : σ) :
    Effect ops ⟨⟨s, .attach, .attached s.clients,
      { s with sink := sink, attached := 1, clients := s.clients + 1 }⟩, [.started]⟩
  /-- Opening the sink raises. -/
  | openingRaised {s : Session σ} (h : s.attached = 0) (sink : σ) {t : Trouble}
    (hstart : ∃ j, (ops.start s.sink j).1 = some t) :
    Effect ops ⟨⟨s, .attach, .raised t, { s with sink := sink }⟩, []⟩
  /-- One more client attaches. -/
  | joined {s : Session σ} (h : 0 < s.attached) :
    Effect ops ⟨⟨s, .attach, .attached s.clients,
      { s with attached := s.attached + 1, clients := s.clients + 1 }⟩, []⟩
  /-- There is no client to detach. -/
  | surplus {s : Session σ} (h : s.attached = 0) : Effect ops ⟨⟨s, .detach, .detached, s⟩, []⟩
  /-- The last client detaches. -/
  | closed {s : Session σ} (h : s.attached = 1) (sink : σ) {trouble : Option Trouble}
    (hstop : ∀ t, trouble = some t →
      (∃ j, (ops.stop s.sink j).1 = some t) ∨ ops.failures sink = .error t) :
    Effect ops ⟨⟨s, .detach, .of .detached trouble, { s with sink := sink, attached := 0 }⟩,
      [.stopped]⟩
  /-- A client detaches and others stay. -/
  | left {s : Session σ} (h : 1 < s.attached) :
    Effect ops ⟨⟨s, .detach, .detached, { s with attached := s.attached - 1 }⟩, []⟩
  /-- There is no such client. -/
  | unknownClient {s : Session σ} {client : Int} (h : s.hasClient client = false) (c : Call) :
    Effect ops ⟨⟨s, .call client c, .noClient, s⟩, []⟩
  /-- The line of the call cannot be made. -/
  | callRaised {s : Session σ} {client : Int} {c : Call} {t : Trouble}
    (h : s.hasClient client = true) (hline : c.line? s.profile s.issued = .error t) :
    Effect ops ⟨⟨s, .call client c, .raised t,
      { s with issued := c.issuedAfter s.profile s.issued }⟩, []⟩
  /-- The line of the call is handed over, if it writes one. -/
  | performed {s : Session σ} {client : Int} {c : Call} {line : Option QueryLine}
    (h : s.hasClient client = true) (hline : c.line? s.profile s.issued = .ok line)
    (sink : σ) {trouble : Option Trouble}
    (hreceive : ∀ t, trouble = some t →
      ∃ q j, line = some q ∧ (ops.receive q.render s.sink j).1 = some t) :
    Effect ops ⟨⟨s, .call client c, .of .performed trouble,
      { s with sink := sink, issued := c.issuedAfter s.profile s.issued }⟩,
      c.events s.profile s.issued⟩

section Steps

variable (ops : Sink σ) (s : Session σ) (j : Journal)

/-- Attaching a client has its effect. -/
private theorem effect_attach :
    let r := s.step ops j .attach
    let seen := s.watched.step ops.watched j .attach
    Effect ops ⟨⟨s, .attach, r.1, r.2.1⟩, seen.2.1.sink.2⟩ := by
  obtain ⟨settings, id, sink, attached, clients, issued, levels⟩ := s
  obtain ⟨start, receive, stop, failures⟩ := ops
  cases attached with
  | zero =>
    simp only [step, attach, watched, Journal.within, startSink, Sink.watched, fields, if_true]
    generalize Journal.note _ _ _ _ _ = j'
    rcases hstart : start sink j' with ⟨trouble, after, j''⟩
    have hnone : (⟨settings, id, sink, 0, clients, issued, levels⟩ : Session σ).attached = 0 := rfl
    cases trouble with
    | none => exact .opened hnone after
    | some t => exact .openingRaised hnone after ⟨j', congrArg Prod.fst hstart⟩
  | succ n => exact .joined (Nat.succ_pos n)

/-- So has detaching one. -/
private theorem effect_detach :
    let r := s.step ops j .detach
    let seen := s.watched.step ops.watched j .detach
    Effect ops ⟨⟨s, .detach, r.1, r.2.1⟩, seen.2.1.sink.2⟩ := by
  obtain ⟨settings, id, sink, attached, clients, issued, levels⟩ := s
  obtain ⟨start, receive, stop, failures⟩ := ops
  rcases attached with - | - | n
  · exact .surplus rfl
  · simp only [step, detach, watched, Journal.within, stopSink, Sink.watched, fields]
    generalize Journal.enter _ _ = j'
    rcases hstop : stop sink j' with ⟨trouble, after, j''⟩
    have hone : (⟨settings, id, sink, 1, clients, issued, levels⟩ : Session σ).attached = 1 := rfl
    cases trouble with
    | some t =>
      exact .closed hone after fun t' ht => .inl ⟨j', (congrArg Prod.fst hstop).trans ht⟩
    | none =>
      simp only
      cases hfailures : failures after with
      | error t => exact .closed hone after fun t' ht => .inr (by simpa [hfailures] using ht)
      | ok failed => exact .closed hone after (by simp [hfailures])
  · exact .left (Nat.lt_add_left n (Nat.lt_succ_self 1))

/-- So has every call. -/
private theorem effect_call (client : Int) (c : Call) :
    let r := s.step ops j (.call client c)
    let seen := s.watched.step ops.watched j (.call client c)
    Effect ops ⟨⟨s, .call client c, r.1, r.2.1⟩, seen.2.1.sink.2⟩ := by
  cases hclient : s.hasClient client with
  | false =>
    have hseen : s.watched.hasClient client = false := hclient
    simp only [step, hclient, hseen]
    exact .unknownClient hclient c
  | true =>
    have hseen : s.watched.hasClient client = true := hclient
    simp only [step, hclient, hseen, if_true]
    cases hline : c.line? s.profile s.issued with
    | error t =>
      have hsame : c.line? s.watched.profile s.watched.issued = .error t := hline
      simp only [call, hline, hsame]
      exact .callRaised hclient hline
    | ok line =>
      have hsame : c.line? s.watched.profile s.watched.issued = .ok line := hline
      have heffect := @Effect.performed _ ops _ _ _ _ hclient hline
      simp only [call, hline, hsame]
      cases line with
      | none =>
        simp only [Call.events, hline] at heffect
        exact heffect s.sink (by simp)
      | some q =>
        simp only [Call.events, hline] at heffect
        simp only [emit, watched, Sink.watched]
        generalize Journal.note _ _ _ _ _ = j'
        exact heffect (ops.receive q.render s.sink j').2.1 fun t ht => ⟨q, j', rfl, ht⟩

end Steps

/-- Every step of a session has one of the effects. -/
theorem effect_step (ops : Sink σ) (s : Session σ) (j : Journal) (action : Step) :
    let r := s.step ops j action
    let seen := s.watched.step ops.watched j action
    Effect ops ⟨⟨s, action, r.1, r.2.1⟩, seen.2.1.sink.2⟩ := by
  cases action with
  | attach => exact effect_attach ops s j
  | detach => exact effect_detach ops s j
  | call client c => exact effect_call ops s j client c

/-- Effects in a row: each step begins with the session that the one before it left. -/
inductive Course (ops : Sink σ) : Session σ → List (Passage σ) → Prop where
  /-- Nothing was done. -/
  | nil (s : Session σ) : Course ops s []
  /-- One more step in front. -/
  | cons {t : Passage σ} {ts : List (Passage σ)} (h : Effect ops t)
    (hrest : Course ops t.after ts) : Course ops t.before (t :: ts)

/-- The course of a run is a course. -/
theorem course_course (ops : Sink σ) (s : Session σ) (j : Journal) (steps : List Step) :
    Course ops s (course ops s j steps) := by
  induction steps generalizing s j with
  | nil => exact .nil s
  | cons action rest ih => exact .cons (effect_step ops s j action) (ih _ _)

/-- Every step of a course has its effect. -/
theorem Course.effect {ops : Sink σ} {s : Session σ} {ts : List (Passage σ)}
    (h : Course ops s ts) : ∀ t ∈ ts, Effect ops t := by
  induction h with
  | nil s => simp
  | cons ht hrest ih => exact List.forall_mem_cons.2 ⟨ht, ih⟩

/-- The rear of a course is a course of the session that its front leaves. -/
theorem Course.rear {ops : Sink σ} {s : Session σ} {front ts : List (Passage σ)}
    (h : Course ops s (front ++ ts)) : Course ops (s.atEnd front) ts := by
  induction front generalizing s with
  | nil => exact h
  | cons t front ih =>
    cases h with
    | cons ht hrest =>
      rw [atEnd_cons]
      exact ih hrest

end Session

end WorkloadTrace
