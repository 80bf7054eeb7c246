import WorkloadTrace.Proofs.Numerals
import WorkloadTrace.Session

/-!
# The trail of a session

A run of a session leaves a trail: each step with the session before and after it and the reply.
What a step brings to the sink depends on the session before it alone, so what a sink in memory
holds at the end of a run is read off the trail.
-/

namespace WorkloadTrace

/-- The line that an event brings to a sink, if it brings one. -/
def SinkEvent.line? : SinkEvent → Option Text
  | .received line => some line
  | _ => none

/-- The text of all lines that reached a sink. -/
def SinkEvent.traceText (events : List SinkEvent) : Text := (events.filterMap line?).flatten

/-- The last step of some decides what they lead to, or else the step before them does. -/
theorem getD_map_getLast?_cons {α β : Type} (after : α → β) (a : α) (as : List α) (start : β) :
    ((a :: as).getLast?.map after).getD start = (as.getLast?.map after).getD (after a) := by
  rw [List.getLast?_cons]
  cases as.getLast? <;> rfl

namespace Session

variable {σ : Type}

/-- Nobody is attached, or one client, or several. -/
theorem attached_cases (s : Session σ) :
    s.attached = 0 ∨ s.attached = 1 ∨ ∃ n, s.attached = n + 2 := by
  rcases s.attached with _ | _ | n
  · exact .inl rfl
  · exact .inr (.inl rfl)
  · exact .inr (.inr ⟨n, rfl⟩)

/-- The query line that a call writes in a session; a call that raises writes none. -/
def queryFor (s : Session σ) (c : Call) : Option QueryLine :=
  match c.line? s.profile s.issued with
  | .ok line => line
  | .error _ => none

theorem queryFor_eq_some_iff {s : Session σ} {c : Call} {q : QueryLine} :
    s.queryFor c = some q ↔ c.line? s.profile s.issued = .ok (some q) := by
  rw [queryFor]
  cases c.line? s.profile s.issued <;> simp

/-- The line that a step writes, if it is a call of a client that writes one. -/
def lineOf (s : Session σ) : Step → Option Text
  | .call client c => if s.hasClient client then (s.queryFor c).map QueryLine.render else none
  | _ => none

/-- A call of a client writes the line that it has in the session. -/
theorem lineOf_call {s : Session σ} {client : Int} {c : Call} {q : QueryLine}
    (hclient : s.hasClient client = true)
    (hline : c.line? s.profile s.issued = .ok (some q)) :
    s.lineOf (.call client c) = some q.render := by
  rw [lineOf, if_pos hclient, queryFor, hline]
  rfl

/-- Two calls, each of a client of a session, that write the same line or raise the same. -/
structure WriteAlike {τ : Type} (s : Session σ) (client : Int) (c : Call) (s' : Session τ)
    (client' : Int) (c' : Call) : Prop where
  /-- They have the same line, or it cannot be made for the same reason. -/
  line?_eq : c'.line? s'.profile s'.issued = c.line? s.profile s.issued
  /-- They hand over the same line, if any. -/
  lineOf_eq : s'.lineOf (.call client' c') = s.lineOf (.call client c)

theorem writeAlike_of_line?_eq {τ : Type} {s : Session σ} {client : Int} {c : Call}
    {s' : Session τ} {client' : Int} {c' : Call} (hclient : s.hasClient client = true)
    (hclient' : s'.hasClient client' = true)
    (h : c'.line? s'.profile s'.issued = c.line? s.profile s.issued) :
    s.WriteAlike client c s' client' c' := by
  refine ⟨h, ?_⟩
  rw [lineOf, lineOf, if_pos hclient, if_pos hclient', queryFor, queryFor, h]

/-- What a step brings to the sink. -/
def eventsOf (s : Session σ) : Step → List SinkEvent
  | .attach => if s.attached = 0 then [.started] else []
  | .detach => if s.attached = 1 then [.stopped] else []
  | .call client c => (s.lineOf (.call client c)).toList.map .received

/-- One step of a run. -/
structure Transition (σ : Type) where
  /-- The session before the step. -/
  before : Session σ
  /-- What is done. -/
  action : Step
  /-- The reply to it. -/
  reply : Reply
  /-- The session after the step. -/
  after : Session σ

/-- The steps of a run in order. -/
def trail (ops : Sink σ) : Session σ → Journal → List Step → List (Transition σ)
  | _, _, [] => []
  | s, j, action :: rest =>
    let r := s.step ops j action
    ⟨s, action, r.1, r.2.1⟩ :: trail ops r.2.1 r.2.2 rest

/-- The session after all steps of a trail. -/
def afterAll (s : Session σ) (ts : List (Transition σ)) : Session σ :=
  (ts.getLast?.map Transition.after).getD s

@[simp] theorem afterAll_nil (s : Session σ) : s.afterAll [] = s := rfl

@[simp] theorem afterAll_cons (s : Session σ) (t : Transition σ) (ts : List (Transition σ)) :
    s.afterAll (t :: ts) = t.after.afterAll ts :=
  getD_map_getLast?_cons _ t ts s

/-- The trail is the run with the sessions before the steps beside it. -/
theorem trail_eq_run (ops : Sink σ) (s : Session σ) (j : Journal) (steps : List Step) :
    (trail ops s j steps).map (fun t => (t.reply, t.after)) =
      (s.run ops j steps).map (fun r => (r.1, r.2.1)) := by
  induction steps generalizing s j with
  | nil => rfl
  | cons action rest ih =>
    simp only [trail, run, List.map_cons]
    rw [ih]

/-- Every entry of a trail is a step from the session that it names. -/
theorem step_of_mem_trail {ops : Sink σ} {s : Session σ} {j : Journal} {steps : List Step}
    {t : Transition σ} (ht : t ∈ trail ops s j steps) :
    ∃ j, t.reply = (t.before.step ops j t.action).1 ∧
      t.after = (t.before.step ops j t.action).2.1 := by
  induction steps generalizing s j with
  | nil => exact absurd ht List.not_mem_nil
  | cons action rest ih =>
    rcases List.mem_cons.1 ht with rfl | ht
    · exact ⟨j, rfl, rfl⟩
    · exact ih ht

/-- Every step of a trail is one of the steps of the run. -/
theorem action_mem_of_mem_trail {ops : Sink σ} {s : Session σ} {j : Journal} {steps : List Step}
    {t : Transition σ} (ht : t ∈ trail ops s j steps) : t.action ∈ steps := by
  induction steps generalizing s j with
  | nil => exact absurd ht List.not_mem_nil
  | cons action rest ih =>
    rcases List.mem_cons.1 ht with rfl | ht
    · exact List.mem_cons_self
    · exact List.mem_cons_of_mem _ (ih ht)

/-- A call that is performed is made by a client and has a line, if it writes one. -/
theorem performed_call {ops : Sink σ} {s : Session σ} {j : Journal} {client : Int} {c : Call}
    (h : (s.step ops j (.call client c)).1 = .performed) :
    s.hasClient client = true ∧ c.line? s.profile s.issued = .ok (s.queryFor c) := by
  simp only [step] at h
  split at h
  · rename_i hclient
    refine ⟨hclient, ?_⟩
    cases hline : c.line? s.profile s.issued with
    | ok line => simp [queryFor, hline]
    | error t => simp [call, hline, Reply.of] at h
  · exact absurd h (by simp)

/-- The sink in memory keeps what each step brings to it, in order. -/
theorem sink_step_memory (s : Session (List SinkEvent)) (j : Journal) (action : Step) :
    (s.step Sink.memory j action).2.1.sink = s.sink ++ s.eventsOf action := by
  cases action with
  | attach =>
    by_cases h : s.attached = 0 <;>
      simp [step, attach, eventsOf, h, Journal.within, startSink, enlist, Sink.memory]
  | detach =>
    simp only [step, detach, eventsOf]
    split <;> simp [*, Journal.within, stopSink, Sink.memory]
  | call client c =>
    simp only [step, eventsOf, lineOf]
    by_cases hclient : s.hasClient client = true
    · cases hline : c.line? s.profile s.issued with
      | error t => simp [hclient, call, queryFor, hline]
      | ok line =>
        cases line <;> simp [hclient, call, queryFor, hline, emit, Sink.memory]
    · simp [hclient]

/-- What a sink in memory holds after a run is what the steps of its trail brought to it. -/
theorem sink_afterAll_memory (s : Session (List SinkEvent)) (j : Journal) (steps : List Step) :
    (s.afterAll (trail Sink.memory s j steps)).sink =
      s.sink ++ (trail Sink.memory s j steps).flatMap fun t => t.before.eventsOf t.action := by
  induction steps generalizing s j with
  | nil => simp [trail]
  | cons action rest ih =>
    simp only [trail, afterAll_cons, List.flatMap_cons]
    rw [ih, sink_step_memory, List.append_assoc]

theorem filterMap_line?_eventsOf (s : Session σ) (action : Step) :
    (s.eventsOf action).filterMap SinkEvent.line? = (s.lineOf action).toList := by
  cases action with
  | attach => simp only [eventsOf]; split <;> rfl
  | detach => simp only [eventsOf]; split <;> rfl
  | call client c => simp only [eventsOf]; cases s.lineOf (.call client c) <;> rfl

/-- The lines that reach a sink in memory during a run are those that its steps write. -/
theorem lines_afterAll_memory (s : Session (List SinkEvent)) (j : Journal) (steps : List Step) :
    (s.afterAll (trail Sink.memory s j steps)).sink.filterMap SinkEvent.line? =
      s.sink.filterMap SinkEvent.line? ++
        (trail Sink.memory s j steps).filterMap fun t => t.before.lineOf t.action := by
  rw [sink_afterAll_memory, List.filterMap_append, List.append_right_inj]
  induction trail Sink.memory s j steps with
  | nil => rfl
  | cons t ts ih =>
    rw [List.flatMap_cons, List.filterMap_append, filterMap_line?_eventsOf, ih]
    cases h : t.before.lineOf t.action <;> simp [h]

/-- The session with standard settings and a sink in memory once a client has attached. -/
def withOneClient : Session (List SinkEvent) :=
  (step Sink.memory { settings := {}, id := [], sink := [] } {} .attach).2.1

/-- The workload of standard settings has no numbers that are too long. -/
theorem records_withOneClient :
    withOneClient.profile.workload.recordCount ≤ 10 ^ Decimal.maxDigits :=
  Decimal.le_pow_maxDigits (by decide)

end Session

end WorkloadTrace
