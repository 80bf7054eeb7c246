import WorkloadTrace.Proofs.SessionCourse

/-!
# The lifecycle of a sink

A session opens its sink for the first client that attaches and closes it after the last one. Each
step keeps in step the number of attached clients and the last opening or closing, so over a whole
course openings and closings alternate, however clients come and go and whoever calls meanwhile.
-/

namespace WorkloadTrace

namespace SinkEvent

/-- Whether an event is an opening or a closing. -/
def isLifecycle : SinkEvent → Bool
  | .received _ => false
  | _ => true

/-- So many openings and closings in turn, beginning with a closing if the sink is open. -/
def alternation : Bool → Nat → List SinkEvent
  | _, 0 => []
  | false, n + 1 => .started :: alternation true n
  | true, n + 1 => .stopped :: alternation false n

end SinkEvent

/-- A call neither opens nor closes the sink. -/
theorem Call.filter_isLifecycle_events (p : Profile) (issued : Nat) (c : Call) :
    (c.events p issued).filter SinkEvent.isLifecycle = [] := by
  simp only [events]
  split <;> rfl

namespace Session

variable {σ : Type} {ops : Sink σ}

namespace Passage

/-- The openings and closings of a step. -/
def lifecycle (t : Passage σ) : List SinkEvent := t.brought.filter SinkEvent.isLifecycle

/-- Whether a client was attached. -/
def arrives (t : Passage σ) : Bool :=
  match t.action with
  | .attach => !t.reply.isRaised
  | _ => false

/-- Whether a client was detached. -/
def departs (t : Passage σ) : Bool :=
  match t.action with
  | .detach => 0 < t.before.attached
  | _ => false

end Passage

/-- The openings and closings of a course in order. -/
def lifecycle (ts : List (Passage σ)) : List SinkEvent := ts.flatMap Passage.lifecycle

@[simp] theorem lifecycle_cons (t : Passage σ) (ts : List (Passage σ)) :
    lifecycle (t :: ts) = t.lifecycle ++ lifecycle ts := rfl

/-- The openings and closings of a step. -/
theorem Effect.lifecycle_eq {t : Passage σ} (h : Effect ops t) :
    t.lifecycle = match t.action with
      | .attach => if t.before.attached = 0 ∧ t.reply.isRaised = false then [.started] else []
      | .detach => if t.before.attached = 1 then [.stopped] else []
      | .call _ _ => [] := by
  cases h with
  | opened h sink => simp [Passage.lifecycle, SinkEvent.isLifecycle, Reply.isRaised, h]
  | openingRaised h sink hstart => simp [Passage.lifecycle, Reply.isRaised]
  | joined h => simp [Passage.lifecycle, Nat.ne_of_gt h]
  | surplus h => simp [Passage.lifecycle, h]
  | closed h sink hstop => simp [Passage.lifecycle, SinkEvent.isLifecycle, h]
  | left h => simp [Passage.lifecycle, Nat.ne_of_gt h]
  | unknownClient h c => rfl
  | callRaised h hline => rfl
  | performed h hline sink hreceive => exact Call.filter_isLifecycle_events _ _ _

/-- The number of attached clients after a step. -/
theorem Effect.attached_eq {t : Passage σ} (h : Effect ops t) :
    t.after.attached = match t.action with
      | .attach => if t.reply.isRaised then t.before.attached else t.before.attached + 1
      | .detach => t.before.attached - 1
      | .call _ _ => t.before.attached := by
  cases h with
  | opened h sink => simp [Reply.isRaised, h]
  | surplus h => simp [h]
  | closed h sink hstop => simp [h]
  | _ => simp [Reply.isRaised]

/-- A step that opens the sink finds no client and leaves one, a step that closes it leaves none,
and any other step leaves clients exactly when it finds some. -/
theorem Effect.phase {t : Passage σ} (h : Effect ops t) :
    t.lifecycle = [] ∧ (0 < t.after.attached ↔ 0 < t.before.attached) ∨
      t.lifecycle = [.started] ∧ t.before.attached = 0 ∧ 0 < t.after.attached ∨
      t.lifecycle = [.stopped] ∧ 0 < t.before.attached ∧ t.after.attached = 0 := by
  have hevents := h.lifecycle_eq
  cases h with
  | opened h sink => exact Or.inr (Or.inl ⟨rfl, h, Nat.one_pos⟩)
  | closed h sink hstop => exact Or.inr (Or.inr ⟨rfl, h ▸ Nat.one_pos, rfl⟩)
  | joined h => exact Or.inl ⟨rfl, iff_of_true (Nat.succ_pos _) h⟩
  | left h =>
    have hbefore := Nat.lt_trans Nat.one_pos h
    exact Or.inl ⟨rfl, iff_of_true (Nat.sub_pos_of_lt h) hbefore⟩
  | performed h hline sink hreceive => exact Or.inl ⟨hevents, Iff.rfl⟩
  | _ => exact Or.inl ⟨rfl, Iff.rfl⟩

/-- From a session on, openings and closings alternate. -/
theorem Course.alternates {s : Session σ} {ts : List (Passage σ)} (h : Course ops s ts) :
    ∃ n, lifecycle ts = SinkEvent.alternation (decide (0 < s.attached)) n := by
  induction h with
  | nil s => exact ⟨0, by simp [lifecycle, SinkEvent.alternation]⟩
  | @cons t ts ht hrest ih =>
    obtain ⟨n, hn⟩ := ih
    rw [lifecycle_cons, hn]
    rcases ht.phase with ⟨hnone, hiff⟩ | ⟨hopen, hbefore, hafter⟩ | ⟨hclose, hbefore, hafter⟩
    · exact ⟨n, by simp [hnone, hiff]⟩
    · exact ⟨n + 1, by simp [hopen, hbefore, hafter, SinkEvent.alternation]⟩
    · exact ⟨n + 1, by simp [hclose, hbefore, hafter, SinkEvent.alternation]⟩

/-- Clients are attached exactly when the sink was opened last, or was open before and neither
opened nor closed. -/
theorem Course.attached_pos_iff {s : Session σ} {ts : List (Passage σ)} (h : Course ops s ts) :
    0 < (s.atEnd ts).attached ↔
      (lifecycle ts).getLast? = some .started ∨ lifecycle ts = [] ∧ 0 < s.attached := by
  induction h with
  | nil s => simp [lifecycle]
  | @cons t ts ht hrest ih =>
    rw [atEnd_cons, ih, lifecycle_cons, List.getLast?_append]
    rcases ht.phase with ⟨hnone, hiff⟩ | ⟨hopen, hbefore, hafter⟩ | ⟨hclose, hbefore, hafter⟩
    · simp [hnone, hiff]
    · cases hlast : (lifecycle ts).getLast? with
      | none => simp [hopen, hafter, List.getLast?_eq_none_iff.1 hlast]
      | some e =>
        have hne : lifecycle ts ≠ [] := fun hnil => by simp [hnil] at hlast
        simp [hopen, hne]
    · cases hlast : (lifecycle ts).getLast? with
      | none => simp [hclose, hafter]
      | some e => simp [hclose, hafter]

/-- A step that attaches a client adds one, a step that detaches one takes one away. -/
theorem Effect.attached_add {t : Passage σ} (h : Effect ops t) :
    t.after.attached + (if t.departs then 1 else 0) =
      t.before.attached + (if t.arrives then 1 else 0) := by
  cases h with
  | opened h sink => simp [Passage.departs, Passage.arrives, Reply.isRaised, h]
  | surplus h => simp [Passage.departs, Passage.arrives, h]
  | closed h sink hstop => simp [Passage.departs, Passage.arrives, h]
  | left h =>
    have hpos := Nat.lt_trans Nat.one_pos h
    simp [Passage.departs, Passage.arrives, hpos, Nat.sub_add_cancel hpos]
  | _ => simp [Passage.departs, Passage.arrives, Reply.isRaised]

theorem Course.attached_add {s : Session σ} {ts : List (Passage σ)} (h : Course ops s ts) :
    (s.atEnd ts).attached + ts.countP Passage.departs =
      s.attached + ts.countP Passage.arrives := by
  induction h with
  | nil s => rfl
  | @cons t ts ht hrest ih =>
    have hstep := ht.attached_add
    rw [atEnd_cons, List.countP_cons, List.countP_cons]
    omega

/-- What a course does to the sink and to the number of attached clients. -/
structure Lifecycle (ops : Sink σ) (s : Session σ) (ts : List (Passage σ)) : Prop where
  /-- Openings and closings alternate, an opening first. -/
  alternates : ∃ n, lifecycle ts = SinkEvent.alternation false n
  /-- The sink is opened exactly by a client that attaches while none is attached, and closed
  exactly when the only attached client detaches. -/
  lifecycle_eq : ∀ t ∈ ts, t.lifecycle = match t.action with
    | .attach => if t.before.attached = 0 ∧ t.reply.isRaised = false then [.started] else []
    | .detach => if t.before.attached = 1 then [.stopped] else []
    | .call _ _ => []
  /-- Clients are counted when they attach and when they detach, and calls do not change the count.
  -/
  attached_eq : ∀ t ∈ ts, t.after.attached = match t.action with
    | .attach => if t.reply.isRaised then t.before.attached else t.before.attached + 1
    | .detach => t.before.attached - 1
    | .call _ _ => t.before.attached
  /-- Only the opening of the sink keeps a client from being attached, and only the first one. -/
  refused : ∀ t ∈ ts, t.action = .attach → ∀ u, t.reply = .raised u →
    t.before.attached = 0 ∧ ∃ j, (ops.start t.before.sink j).1 = some u
  /-- A detachment too many changes nothing and brings nothing to the sink. -/
  surplus : ∀ t ∈ ts, t.action = .detach → t.before.attached = 0 →
    t.after = t.before ∧ t.brought = []
  /-- The clients that are attached are those that came and did not go. -/
  balanced : (s.atEnd ts).attached + ts.countP Passage.departs = ts.countP Passage.arrives
  /-- Clients are attached exactly when the sink was opened last. -/
  attached_iff : 0 < (s.atEnd ts).attached ↔ (lifecycle ts).getLast? = some .started

/-- Every course of a new session opens and closes its sink in turn, in step with its clients. -/
theorem course_lifecycle (ops : Sink σ) (settings : Settings) (id : Text) (sink : σ) (j : Journal)
    (steps : List Step) :
    let start : Session σ := { settings := settings, id := id, sink := sink }
    Lifecycle ops start (course ops start j steps) := by
  intro start
  have hcourse : Course ops start (course ops start j steps) := course_course ops start j steps
  have heffect := hcourse.effect
  refine ⟨hcourse.alternates, fun t ht => (heffect t ht).lifecycle_eq,
    fun t ht => (heffect t ht).attached_eq, ?_, ?_, ?_, ?_⟩
  · intro t ht haction u hreply
    cases heffect t ht with
    | openingRaised h sink hstart =>
      obtain rfl := Reply.raised.inj hreply
      exact ⟨h, hstart⟩
    | opened h sink => exact absurd hreply (by simp)
    | joined h => exact absurd hreply (by simp)
    | _ => exact absurd haction (by simp)
  · intro t ht haction hnone
    cases heffect t ht with
    | surplus h => exact ⟨rfl, rfl⟩
    | closed h sink hstop => exact absurd hnone (by simp [h])
    | left h => exact absurd hnone (Nat.ne_of_gt (Nat.lt_trans Nat.one_pos h))
    | _ => exact absurd haction (by simp)
  · have hsum := hcourse.attached_add
    rwa [show start.attached = 0 from rfl, Nat.zero_add] at hsum
  · have hiff := hcourse.attached_pos_iff
    simpa [show start.attached = 0 from rfl] using hiff

example :
    lifecycle (course Sink.memory { settings := {}, id := [], sink := [] } {}
      [.detach, .attach, .attach, .detach, .detach, .detach, .call 0 (.readLog .null (.int 1)),
        .attach]) = [.started, .stopped, .started] := by
  decide

end Session

end WorkloadTrace
