import Mathlib.Data.List.Forall2
import WorkloadTrace.Proofs.CallArguments
import WorkloadTrace.Proofs.SessionCourse

/-!
# Selectors as ordinals

The count of selectors is the number of calls on metadata so far, whoever made them and however
clients came and went between them; a call of arguments that are not of the declared kinds can raise
before its selector is taken, and is not counted then. The count is all that a call knows of the
past: two calls that differ in the table only hand over the same line when equally many selectors
were taken before them, and for a call that is not on metadata not even that matters. In an
interleaving of the calls of several clients, the lines of each client therefore depend on its own
calls and on the order of the calls on metadata alone.
-/

namespace WorkloadTrace

namespace Call

variable {p : Profile} {issued : Nat} {c : Call}

/-- What a call brings does not depend on its table. -/
@[simp] theorem events_withTable (c : Call) (table : Value) (p : Profile) (issued : Nat) :
    (c.withTable table).events p issued = c.events p issued := by
  simp only [events, line?_withTable]

/-- The number of selectors taken decides nothing about a call that is not on metadata. -/
theorem events_eq_of_not_isMetadata (h : c.isMetadata = false) (p : Profile) (m n : Nat) :
    c.events p m = c.events p n := by
  simp only [events, line?_eq_of_not_isMetadata h p m n]

/-- A call that is not on metadata takes no selector. -/
theorem issuedAfter_of_not_isMetadata (h : c.isMetadata = false) :
    c.issuedAfter p issued = issued := by
  have hnone : c.takes p = false := Bool.eq_false_iff.2 fun htakes =>
    absurd (isMetadata_of_takes htakes) (by simp [h])
  rw [issuedAfter_eq, hnone]
  rfl

end Call

namespace Session

variable {σ τ : Type} {ops : Sink σ}

namespace Step

/-- Whether a step is a call of a given client. -/
def isCallOf (client : Int) : Step → Bool
  | .call k _ => k = client
  | _ => false

/-- Whether a step is a call on metadata. -/
def isMetadata : Step → Bool
  | .call _ c => c.isMetadata
  | _ => false

@[simp] theorem isCallOf_attach (client : Int) : isCallOf client .attach = false := rfl

@[simp] theorem isCallOf_detach (client : Int) : isCallOf client .detach = false := rfl

@[simp] theorem isCallOf_call (client k : Int) (c : Call) :
    isCallOf client (.call k c) = decide (k = client) := rfl

@[simp] theorem isMetadata_attach : isMetadata .attach = false := rfl

@[simp] theorem isMetadata_detach : isMetadata .detach = false := rfl

@[simp] theorem isMetadata_call (client : Int) (c : Call) :
    isMetadata (.call client c) = c.isMetadata := rfl

/-- Two steps that are the same but for the table of a call. -/
inductive SameButTable : Step → Step → Prop where
  /-- A client attaches. -/
  | attach : SameButTable .attach .attach
  /-- A client detaches. -/
  | detach : SameButTable .detach .detach
  /-- A client issues a call on one table or another. -/
  | call (client : Int) (c : Call) (table : Value) :
    SameButTable (.call client c) (.call client (c.withTable table))

end Step

/-- Whether a step is a call of a client that comes to take a selector. -/
def Passage.takes (t : Passage σ) : Bool :=
  match t.action with
  | .call _ c => t.reply ≠ .noClient && c.takes t.before.profile
  | _ => false

/-- A step changes nothing that decides how calls are written. -/
theorem Effect.profile_eq {t : Passage σ} (h : Effect ops t) :
    t.after.profile = t.before.profile := by
  cases h <;> rfl

/-- A call of a client brings its line to the sink and takes its selector. -/
theorem Effect.call_eq {t : Passage σ} (h : Effect ops t) {client : Int} {c : Call}
    (haction : t.action = .call client c) (hreply : t.reply ≠ .noClient) :
    t.brought = c.events t.before.profile t.before.issued ∧
      t.after.issued = c.issuedAfter t.before.profile t.before.issued := by
  cases h with
  | unknownClient h c => exact absurd rfl hreply
  | callRaised h hline =>
    obtain ⟨rfl, rfl⟩ := Step.call.inj haction
    exact ⟨by simp [Call.events, hline], rfl⟩
  | performed h hline sink hreceive =>
    obtain ⟨rfl, rfl⟩ := Step.call.inj haction
    exact ⟨rfl, rfl⟩
  | _ => exact absurd haction (by simp)

/-- A step takes one selector or none. -/
theorem Effect.issued_eq {t : Passage σ} (h : Effect ops t) :
    t.after.issued = t.before.issued + if t.takes then 1 else 0 := by
  cases h with
  | callRaised h hline => simp [Passage.takes, Call.issuedAfter_eq]
  | performed h hline sink hreceive => simp [Passage.takes, Call.issuedAfter_eq]
  | _ => simp [Passage.takes]

/-- A typed call of a client is performed, unless a value is too large or the sink raises. -/
theorem Effect.reply_of_isTyped {t : Passage σ} (h : Effect ops t) {client : Int} {c : Call}
    (haction : t.action = .call client c) (hc : c.IsTyped) (hreply : t.reply ≠ .noClient) :
    t.reply = .performed ∨ ∃ u, t.reply = .raised u ∧
      (c.line? t.before.profile t.before.issued = .error u ∧ u.IsSize ∨
        ∃ q j, c.line? t.before.profile t.before.issued = .ok (some q) ∧
          (ops.receive q.render t.before.sink j).1 = some u) := by
  cases h with
  | unknownClient h c => exact absurd rfl hreply
  | @callRaised s k c' u h hline =>
    obtain ⟨rfl, rfl⟩ := Step.call.inj haction
    exact .inr ⟨u, rfl, .inl ⟨hline, Call.isSize_of_isTyped hc hline⟩⟩
  | @performed s k c' line h hline sink trouble hreceive =>
    obtain ⟨rfl, rfl⟩ := Step.call.inj haction
    cases trouble with
    | none => exact .inl rfl
    | some u =>
      obtain ⟨q, j, rfl, hraised⟩ := hreceive u rfl
      exact .inr ⟨u, rfl, .inr ⟨q, j, hline, hraised⟩⟩
  | _ => exact absurd haction (by simp)

/-- A course changes nothing that decides how calls are written. -/
theorem Course.profile_eq {s : Session σ} {ts : List (Passage σ)} (h : Course ops s ts) :
    (s.atEnd ts).profile = s.profile := by
  induction h with
  | nil s => rfl
  | cons ht hrest ih => rw [atEnd_cons, ih, ht.profile_eq]

/-- After a course, as many selectors are taken as calls came to take one. -/
theorem Course.issued_eq {s : Session σ} {ts : List (Passage σ)} (h : Course ops s ts) :
    (s.atEnd ts).issued = s.issued + ts.countP Passage.takes := by
  induction h with
  | nil s => rfl
  | cons ht hrest ih =>
    rw [atEnd_cons, ih, ht.issued_eq, List.countP_cons]
    omega

/-- The front of a course is one. -/
theorem Course.front {s : Session σ} {front rear : List (Passage σ)}
    (h : Course ops s (front ++ rear)) : Course ops s front := by
  induction front generalizing s with
  | nil => exact .nil s
  | cons t front ih =>
    cases h with
    | cons ht hrest => exact .cons ht (ih hrest)

/-- A step of a course begins with the session that the steps before it left. -/
theorem Course.before_eq {s : Session σ} {front rear : List (Passage σ)} {t : Passage σ}
    (h : Course ops s (front ++ t :: rear)) : t.before = s.atEnd front := by
  have hrear := h.rear
  generalize s.atEnd front = u at hrear
  cases hrear
  rfl

/-- What a call of a client in a course brings to the sink: the settings, the call and the number of
selectors taken before it decide. -/
theorem Course.brought_eq {s : Session σ} {front rear : List (Passage σ)} {t : Passage σ}
    (h : Course ops s (front ++ t :: rear)) {client : Int} {c : Call}
    (haction : t.action = .call client c) (hreply : t.reply ≠ .noClient) :
    t.brought = c.events s.profile (s.issued + front.countP Passage.takes) := by
  have hbrought := ((h.effect t (by simp)).call_eq haction hreply).1
  rw [hbrought, h.before_eq, h.front.profile_eq, h.front.issued_eq]

/-- The numbers of selectors taken before the calls of one client among calls on metadata. -/
def ordinals (p : Profile) (client : Int) : Nat → List Step → List Nat
  | _, [] => []
  | n, .call k c :: rest =>
    if k = client then n :: ordinals p client (c.issuedAfter p n) rest
    else ordinals p client (c.issuedAfter p n) rest
  | n, _ :: rest => ordinals p client n rest

/-- What calls bring to the sink when those on metadata find the given numbers of selectors taken,
one after the other. -/
def broughtAt (p : Profile) : List Nat → List Step → List (List SinkEvent)
  | _, [] => []
  | ns, .call _ c :: rest =>
    c.events p (ns.headD 0) :: broughtAt p (if c.isMetadata then ns.tail else ns) rest
  | ns, _ :: rest => broughtAt p ns rest

/-- What the calls of one client bring to the sink is decided by these calls and by the calls on
metadata of all clients. A call that is not on metadata neither has a number of its own nor moves
the others on. -/
theorem Course.brought_calls_eq {s : Session σ} {ts : List (Passage σ)} (h : Course ops s ts)
    (hclients : ∀ t ∈ ts, t.reply ≠ .noClient) (client : Int) :
    (ts.filter fun t => t.action.isCallOf client).map Passage.brought =
      broughtAt s.profile
        (ordinals s.profile client s.issued
          ((ts.map fun t => t.action).filter Step.isMetadata))
        ((ts.map fun t => t.action).filter (Step.isCallOf client)) := by
  induction h with
  | nil s => rfl
  | @cons t ts ht hrest ih =>
    obtain ⟨hreply, htail⟩ := List.forall_mem_cons.1 hclients
    have hih := ih htail
    rw [ht.profile_eq] at hih
    cases haction : t.action with
    | attach =>
      have hissued : t.after.issued = t.before.issued := by
        simpa [Passage.takes, haction] using ht.issued_eq
      rw [hissued] at hih
      simpa [haction] using hih
    | detach =>
      have hissued : t.after.issued = t.before.issued := by
        simpa [Passage.takes, haction] using ht.issued_eq
      rw [hissued] at hih
      simpa [haction] using hih
    | call k c =>
      obtain ⟨hbrought, htaken⟩ := ht.call_eq haction hreply
      rw [htaken] at hih
      cases hmeta : c.isMetadata with
      | true =>
        by_cases hk : k = client
        · simpa [haction, hmeta, hk, ordinals, broughtAt, hbrought] using hih
        · simpa [haction, hmeta, hk, ordinals] using hih
      | false =>
        rw [Call.issuedAfter_of_not_isMetadata hmeta] at hih
        by_cases hk : k = client
        · have hevents := Call.events_eq_of_not_isMetadata hmeta t.before.profile
          simpa [haction, hmeta, hk, broughtAt, hbrought] using ⟨hevents _ _, hih⟩
        · simpa [haction, hmeta, hk] using hih

/-- A course has the steps that it is the course of. -/
theorem course_map_action (ops : Sink σ) (s : Session σ) (j : Journal) (steps : List Step) :
    (course ops s j steps).map (fun t => t.action) = steps := by
  induction steps generalizing s j with
  | nil => rfl
  | cons action rest ih => simp only [course, List.map_cons, ih]

/-- The table of a call changes nothing about the step. -/
theorem step_sameButTable {a b : Step} (h : Step.SameButTable a b) (ops : Sink σ) (s : Session σ)
    (j : Journal) : s.step ops j b = s.step ops j a := by
  cases h with
  | attach => rfl
  | detach => rfl
  | call client c table => simp [step, call]

/-- The tables of all calls change nothing about a course but the calls that its steps name. -/
theorem course_sameButTable (ops : Sink σ) (s : Session σ) (j : Journal)
    {steps retabled : List Step} (h : List.Forall₂ Step.SameButTable steps retabled) :
    (course ops s j retabled).map (fun t => (t.reply, t.brought, t.after)) =
      (course ops s j steps).map fun t => (t.reply, t.brought, t.after) := by
  induction h generalizing s j with
  | nil => rfl
  | cons hstep hrest ih => simp only [course, List.map_cons, step_sameButTable hstep, ih]

/-- What the count of selectors is in a course from a session. -/
structure Numbered (ops : Sink σ) (s : Session σ) (ts : List (Passage σ)) : Prop where
  /-- At every moment, as many selectors are taken as calls came to take one. -/
  issued_eq : ∀ front rear, ts = front ++ rear →
    (s.atEnd front).issued = s.issued + front.countP Passage.takes
  /-- A call of arguments of the declared kinds takes a selector exactly if it is on metadata. -/
  takes_eq : ∀ t ∈ ts, ∀ client c, t.action = .call client c → c.IsTyped → t.reply ≠ .noClient →
    t.takes = c.isMetadata
  /-- Such a call is performed, unless a value is too large to be written or the sink raises. -/
  reply : ∀ t ∈ ts, ∀ client c, t.action = .call client c → c.IsTyped → t.reply ≠ .noClient →
    t.reply = .performed ∨ ∃ u, t.reply = .raised u ∧
      (c.line? t.before.profile t.before.issued = .error u ∧ u.IsSize ∨
        ∃ q j, c.line? t.before.profile t.before.issued = .ok (some q) ∧
          (ops.receive q.render t.before.sink j).1 = some u)

/-- In every course the calls on metadata take their selectors in order. -/
theorem Course.numbered {s : Session σ} {ts : List (Passage σ)} (h : Course ops s ts) :
    Numbered ops s ts := by
  refine ⟨?_, ?_, fun t ht client c haction hc hreply =>
    (h.effect t ht).reply_of_isTyped haction hc hreply⟩
  · rintro front rear rfl
    exact h.front.issued_eq
  · intro t ht client c haction hc hreply
    rw [Passage.takes, haction]
    simp [hreply, Call.takes_of_isTyped hc]

/-- What two courses have in common that begin with equal settings and equal counts. -/
structure Agree (ts : List (Passage σ)) (ts' : List (Passage τ)) : Prop where
  /-- The same call anywhere in the two, whoever issues it and whatever its table, hands over the
  same line; a call on metadata if as many selectors were taken before it. -/
  brought : ∀ front t rear front' t' rear', ts = front ++ t :: rear → ts' = front' ++ t' :: rear' →
    ∀ client client' c table, t.action = .call client c →
      t'.action = .call client' (c.withTable table) →
      t.reply ≠ .noClient → t'.reply ≠ .noClient →
      (c.isMetadata = true → front.countP Passage.takes = front'.countP Passage.takes) →
      t.brought = t'.brought
  /-- In two interleavings of the calls of the same clients that keep the order of the calls on
  metadata, every client hands over the same lines. -/
  interleaved : (∀ t ∈ ts, t.reply ≠ .noClient) → (∀ t ∈ ts', t.reply ≠ .noClient) →
    (ts.map fun t => t.action).filter Step.isMetadata =
      (ts'.map fun t => t.action).filter Step.isMetadata →
    ∀ client, (ts.map fun t => t.action).filter (Step.isCallOf client) =
        (ts'.map fun t => t.action).filter (Step.isCallOf client) →
      (ts.filter fun t => t.action.isCallOf client).map Passage.brought =
        (ts'.filter fun t => t.action.isCallOf client).map Passage.brought

/-- Two courses that begin with the same settings and count agree. -/
theorem Course.agree {ops' : Sink τ} {s : Session σ} {s' : Session τ} {ts : List (Passage σ)}
    {ts' : List (Passage τ)} (h : Course ops s ts) (h' : Course ops' s' ts')
    (hprofile : s.profile = s'.profile) (hissued : s.issued = s'.issued) : Agree ts ts' := by
  refine ⟨?_, ?_⟩
  · rintro front t rear front' t' rear' rfl rfl client client' c table haction haction' hreply
      hreply' hcount
    rw [h.brought_eq haction hreply, h'.brought_eq haction' hreply', Call.events_withTable,
      hprofile, hissued]
    cases hmeta : c.isMetadata with
    | true => rw [hcount hmeta]
    | false => exact Call.events_eq_of_not_isMetadata hmeta _ _ _
  · intro hclients hclients' hmetadata client hcalls
    rw [h.brought_calls_eq hclients client, h'.brought_calls_eq hclients' client, hmetadata, hcalls,
      hprofile, hissued]

/-- The count of selectors is the number of calls on metadata so far, and all that a line depends on
besides the settings and the call without its table. -/
theorem selectors_number_metadata_calls (ops : Sink σ) (ops' : Sink τ) (settings : Settings)
    (levels : Nat) (id id' : Text) (sink : σ) (sink' : τ) (j j' : Journal)
    (steps steps' : List Step) :
    let start : Session σ := { settings := settings, id := id, levels := levels, sink := sink }
    let start' : Session τ := { settings := settings, id := id', levels := levels, sink := sink' }
    let ts := course ops start j steps
    let ts' := course ops' start' j' steps'
    Numbered ops start ts ∧ Agree ts ts' ∧
      ((ts.map fun t => t.action) = steps) ∧
      ∀ retabled, List.Forall₂ Step.SameButTable steps retabled →
        (course ops start j retabled).map (fun t => (t.reply, t.brought, t.after)) =
          ts.map fun t => (t.reply, t.brought, t.after) := by
  intro start start' ts ts'
  have hcourse : Course ops start ts := course_course ops start j steps
  have hcourse' : Course ops' start' ts' := course_course ops' start' j' steps'
  exact ⟨hcourse.numbered, hcourse.agree hcourse' rfl rfl, course_map_action ops start j steps,
    fun retabled h => course_sameButTable ops start j h⟩

/-- Two clients whose calls are interleaved in two ways, once with the sink closed and opened again
in between: the second client writes its line of the second selector in both. -/
theorem second_selector_in_both_interleavings :
    let purpose (c : String) : Call :=
      .readMeta (.text "usertable".toText) (.int 0) (.text c.toText) (.text "key*".toText)
    let row : Call := .read (.text "usertable".toText) (.text "key7".toText)
    let steps : List Step :=
      [.attach, .attach, .call 0 (purpose "ads"), .call 1 row, .call 1 (purpose "billing")]
    let steps' : List Step :=
      [.attach, .attach, .call 1 row, .detach, .detach, .call 0 (purpose "ads"), .attach,
        .call 1 (purpose "billing")]
    let start : Session (List SinkEvent) := { settings := {}, id := [], sink := [] }
    let ts := course Sink.memory start {} steps
    let ts' := course Sink.memory start {} steps'
    ((∀ t ∈ ts, t.reply ≠ .noClient) ∧ (∀ t ∈ ts', t.reply ≠ .noClient) ∧
      steps.filter Step.isMetadata = steps'.filter Step.isMetadata ∧
      steps.filter (Step.isCallOf 1) = steps'.filter (Step.isCallOf 1)) ∧
    (start.atEnd ts).issued = 2 ∧
    (ts.filter fun t => t.action.isCallOf 1).map Passage.brought =
      (ts'.filter fun t => t.action.isCallOf 1).map Passage.brought := by
  intro purpose row steps steps' start ts ts'
  obtain ⟨hnumbered, hagree, -⟩ := selectors_number_metadata_calls Sink.memory Sink.memory
    {} 900 [] [] [] [] {} {} steps steps'
  have hclients : ∀ t ∈ ts, t.reply ≠ .noClient := by decide +kernel
  have hclients' : ∀ t ∈ ts', t.reply ≠ .noClient := by decide +kernel
  have htwo : ts.countP Passage.takes = 2 := by decide +kernel
  exact ⟨⟨hclients, hclients', rfl, rfl⟩,
    (hnumbered.issued_eq ts [] (List.append_nil ts).symm).trans
      ((Nat.zero_add _).trans htwo),
    hagree.interleaved hclients hclients' rfl 1 rfl⟩

end Session

end WorkloadTrace
