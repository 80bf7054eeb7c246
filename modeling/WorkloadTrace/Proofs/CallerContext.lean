import WorkloadTrace.Proofs.LogBlocks
import WorkloadTrace.Proofs.RecordAttribution

/-!
# The fields of the caller

A session opens and closes its sink inside a block of log fields. A sink of any kind may raise
there, and may itself bind, drop and configure as long as it leaves the blocks that it enters. The
fields that the caller had bound are the same after every attachment and every detachment, however
it ends.
-/

namespace WorkloadTrace

/-- The sink leaves the blocks of log fields that it enters, and no others. -/
structure Sink.Nests {σ : Type} (time : Text) (ops : Sink σ) : Prop where
  /-- So does its opening. -/
  start : ∀ s j, Log.Reaches time j.log (ops.start s j).2.2.log
  /-- So does its closing. -/
  stop : ∀ s j, Log.Reaches time j.log (ops.stop s j).2.2.log

theorem Sink.nests_memory (time : Text) : Sink.memory.Nests time :=
  ⟨fun _ j => .refl time j.log, fun _ j => .refl time j.log⟩

theorem Sink.nests_file {σ η : Type} (storage : Storage σ η) (time : Text) :
    (Sink.file storage).Nests time := by
  constructor
  · intro s j
    obtain ⟨made, hmade, -⟩ := FileSink.growsTo_start storage s.1 s.2 j
    exact hmade.log_eq ▸ .refl time j.log
  · intro s j
    obtain ⟨made, hmade, -⟩ := FileSink.growsTo_stop storage s.1 s.2 j
    exact hmade.log_eq ▸ .refl time j.log

/-- A block of the journal restores the fields whatever its body answers. -/
theorem Journal.sameFields_within {α : Type} {time : Text} {values : Fields Value}
    {body : Journal → α × Journal} {j : Journal}
    (h : Log.Reaches time (j.enter values).log (body (j.enter values)).2.log) :
    j.log.SameFields (j.within values body).2.log := by
  obtain ⟨inner, hinner, hafter⟩ := h
  have hsaved := Log.saved_after_of_nested time hinner
  rw [← hafter] at hsaved
  exact Log.fields_exit hsaved

namespace Session

variable {σ : Type}

section Caller

variable {time : Text} {ops : Sink σ} (h : ops.Nests time) (s : Session σ) (j : Journal)

include h

/-- An attachment restores the fields of the caller, also when the opening raises. -/
theorem sameFields_attach : j.log.SameFields (s.attach ops j).2.2.log := by
  by_cases hnone : s.attached = 0
  · have hstart := h.start s.sink
      ((j.enter s.fields).note .info .session "trace session starting".toText none)
    have hwithin : j.log.SameFields (j.within s.fields (startSink ops s)).2.log :=
      Journal.sameFields_within hstart
    simp only [attach, hnone, if_true]
    generalize j.within s.fields (startSink ops s) = r at hwithin
    obtain ⟨⟨trouble, s'⟩, j'⟩ := r
    cases trouble <;> exact hwithin
  · simp only [attach, hnone, if_false]
    exact ⟨rfl, rfl⟩

/-- What happens while a sink is stopped leaves the blocks that it enters. -/
theorem reaches_stopSink : Log.Reaches time j.log (stopSink ops s j).2.log := by
  have hreaches := h.stop s.sink j
  obtain ⟨start, receive, stop, failures⟩ := ops
  simp only [stopSink] at hreaches ⊢
  generalize stop s.sink j = r at hreaches
  obtain ⟨trouble, sink, j'⟩ := r
  cases trouble with
  | some t => exact hreaches
  | none =>
    simp only
    cases failures sink <;> exact hreaches

/-- A detachment restores the fields of the caller, also when the closing raises. -/
theorem sameFields_detach : j.log.SameFields (s.detach ops j).2.2.log := by
  rcases s.attached_cases with hnone | hlast | ⟨n, hmore⟩
  · simp only [detach, hnone]
    exact ⟨rfl, rfl⟩
  · simp only [detach, hlast]
    exact Journal.sameFields_within (reaches_stopSink h _ _)
  · simp only [detach, hmore]
    exact ⟨rfl, rfl⟩

end Caller

/-- Every exit of properly nested steps matches an entry, and after an exit that matches an entry
the fields are those before the entry, whatever happened in between. A block restores the fields
whether its body ends normally or by an exception, and an entry that raises leaves them alone. So
every attachment and every detachment of a session leaves the fields of its caller as they were,
also when the sink raises. -/
theorem caller_fields_restored (time : Text) :
    (∀ levels before rest, Log.Nested levels (before ++ .exit :: rest) → ∃ earlier opening inner,
      before = earlier ++ opening :: inner ∧ opening.turn levels = .into ∧
        Log.Nested levels inner) ∧
    (∀ (l : Log) before opening inner, opening.turn l.levels = .into → Log.Nested l.levels inner →
      (l.after time before).SameFields
        (l.after time (before ++ opening :: (inner ++ [.exit])))) ∧
    (∀ (l : Log) opening body,
      l.SameFields ((Log.Program.block opening body .done).run time l).2) ∧
    ∀ {σ : Type} (ops : Sink σ), ops.Nests time → ∀ s (j : Journal),
      j.log.SameFields (attach ops s j).2.2.log ∧ j.log.SameFields (detach ops s j).2.2.log := by
  refine ⟨?_, ?_, fun l opening body => body.sameFields_block time opening l,
    fun ops h s j => ⟨sameFields_attach h s j, sameFields_detach h s j⟩⟩
  · intro levels before rest h
    rw [Log.Nested, Log.openBlocks_append] at h
    obtain ⟨depth, hbefore, hexit⟩ := Option.bind_eq_some_iff.1 h
    cases depth with
    | zero => simp [Log.openBlocks, Log.Step.turn] at hexit
    | succ depth =>
      obtain ⟨earlier, opening, inner, heq, hopening, hinner, -⟩ :=
        Log.exists_entry_of_openBlocks hbefore
      exact ⟨earlier, opening, inner, heq, hopening, hinner⟩
  · intro l before opening inner hopening hinner
    have hlevels := Log.levels_after (l := l) time before
    rw [Log.after_append, Log.after_cons, Log.after_append]
    rw [← hlevels] at hopening hinner
    refine Log.sameFields_block hopening ⟨inner, ?_, rfl⟩
    rwa [Log.levels_step]

/-- A block in which a field is overwritten and, inside another block, all fields are dropped; and
a session on a sink that binds a field and then raises, when it is opened and when it is closed. -/
theorem fields_restored_around_broken_sink :
    let fields : Fields Text := [("run".toText, [char '1']), ("host".toText, [char 'h'])]
    let l : Log := { context := fields }
    let opening : Log.Step := .enter [("run".toText, .int 2)]
    let inner : List Log.Step :=
      [.bind [("host".toText, .null), ("run".toText, .int 3)],
        .enterSession (.text [char 's']) .null,
        .clear [], .exit, .configure "loud".toText .json .null .null]
    let broken (j : Journal) : Option Trouble × Unit × Journal :=
      (some (.foreign "disk".toText), (),
        { j with log := j.log.bind [("host".toText, .text [char '9'])] })
    let ops : Sink Unit :=
      ⟨fun _ => broken, fun _ _ j => (none, (), j), fun _ => broken, fun _ => .ok []⟩
    let s : Session Unit := { settings := {}, id := [char 's'], sink := () }
    opening.turn l.levels = .into ∧ Log.Nested l.levels inner ∧ ops.Nests [] ∧
      (l.after [] (opening :: inner)).context =
        [("run".toText, [char '3']), ("host".toText, [char 'h'])] ∧
      (l.after [] (opening :: (inner ++ [.exit]))).context = fields ∧
      (attach ops s { log := l }).1 = some (.foreign "disk".toText) ∧
      (attach ops s { log := l }).2.2.log.context = fields ∧
      (detach ops { s with attached := 1 } { log := l }).1 = some (.foreign "disk".toText) ∧
      (detach ops { s with attached := 1 } { log := l }).2.2.log.context = fields := by
  intro fields l opening inner broken ops s
  obtain ⟨-, hblock, -, hsession⟩ := caller_fields_restored []
  have hinner : Log.Nested l.levels inner := by decide
  have hbroken (j : Journal) : Log.Reaches [] j.log (broken j).2.2.log :=
    Log.reaches_step (s := .bind [("host".toText, .text [char '9'])]) rfl
  have hops : ops.Nests [] := ⟨fun _ => hbroken, fun _ => hbroken⟩
  exact ⟨by decide, hinner, hops, by decide, (hblock l [] opening inner (by decide) hinner).1, rfl,
    (hsession ops hops s { log := l }).1.1, rfl,
    (hsession ops hops { s with attached := 1 } { log := l }).2.1⟩

end Session

end WorkloadTrace
