import WorkloadTrace.Proofs.SessionTrail

/-!
# Blocks of log fields

Steps are properly nested when every exit leaves a block that they entered, and none stays open.
Then the saved fields are a stack: what the steps push they pop, so an exit binds again what was
bound at the entry that it matches, whatever happened in between. A piece of code whose blocks are
left however they end, normally or by an exception, takes properly nested steps.
-/

namespace WorkloadTrace

namespace Log

/-- What a step does to the open blocks. -/
inductive Turn where
  /-- It enters a block. -/
  | into
  /-- It leaves the innermost block. -/
  | out
  /-- It stays where it is. -/
  | along
deriving DecidableEq, Repr

/-- The turn that a step takes when so many levels of nesting can be shown. An entry that raises is
none. -/
def Step.turn (levels : Nat) : Step → Turn
  | .enter values => if (bindTrouble? levels values).isNone then .into else .along
  | .enterSession session file =>
    if (bindTrouble? levels (sessionFields session file)).isNone then .into else .along
  | .exit => .out
  | _ => .along

/-- Whether a step is meant to enter a block. -/
def Step.opens : Step → Bool
  | .enter _ | .enterSession _ _ => true
  | _ => false

/-- Whether a step has nothing to do with blocks. -/
def Step.inPlace : Step → Bool
  | .enter _ | .enterSession _ _ | .exit => false
  | _ => true

/-- A step that has nothing to do with blocks stays where it is. -/
theorem Step.turn_of_inPlace {s : Step} (h : s.inPlace = true) (levels : Nat) :
    s.turn levels = .along := by
  cases s with
  | enter | enterSession | exit => cases h
  | _ => rfl

/-- Only an exit leaves a block. -/
theorem Step.eq_exit_of_turn {s : Step} {levels : Nat} (h : s.turn levels = .out) : s = .exit := by
  cases s with
  | exit => rfl
  | enter | enterSession => simp only [turn] at h; split at h <;> cases h
  | _ => cases h

/-- A step that is meant to enter a block enters one or raises, and then it changes nothing. -/
theorem turn_of_opens {s : Step} (h : s.opens = true) (time : Text) (l : Log) :
    match (step time l s).2.refusal with
    | none => s.turn l.levels = .into
    | some _ => (step time l s).1 = l := by
  cases s with
  | enter values =>
    simp only [step, entered, Step.turn]
    cases bindTrouble? l.levels values <;> rfl
  | enterSession session file =>
    simp only [step, entered, Step.turn]
    cases bindTrouble? l.levels (sessionFields session file) <;> rfl
  | _ => cases h

section Blocks

variable (levels : Nat)

/-- The number of blocks that are open after steps when so many are open before them; none if a step
leaves a block that is not open. -/
def openBlocks : Nat → List Step → Option Nat
  | depth, [] => some depth
  | depth, s :: rest =>
    match s.turn levels, depth with
    | .into, depth => openBlocks (depth + 1) rest
    | .along, depth => openBlocks depth rest
    | .out, depth + 1 => openBlocks depth rest
    | .out, 0 => none

/-- Steps that leave the blocks that they enter, and no others. -/
def Nested (steps : List Step) : Prop := openBlocks levels 0 steps = some 0

instance (steps : List Step) : Decidable (Nested levels steps) :=
  inferInstanceAs (Decidable (_ = _))

end Blocks

variable {levels : Nat}

/-- The blocks that steps leave open are those that more steps begin with. -/
theorem openBlocks_append (depth : Nat) (steps more : List Step) :
    openBlocks levels depth (steps ++ more) =
      (openBlocks levels depth steps).bind fun depth => openBlocks levels depth more := by
  induction steps generalizing depth with
  | nil => rfl
  | cons s rest ih =>
    simp only [List.cons_append, openBlocks]
    cases s.turn levels with
    | into => exact ih (depth + 1)
    | along => exact ih depth
    | out =>
      cases depth with
      | zero => rfl
      | succ depth => exact ih depth

/-- Blocks that are open around steps stay open. -/
theorem openBlocks_add {depth final : Nat} {steps : List Step}
    (h : openBlocks levels depth steps = some final) (outer : Nat) :
    openBlocks levels (depth + outer) steps = some (final + outer) := by
  induction steps generalizing depth with
  | nil => simpa [openBlocks] using h
  | cons s rest ih =>
    simp only [openBlocks] at h ⊢
    cases hturn : s.turn levels with
    | into =>
      rw [hturn] at h
      have hrest := ih h
      rwa [Nat.add_right_comm] at hrest
    | along =>
      rw [hturn] at h
      exact ih h
    | out =>
      cases depth with
      | zero => simp [hturn] at h
      | succ depth =>
        rw [hturn] at h
        rw [Nat.add_right_comm]
        exact ih h

/-- The run without steps is properly nested. -/
theorem Nested.nil : Nested levels [] := rfl

/-- Properly nested steps leave the number of open blocks as it was. -/
theorem Nested.openBlocks_eq {steps : List Step} (h : Nested levels steps) (depth : Nat) :
    openBlocks levels depth steps = some depth := by
  have hadd := openBlocks_add h depth
  rwa [Nat.zero_add] at hadd

/-- Properly nested steps are so one after the other. -/
theorem Nested.append {steps more : List Step} (h : Nested levels steps)
    (h' : Nested levels more) : Nested levels (steps ++ more) := by
  rw [Nested, openBlocks_append, h.openBlocks_eq]
  exact h'

/-- A step that stays where it is is properly nested. -/
theorem Nested.along {s : Step} (h : s.turn levels = .along) : Nested levels [s] := by
  simp [Nested, openBlocks, h]

/-- A block around properly nested steps. -/
theorem Nested.block {opening : Step} (hopening : opening.turn levels = .into)
    {inner : List Step} (hinner : Nested levels inner) :
    Nested levels (opening :: (inner ++ [.exit])) := by
  simp only [Nested, openBlocks, hopening, openBlocks_append, hinner.openBlocks_eq]
  rfl

/-- After steps that have blocks open, the last entry that is not matched opened the innermost
one. The induction is on the length, since an exit at the end sends the search before its own
entry. -/
theorem exists_entry_of_openBlocks {steps : List Step} {depth : Nat}
    (h : openBlocks levels 0 steps = some (depth + 1)) :
    ∃ before opening inner, steps = before ++ opening :: inner ∧ opening.turn levels = .into ∧
      Nested levels inner ∧ openBlocks levels 0 before = some depth := by
  induction hlength : steps.length using Nat.strongRecOn generalizing steps depth with
  | ind length ih =>
    obtain rfl | ⟨shorter, last, rfl⟩ := steps.eq_nil_or_concat
    · simp [openBlocks] at h
    rw [List.concat_eq_append] at h hlength ⊢
    rw [openBlocks_append] at h
    obtain ⟨reached, hshorter, hlast⟩ := Option.bind_eq_some_iff.1 h
    have hlt : shorter.length < length := by simp [← hlength]
    simp only [openBlocks] at hlast
    cases hturn : last.turn levels with
    | into =>
      simp only [hturn, Option.some.injEq, Nat.add_right_cancel_iff] at hlast
      exact ⟨shorter, last, [], rfl, hturn, .nil, hlast ▸ hshorter⟩
    | along =>
      simp only [hturn, Option.some.injEq] at hlast
      obtain ⟨before, opening, inner, rfl, hopening, hinner, hbefore⟩ :=
        ih _ hlt (hlast ▸ hshorter) rfl
      exact ⟨before, opening, inner ++ [last], by simp, hopening, hinner.append (.along hturn),
        hbefore⟩
    | out =>
      cases reached with
      | zero => simp [hturn] at hlast
      | succ reached =>
        simp only [hturn, Option.some.injEq] at hlast
        subst hlast
        obtain ⟨earlier, closed, inner, rfl, hclosed, hinner, hearlier⟩ := ih _ hlt hshorter rfl
        have hshort : earlier.length < length := by
          simp only [List.length_append, List.length_cons] at hlt
          omega
        obtain ⟨before, opening, between, rfl, hopening, hbetween, hbefore⟩ :=
          ih _ hshort hearlier rfl
        obtain rfl := Step.eq_exit_of_turn hturn
        exact ⟨before, opening, between ++ closed :: (inner ++ [.exit]), by simp, hopening,
          hbetween.append (.block hclosed hinner), hbefore⟩

section Run

variable (time : Text) (l : Log)

/-- The state after steps. -/
def after (steps : List Step) : Log := ((run time l steps).getLast?.map Prod.fst).getD l

/-- A state after steps is reached from that after the first of them. -/
theorem after_cons (s : Step) (rest : List Step) :
    after time l (s :: rest) = after time (step time l s).1 rest :=
  getD_map_getLast?_cons _ _ _ l

/-- A state after steps is reached from that after the front of them. -/
theorem after_append (steps more : List Step) :
    after time l (steps ++ more) = after time (after time l steps) more := by
  induction steps generalizing l with
  | nil => rfl
  | cons s rest ih => rw [List.cons_append, after_cons, ih, ← after_cons]

variable {l}

/-- No step changes how deep a value can be nested and still be shown. -/
theorem levels_step (s : Step) : (step time l s).1.levels = l.levels := by
  cases s with
  | configure level format service environment =>
    simp only [step, configure]
    split
    · rfl
    · simp only [bound]
      split <;> rfl
  | exit =>
    obtain ⟨format, threshold, context, saved, levels⟩ := l
    cases saved <;> rfl
  | bind | enter | enterSession => simp only [step, bound, entered]; split <;> rfl
  | _ => rfl

/-- No steps change how deep a value can be nested and still be shown. -/
theorem levels_after (steps : List Step) : (after time l steps).levels = l.levels := by
  induction steps generalizing l with
  | nil => rfl
  | cons s rest ih => rw [after_cons, ih, levels_step]

/-- What a step does to the saved fields. -/
theorem saved_step (s : Step) :
    (step time l s).1.saved =
      match s.turn l.levels with
      | .into => l.context :: l.saved
      | .along => l.saved
      | .out => l.saved.tail := by
  cases s with
  | configure level format service environment =>
    simp only [step, configure, Step.turn]
    split
    · rfl
    · simp only [bound]
      split <;> rfl
  | exit =>
    obtain ⟨format, threshold, context, saved, levels⟩ := l
    cases saved <;> rfl
  | bind values => simp only [step, bound, Step.turn]; split <;> rfl
  | enter values =>
    simp only [step, entered, Step.turn]
    cases bindTrouble? l.levels values <;> rfl
  | enterSession session file =>
    simp only [step, entered, Step.turn]
    cases bindTrouble? l.levels (sessionFields session file) <;> rfl
  | _ => rfl

/-- Steps push and pop above the fields that were saved before. -/
theorem saved_after {steps : List Step} {depth final : Nat} (hlevels : l.levels = levels)
    (h : openBlocks levels depth steps = some final) {frames outer : List (Fields Text)}
    (hsaved : l.saved = frames ++ outer) (hframes : frames.length = depth) :
    ∃ frames', (after time l steps).saved = frames' ++ outer ∧ frames'.length = final := by
  induction steps generalizing l depth frames with
  | nil => exact ⟨frames, hsaved, hframes.trans (Option.some.inj h)⟩
  | cons s rest ih =>
    rw [after_cons]
    have hstep := saved_step time (l := l) s
    have hnext := (levels_step time s).trans hlevels
    rw [hlevels] at hstep
    simp only [openBlocks] at h
    cases hturn : s.turn levels with
    | into =>
      simp only [hturn] at h hstep
      rw [hsaved, ← List.cons_append] at hstep
      exact ih hnext h hstep (by simp [hframes])
    | along =>
      simp only [hturn] at h hstep
      exact ih hnext h (hstep.trans hsaved) hframes
    | out =>
      simp only [hturn] at h hstep
      cases frames with
      | nil => simp [← hframes] at h
      | cons frame frames =>
        subst hframes
        rw [hsaved] at hstep
        exact ih hnext h hstep rfl

/-- Properly nested steps leave the saved fields as they were. -/
theorem saved_after_of_nested {steps : List Step} (h : Nested l.levels steps) :
    (after time l steps).saved = l.saved := by
  obtain ⟨frames, hsaved, hframes⟩ := saved_after time rfl h (List.nil_append l.saved).symm rfl
  rw [hsaved, List.eq_nil_of_length_eq_zero hframes, List.nil_append]

/-- An exit binds again the innermost saved fields. -/
theorem fields_exit {context : Fields Text} {saved : List (Fields Text)}
    (h : l.saved = context :: saved) : l.exit.context = context ∧ l.exit.saved = saved := by
  simp [exit, h]

end Run

/-- Two states with the same bound fields, also in the blocks around. -/
def SameFields (l l' : Log) : Prop := l'.context = l.context ∧ l'.saved = l.saved

instance (l l' : Log) : Decidable (l.SameFields l') := inferInstanceAs (Decidable (_ ∧ _))

/-- A state that properly nested steps lead to. -/
def Reaches (time : Text) (l l' : Log) : Prop :=
  ∃ steps, Nested l.levels steps ∧ l' = after time l steps

/-- Every state is reached from itself. -/
theorem Reaches.refl (time : Text) (l : Log) : Reaches time l l := ⟨[], .nil, rfl⟩

/-- What is reached from what is reached is reached. -/
theorem Reaches.trans {time : Text} {l l' l'' : Log} (h : Reaches time l l')
    (h' : Reaches time l' l'') : Reaches time l l'' := by
  obtain ⟨steps, hsteps, rfl⟩ := h
  obtain ⟨more, hmore, rfl⟩ := h'
  rw [levels_after] at hmore
  exact ⟨steps ++ more, hsteps.append hmore, (after_append time l steps more).symm⟩

/-- A step that stays where it is reaches the state after it. -/
theorem reaches_step {time : Text} {l : Log} {s : Step} (h : s.turn l.levels = .along) :
    Reaches time l (step time l s).1 :=
  ⟨[s], .along h, rfl⟩

section Block

variable {time : Text} {l l' : Log} {opening : Step}

/-- Leaving a block after properly nested steps restores the fields. -/
theorem sameFields_block (hopening : opening.turn l.levels = .into)
    (h : Reaches time (step time l opening).1 l') : l.SameFields l'.exit := by
  obtain ⟨inner, hinner, rfl⟩ := h
  have hsaved := saved_after_of_nested time (l := (step time l opening).1) hinner
  rw [saved_step, hopening] at hsaved
  exact fields_exit hsaved

/-- A block is properly nested if what happens inside it is. -/
theorem reaches_block (hopening : opening.turn l.levels = .into)
    (h : Reaches time (step time l opening).1 l') : Reaches time l l'.exit := by
  obtain ⟨inner, hinner, rfl⟩ := h
  rw [levels_step] at hinner
  refine ⟨opening :: (inner ++ [.exit]), .block hopening hinner, ?_⟩
  rw [after_cons, after_append]
  rfl

end Block

/-- A piece of code as logging sees it. -/
inductive Program where
  /-- Nothing more happens. -/
  | done
  /-- An exception is raised. -/
  | raise
  /-- A step outside of blocks, and what follows; a refused step raises. -/
  | step (s : {s : Step // s.inPlace = true}) (next : Program)
  /-- A block, which is left however its body ends, and what follows; a refused entry raises. -/
  | block (opening : {s : Step // s.opens = true}) (body next : Program)
  /-- Code whose exceptions are caught, and what follows. -/
  | attempt (body next : Program)

/-- How a piece of code ends. -/
inductive Ending where
  /-- Normally. -/
  | normal
  /-- By an exception. -/
  | raised
deriving DecidableEq, Repr

/-- Runs a piece of code. -/
def Program.run (time : Text) : Program → Log → Ending × Log
  | .done, l => (.normal, l)
  | .raise, l => (.raised, l)
  | .step s next, l =>
    let r := Log.step time l s
    match r.2.refusal with
    | none => next.run time r.1
    | some _ => (.raised, r.1)
  | .block opening body next, l =>
    let r := Log.step time l opening
    match r.2.refusal with
    | some _ => (.raised, r.1)
    | none =>
      match body.run time r.1 with
      | (.normal, l) => next.run time l.exit
      | (.raised, l) => (.raised, l.exit)
  | .attempt body next, l => next.run time (body.run time l).2

/-- A piece of code takes properly nested steps however it ends. -/
theorem Program.reaches_run (time : Text) (p : Program) (l : Log) :
    Reaches time l (p.run time l).2 := by
  induction p generalizing l with
  | done => exact .refl time l
  | raise => exact .refl time l
  | step s next ih =>
    have hstep : Reaches time l (Log.step time l s).1 := reaches_step (Step.turn_of_inPlace s.2 _)
    simp only [run]
    cases (Log.step time l s).2.refusal with
    | none => exact hstep.trans (ih _)
    | some text => exact hstep
  | block opening body next ihbody ihnext =>
    have hturn := turn_of_opens opening.2 time l
    simp only [run]
    cases hrefusal : (Log.step time l opening).2.refusal with
    | some t =>
      simp only [hrefusal] at hturn
      simp only [hturn]
      exact .refl time l
    | none =>
      simp only [hrefusal] at hturn
      have hblock := reaches_block hturn (ihbody (Log.step time l opening).1)
      simp only
      generalize body.run time (Log.step time l opening).1 = r at hblock
      obtain ⟨ending, l'⟩ := r
      cases ending with
      | normal => exact hblock.trans (ihnext l'.exit)
      | raised => exact hblock
  | attempt body next ihbody ihnext => exact (ihbody l).trans (ihnext _)

/-- A block restores the fields however its body ends, and also if it is never entered. -/
theorem Program.sameFields_block (body : Program) (time : Text)
    (opening : {s : Step // s.opens = true}) (l : Log) :
    l.SameFields ((Program.block opening body .done).run time l).2 := by
  have hturn := turn_of_opens opening.2 time l
  simp only [run]
  cases hrefusal : (Log.step time l opening).2.refusal with
  | some t =>
    simp only [hrefusal] at hturn
    rw [hturn]
    exact ⟨rfl, rfl⟩
  | none =>
    simp only [hrefusal] at hturn
    have hblock := Log.sameFields_block hturn (body.reaches_run time (Log.step time l opening).1)
    simp only
    generalize body.run time (Log.step time l opening).1 = r at hblock
    obtain ⟨ending, l'⟩ := r
    cases ending <;> exact hblock

end Log

end WorkloadTrace
