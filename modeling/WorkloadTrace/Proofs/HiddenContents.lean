import WorkloadTrace.Proofs.SelectorOrdinals

/-!
# Hidden contents

When contents are hidden, nothing about a run depends on them. All values of a plain record are
content, as many as there are; of a record with metadata only the values of content fields are.
A fixed word stands for them in the argument of the line, content fields have no predicate, and so
they have no part in the access context either. Two runs whose records differ in content alone are
therefore the same in what they bring to the sink, in their counts and in their logs. Contents of
records with metadata are still read, so a call raises for one that has no text; it writes no line
then, and the counts are the same all the same.
-/

namespace WorkloadTrace

namespace Call

/-- Two fields with one name and, unless it names content, one value. -/
def SameFieldButContent (f g : Text × Value) : Prop :=
  f.1 = g.1 ∧ (FieldKind.parse? f.1 = some .data ∨ f.2 = g.2)

/-- Whether a record with this key has metadata. -/
def isMetadataKey : Value → Bool
  | .text key => Text.startsWith metadataHead key
  | _ => false

/-- Two records for one key that are the same but for their content. -/
def SameRecordButContent (key : Value) (values values' : Fields Value) : Prop :=
  isMetadataKey key = true → List.Forall₂ SameFieldButContent values values'

/-- Two calls that are the same but for the content of the records that they write. -/
inductive SameButContent : Call → Call → Prop where
  /-- Any call is the same as itself. -/
  | refl (c : Call) : SameButContent c c
  /-- Two insertions of records. -/
  | insert (table : Value) {key : Value} {values values' : Fields Value}
    (h : SameRecordButContent key values values') :
    SameButContent (.insert table key values) (.insert table key values')
  /-- Two updates of records. -/
  | update (table : Value) {key : Value} {values values' : Fields Value}
    (h : SameRecordButContent key values values') :
    SameButContent (.update table key values) (.update table key values')
  /-- Two insertions of records with one expiry. -/
  | insertTtl (table ttl : Value) {key : Value} {values values' : Fields Value}
    (h : SameRecordButContent key values values') :
    SameButContent (.insertTtl table key values ttl) (.insertTtl table key values' ttl)

section Record

variable {values values' : Fields Value} (h : List.Forall₂ SameFieldButContent values values')
include h

end Record

end Call

namespace Session

variable {σ : Type}

/-- Two steps that are the same but for the content of a record. -/
inductive Step.SameButContent : Step → Step → Prop where
  /-- A client attaches. -/
  | attach : SameButContent .attach .attach
  /-- A client detaches. -/
  | detach : SameButContent .detach .detach
  /-- A client issues a call with one content or another. -/
  | call (client : Int) {c c' : Call} (h : Call.SameButContent c c') :
    SameButContent (.call client c) (.call client c')

/-- Two sessions that differ in what has reached their sinks only. -/
structure SameCounts (s s' : Session σ) : Prop where
  /-- The settings. -/
  settings_eq : s'.settings = s.settings
  /-- How deep a value can be nested and still be shown. -/
  levels_eq : s'.levels = s.levels
  /-- The number of clients that are attached. -/
  attached_eq : s'.attached = s.attached
  /-- The number of clients that ever were. -/
  clients_eq : s'.clients = s.clients
  /-- The number of selectors taken. -/
  issued_eq : s'.issued = s.issued

/-- The same counts come with the same profile. -/
theorem SameCounts.profile_eq {s s' : Session σ} (h : SameCounts s s') :
    s'.profile = s.profile := by
  rw [profile, profile, h.settings_eq, h.levels_eq]

theorem SameCounts.trans {s s' s'' : Session σ} (h : SameCounts s s') (h' : SameCounts s' s'') :
    SameCounts s s'' :=
  ⟨h'.settings_eq.trans h.settings_eq, h'.levels_eq.trans h.levels_eq,
    h'.attached_eq.trans h.attached_eq, h'.clients_eq.trans h.clients_eq,
    h'.issued_eq.trans h.issued_eq⟩

theorem SameCounts.symm {s s' : Session σ} (h : SameCounts s s') : SameCounts s' s :=
  ⟨h.settings_eq.symm, h.levels_eq.symm, h.attached_eq.symm, h.clients_eq.symm, h.issued_eq.symm⟩

/-- What a session answers to a step, when its sink raises nothing. -/
def answer (s : Session σ) : Step → Reply
  | .attach => .attached s.clients
  | .detach => .detached
  | .call client c =>
    if s.hasClient client then
      match c.line? s.profile s.issued with
      | .error t => .raised t
      | .ok _ => .performed
    else .noClient

end Session

end WorkloadTrace
