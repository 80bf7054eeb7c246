import WorkloadTrace.FileTree
import WorkloadTrace.Proofs.CallArguments
import WorkloadTrace.Proofs.SessionCourse

/-!
# The effects of a call

A call with arguments of any kind hands its line to the sink and takes its selector if it is on
metadata, or it raises. What raises keeps the effects that came before it: a call on metadata takes
its selector first and then makes its line, so it loses the selector if its condition or its match
of keys has no text, or if the sink raises. Otherwise a call that raises has had no effect at all.
The same holds of a call that writes a record when its fields are no named values.
-/

namespace WorkloadTrace

namespace Call

/-- What is raised when a value is read as a name with a value, and then as a field. -/
def pairTrouble? (levels : Nat) (pair : Value) : Option Trouble :=
  match pair.members? with
  | none => some (.notPair pair.typeName)
  | some [name, value] => Predicate.trouble? levels (FieldKind.ofName? name) value
  | some members => some (.pairLength members.length)

/-- What is raised in a call that writes a record with metadata whose fields are no named values:
its members are read as pairs, and after the expiry named values are called for. -/
def unnamedTrouble (levels : Nat) (values ttl : Value) : Trouble :=
  match values.members? with
  | none => .notIterable values.typeName
  | some pairs =>
    let expiry :=
      if pairs.any fun m => FieldKind.ofName? m == some .ttl then none else ttl.trouble? levels
    ((pairs.findSome? (pairTrouble? levels)).or expiry).getD
      (.noAttribute values.typeName "items".toText)

/-- The line that writes a record, whatever is given for its key and its fields. -/
def recordLine? (p : Profile) (key values ttl : Value) : Except Trouble QueryLine :=
  match values with
  | .object fields =>
    match putTrouble? p key fields ttl with
    | some t => .error t
    | none => .ok (putLine p key.display fields ttl)
  | values =>
    match keyText key with
    | .error t => .error t
    | .ok text =>
      if Text.startsWith metadataHead text then .error (unnamedTrouble p.levels values ttl)
      else if p.mockValues then .ok ⟨.put, [text, mockContent], []⟩
      else .error (.noAttribute values.typeName "values".toText)

end Call

namespace Session

variable {σ : Type}

/-- Makes the line of a record and hands it to the sink. -/
def writeRecord (ops : Sink σ) (key values ttl : Value) (s : Session σ) (j : Journal) :
    Option Trouble × Session σ × Journal :=
  match Call.recordLine? s.profile key values ttl with
  | .error t => (some t, s, j)
  | .ok q => emit ops q s j

/-- With named values, writing a record is the insertion that expires. -/
theorem writeRecord_object (ops : Sink σ) (table key : Value) (fields : Fields Value) (ttl : Value)
    (s : Session σ) (j : Journal) :
    s.writeRecord ops key (.object fields) ttl j =
      s.call ops (.insertTtl table key fields ttl) j := by
  simp only [writeRecord, Call.recordLine?, call, Call.line?, Call.issuedAfter_eq, Call.trouble?,
    Call.takes, Call.wording]
  cases Call.putTrouble? s.profile key fields ttl <;> rfl

/-- A call has all its effects, so many lines and so many selectors, or it raises and nothing has
happened. -/
def AllOrNothing (writes takes : Nat) (s : Session (σ × List SinkEvent)) (j : Journal) :
    Option Trouble × Session (σ × List SinkEvent) × Journal → Prop
  | (none, after, _) =>
    (∃ lines : List Text, lines.length = writes ∧
      after.sink.2 = s.sink.2 ++ lines.map SinkEvent.received) ∧
    after.issued = s.issued + takes ∧ after.attached = s.attached
  | (some _, after) => after = (s, j)

/-- Whether a sink raises nothing for a line. -/
def Receives (ops : Sink σ) (s : Session (σ × List SinkEvent)) (q : QueryLine) : Prop :=
  ∀ j, (ops.receive q.render s.sink.1 j).1 = none

section Calls

variable (ops : Sink σ) (s : Session (σ × List SinkEvent)) (j : Journal)

/-- A line reaches a watched sink, and raises what the sink raises. -/
theorem emit_watched (q : QueryLine) :
    let r := s.emit ops.watched q j
    (∃ j', r.1 = (ops.receive q.render s.sink.1 j').1) ∧
      r.2.1.sink.2 = s.sink.2 ++ [.received q.render] ∧
      r.2.1.issued = s.issued ∧ r.2.1.attached = s.attached :=
  ⟨⟨_, rfl⟩, rfl, rfl, rfl⟩

/-- What a call leaves, whether it raises or not. -/
inductive Leaves (ops : Sink σ) (s : Session (σ × List SinkEvent)) (j : Journal) (c : Call) :
    Option Trouble × Session (σ × List SinkEvent) × Journal → Prop where
  /-- Its line cannot be made. -/
  | unmade {t : Trouble} (hline : c.line? s.profile s.issued = .error t) :
    Leaves ops s j c (some t, { s with issued := c.issuedAfter s.profile s.issued }, j)
  /-- It writes no line. -/
  | untraced (hline : c.line? s.profile s.issued = .ok none) :
    Leaves ops s j c (none, { s with issued := c.issuedAfter s.profile s.issued }, j)
  /-- Its line is handed over. -/
  | handed {q : QueryLine} {trouble : Option Trouble} {after : Session (σ × List SinkEvent)}
    {j' : Journal} (hline : c.line? s.profile s.issued = .ok (some q))
    (htrouble : ∃ j, trouble = (ops.receive q.render s.sink.1 j).1)
    (hsink : after.sink.2 = s.sink.2 ++ [.received q.render])
    (hissued : after.issued = c.issuedAfter s.profile s.issued)
    (hattached : after.attached = s.attached) :
    Leaves ops s j c (trouble, after, j')

theorem leaves_call (c : Call) : Leaves ops s j c (s.call ops.watched c j) := by
  simp only [call]
  cases hline : c.line? s.profile s.issued with
  | error t => exact .unmade hline
  | ok line =>
    cases line with
    | none => exact .untraced hline
    | some q => exact .handed hline ⟨_, rfl⟩ rfl rfl rfl

variable {ops s j}
variable {c : Call} {r : Option Trouble × Session (σ × List SinkEvent) × Journal}

/-- A line that was handed over reached the sink, so something has happened. -/
theorem ne_of_handed {q : QueryLine} {after : Session (σ × List SinkEvent)} {j' : Journal}
    (hsink : after.sink.2 = s.sink.2 ++ [.received q.render]) : (after, j') ≠ (s, j) := by
  rintro heq
  obtain ⟨rfl, -⟩ := Prod.mk.inj heq
  simp at hsink

/-- A call has all its effects or none exactly if what it raises is that its line cannot be made,
before it comes to take a selector. -/
theorem Leaves.allOrNothing_iff (h : Leaves ops s j c r) :
    AllOrNothing (if c.isTraced then 1 else 0) (if c.isMetadata then 1 else 0) s j r ↔
      ∀ t, r.1 = some t → c.line? s.profile s.issued = .error t ∧ c.takes s.profile = false := by
  cases h with
  | @unmade t hline =>
    have hnone : (({ s with issued := c.issuedAfter s.profile s.issued }, j) : _ × Journal) =
        (s, j) ↔ c.takes s.profile = false := by
      rw [Call.issuedAfter_eq]
      cases c.takes s.profile with
      | false => simp
      | true =>
        refine iff_of_false (fun heq => ?_) (by simp)
        simpa using congrArg (fun state => state.1.issued) heq
    simp [AllOrNothing, hnone, hline]
  | untraced hline =>
    have htraced := Call.isSome_of_line?_eq_ok hline
    have hissued := Call.issuedAfter_of_line?_eq_ok hline
    exact iff_of_true ⟨⟨[], by simp [← htraced], by simp⟩, hissued, rfl⟩ nofun
  | @handed q trouble after j' hline htrouble hsink hissued hattached =>
    have htraced := Call.isSome_of_line?_eq_ok hline
    have htaken := hissued.trans (Call.issuedAfter_of_line?_eq_ok hline)
    cases trouble with
    | none =>
      exact iff_of_true ⟨⟨[q.render], by simp [← htraced], hsink⟩, htaken, hattached⟩ nofun
    | some t => exact iff_of_false (ne_of_handed hsink) (by simp [hline])

/-- A call whose arguments have texts has all its effects or none, if the sink takes its line; and
it has them all if its arguments are of the declared kinds. -/
theorem Leaves.allOrNothing_of_fits (h : Leaves ops s j c r) (hfits : c.Fits s.profile)
    (hreceives : ∀ q, c.line? s.profile s.issued = .ok (some q) → Receives ops s q) :
    AllOrNothing (if c.isTraced then 1 else 0) (if c.isMetadata then 1 else 0) s j r ∧
      (c.IsTyped → r.1 = none) := by
  have hraised (t : Trouble) (ht : r.1 = some t) : c.line? s.profile s.issued = .error t := by
    cases h with
    | unmade hline => exact hline.trans (congrArg Except.error (Option.some.inj ht))
    | untraced hline => cases ht
    | @handed q trouble after j' hline htrouble hsink hissued hattached =>
      obtain ⟨j, rfl⟩ := htrouble
      exact absurd ((hreceives q hline j).symm.trans ht) nofun
  refine ⟨h.allOrNothing_iff.2 fun t ht => ⟨hraised t ht, ?_⟩, fun htyped => ?_⟩
  · by_contra htakes
    have hnone := Call.trouble?_eq_none_of_takes s.issued
      (by simpa using htakes) hfits
    exact absurd ((Call.line?_of_trouble?_eq_none hnone).symm.trans (hraised t ht)) nofun
  · cases hr : r.1 with
    | none => rfl
    | some t => exact absurd ((Call.line?_of_isTyped htyped hfits).symm.trans (hraised t hr)) nofun

/-- What a call keeps to, whatever it raises. -/
structure Kept (ops : Sink σ) (s : Session (σ × List SinkEvent)) (j : Journal) (c : Call)
    (r : Option Trouble × Session (σ × List SinkEvent) × Journal) : Prop where
  /-- It has all its effects or none exactly if what it raises is that its line cannot be made,
  before it comes to take a selector. -/
  allOrNothing_iff :
    AllOrNothing (if c.isTraced then 1 else 0) (if c.isMetadata then 1 else 0) s j r ↔
      ∀ t, r.1 = some t → c.line? s.profile s.issued = .error t ∧ c.takes s.profile = false
  /-- The clients stay, and the selector is taken also if something is raised later. -/
  counts : r.2.1.attached = s.attached ∧
    r.2.1.issued = s.issued + if c.takes s.profile then 1 else 0
  /-- What raises leaves the sink alone, or the sink raises for the line. -/
  raised : ∀ t, r.1 = some t →
    c.line? s.profile s.issued = .error t ∧ r.2.1.sink = s.sink ∨
      ∃ q, c.line? s.profile s.issued = .ok (some q) ∧ ¬Receives ops s q ∧
        r.2.1.sink.2 = s.sink.2 ++ [.received q.render]
  /-- With arguments that have texts, and a sink that takes the line, there is nothing in between;
  and it is performed if the arguments are of the declared kinds. -/
  fitting : c.Fits s.profile →
    (∀ q, c.line? s.profile s.issued = .ok (some q) → Receives ops s q) →
      AllOrNothing (if c.isTraced then 1 else 0) (if c.isMetadata then 1 else 0) s j r ∧
        (c.IsTyped → r.1 = none)

theorem Leaves.kept (h : Leaves ops s j c r) : Kept ops s j c r := by
  refine ⟨h.allOrNothing_iff, ?_, ?_, h.allOrNothing_of_fits⟩
  · rw [← Call.issuedAfter_eq]
    cases h with
    | unmade hline => exact ⟨rfl, rfl⟩
    | untraced hline => exact ⟨rfl, rfl⟩
    | handed hline htrouble hsink hissued hattached => exact ⟨hattached, hissued⟩
  · intro t ht
    cases h with
    | unmade hline => exact .inl ⟨hline.trans (congrArg Except.error (Option.some.inj ht)), rfl⟩
    | untraced hline => cases ht
    | @handed q trouble after j' hline htrouble hsink hissued hattached =>
      obtain ⟨j, rfl⟩ := htrouble
      exact .inr ⟨q, hline, fun hreceives => absurd ((hreceives j).symm.trans ht) nofun, hsink⟩

variable (ops s j)

/-- A call with arguments of any kind takes its selector and hands over its line, or it raises: then
nothing has happened, or the selector is lost, or the sink has raised for the line. With arguments
that have texts there is no selector lost. A record whose fields are no named values is written or
raises without any effect. -/
theorem calls_all_or_nothing :
    (∀ c, Kept ops s j c (s.call ops.watched c j)) ∧
    ∀ key values ttl,
      (∀ q, Call.recordLine? s.profile key values ttl = .ok q → Receives ops s q) →
        AllOrNothing 1 0 s j (s.writeRecord ops.watched key values ttl j) := by
  refine ⟨fun c => (leaves_call ops s j c).kept, fun key values ttl hreceives => ?_⟩
  simp only [writeRecord]
  cases hline : Call.recordLine? s.profile key values ttl with
  | error t => exact rfl
  | ok q =>
    have hemit := emit_watched ops s j q
    simp only
    generalize s.emit ops.watched q j = r at hemit ⊢
    obtain ⟨trouble, after, j''⟩ := r
    obtain ⟨⟨j', htrouble⟩, hsink, hissued, hattached⟩ := hemit
    obtain rfl : trouble = none := htrouble.trans (hreceives q hline j')
    exact ⟨⟨[q.render], rfl, hsink⟩, hissued, hattached⟩

end Calls

/-- A call on metadata with arguments of no declared kind is performed when its field index counts
as an integer, and raises without a trace when it does not; so does the insertion of a record
without named values. -/
theorem update_with_bytes_and_lists :
    let s := withOneClient.watched
    let ops := Sink.memory.watched
    let update (fieldnum : Value) : Call :=
      .updateMeta .null fieldnum (.bytes [0xff]) (.list [.int 7, .null]) .null (.object [])
    (∀ q, Receives Sink.memory s q) ∧ (update (.bool true)).Fits s.profile ∧
      (update .null).Fits s.profile ∧
      (∃ after, s.call ops (update (.bool true)) {} = (none, after) ∧
        (∃ lines : List Text, lines.length = 1 ∧
          after.1.sink.2 = lines.map SinkEvent.received) ∧
        after.1.issued = 1 ∧ after.1.attached = 1) ∧
      s.call ops (update .null) {} = (some (.unorderedIndex "NoneType".toText), s, {}) ∧
      s.writeRecord ops (.text "key1".toText) (.list []) .null {} =
        (some (.noAttribute "list".toText "items".toText), s, {}) := by
  intro s ops update
  obtain ⟨hcalls, hwritten⟩ := calls_all_or_nothing Sink.memory s {}
  have hreceives (q : QueryLine) : Receives Sink.memory s q := fun _ => rfl
  have hrecords : s.profile.workload.recordCount ≤ 10 ^ Decimal.maxDigits := records_withOneClient
  have hshown : ∀ v ∈ [Value.bytes [0xff], .list [.int 7, .null], .object []],
      v.trouble? s.profile.levels = none := by decide +kernel
  have hfits (fieldnum : Value) : (update fieldnum).Fits s.profile := ⟨hshown, fun _ => hrecords⟩
  obtain ⟨hperformed, -⟩ := (hcalls (update (.bool true))).fitting (hfits _) fun q _ => hreceives q
  obtain ⟨hrefused, -⟩ := (hcalls (update .null)).fitting (hfits _) fun q _ => hreceives q
  have hunnamed := hwritten (.text "key1".toText) (.list []) .null fun q _ => hreceives q
  refine ⟨hreceives, hfits _, hfits _, ⟨_, rfl, ?_⟩, ?_, ?_⟩
  · obtain ⟨⟨lines, hlength, hlines⟩, hissued, hattached⟩ := hperformed
    exact ⟨⟨lines, hlength, hlines⟩, hissued, hattached⟩
  · exact congrArg (Prod.mk _) hrefused
  · exact congrArg (Prod.mk _) hunnamed

/-- A condition that is a single surrogate: its line reaches the file, which cannot hold it, after
the selector is taken. -/
theorem selector_lost_with_surrogate :
    let path := Path.parse "trace.log".toText
    let select : Call :=
      .readMeta (.text "t".toText) (.int 0) (.text [.surrogate 0]) (.text "key*".toText)
    let start : Session (FileSink FileTree.Handle × FileTree) :=
      { settings := {}, id := [], sink := ({ path := path }, {}) }
    let s := (start.step (Sink.file FileTree.storage) {} .attach).2.1
    let r := s.watched.call (Sink.file FileTree.storage).watched select {}
    s.attached = 1 ∧ s.issued = 0 ∧
      r.1.map Trouble.className = some "UnicodeEncodeError".toText ∧ r.2.1.issued = 1 ∧
      ¬AllOrNothing 1 1 s.watched {} r := by
  intro path select start s r
  have htrouble : r.1.map Trouble.className = some "UnicodeEncodeError".toText := by decide +kernel
  have hissued : r.2.1.issued = 1 := by decide +kernel
  have hzero : s.issued = 0 := by decide +kernel
  refine ⟨by decide +kernel, hzero, htrouble, hissued, ?_⟩
  clear_value r
  obtain ⟨trouble, after⟩ := r
  cases trouble with
  | none => cases htrouble
  | some t =>
    intro hnothing
    have hsame : after.1.issued = s.issued := congrArg (fun state => state.1.issued) hnothing
    exact absurd (hissued.symm.trans (hsame.trans hzero)) (by decide)

end Session

end WorkloadTrace
