import WorkloadTrace.Proofs.OperationEntries
import WorkloadTrace.Proofs.Overlays

/-!
# The entries of the settings

The eleven entries, and what a layer gives to each of them. A layer whose sections have known
entries alone is checked as if each entry were checked by itself: the settings are valid when every
entry that is given can be read, an entry that is not given has its default, and nothing else about
the layer matters.
-/

namespace WorkloadTrace

namespace Settings

open Fields (names get?)

/-- The entries of the settings. -/
inductive Entry where
  /-- The least severity of the log records that are written. -/
  | level
  /-- Whether log records are JSON. -/
  | jsonOutput
  /-- The name of the service. -/
  | service
  /-- The name of the environment. -/
  | environment
  /-- The number of records. -/
  | recordCount
  /-- The number of users. -/
  | userCount
  /-- The number of purposes. -/
  | purposeCount
  /-- The first record with an objection. -/
  | objectionStart
  /-- The number of records with an objection. -/
  | objectionCount
  /-- The trace file. -/
  | file
  /-- Whether the contents of records are hidden. -/
  | mockValues
deriving DecidableEq, Repr

namespace Entry

/-- The name of the section that an entry belongs to. -/
def sectionName : Entry → Text
  | .level | .jsonOutput | .service | .environment => loggingName
  | .recordCount | .userCount | .purposeCount | .objectionStart | .objectionCount => workloadName
  | .file | .mockValues => traceName

/-- The name of an entry in its section. -/
def name : Entry → Text
  | .level => "level".toText
  | .jsonOutput => "json_output".toText
  | .service => "service".toText
  | .environment => "environment".toText
  | .recordCount => "record_count".toText
  | .userCount => "user_count".toText
  | .purposeCount => "purpose_count".toText
  | .objectionStart => "objection_start".toText
  | .objectionCount => "objection_count".toText
  | .file => "file".toText
  | .mockValues => "mock_values".toText

/-- No two entries have the same name. -/
theorem name_injective : Function.Injective name := by
  intro e e' h
  revert h
  cases e <;> cases e' <;> decide

/-- Every entry stands in one of the sections. -/
theorem sectionName_mem (e : Entry) : e.sectionName ∈ sectionNames := by
  cases e <;> decide

end Entry

/-- An entry's value, read if it is given. -/
def Reads {α : Type} (read : Value → Except Fault α) (default : α) (v : Option Value) (a : α) :
    Prop :=
  match v with
  | none => a = default
  | some v => read v = .ok a

/-- Reads a positive number as a number. -/
def readPositive (v : Value) : Except Fault Nat := (Lenient.positive v).map Subtype.val

/-- An entry of some settings is what is given for it, or its default if nothing is given. -/
def Entry.Holds (s : Settings) (e : Entry) (v : Option Value) : Prop :=
  let default : Settings := {}
  match e with
  | .level => Reads readSeverity default.logging.level v s.logging.level
  | .jsonOutput => Reads Lenient.boolean default.logging.jsonOutput v s.logging.jsonOutput
  | .service => Reads Lenient.textOrBytes default.logging.service v s.logging.service
  | .environment => Reads Lenient.textOrBytes default.logging.environment v s.logging.environment
  | .recordCount => Reads readPositive default.workload.recordCount v s.workload.recordCount
  | .userCount => Reads readPositive default.workload.userCount v s.workload.userCount
  | .purposeCount => Reads readPositive default.workload.purposeCount v s.workload.purposeCount
  | .objectionStart =>
    Reads Lenient.natural default.workload.objectionStart v s.workload.objectionStart
  | .objectionCount =>
    Reads readPositive default.workload.objectionCount v s.workload.objectionCount
  | .file => Reads readDestination default.trace.file v s.trace.file
  | .mockValues => Reads Lenient.boolean default.trace.mockValues v s.trace.mockValues

/-- Checks the value given to an entry. -/
def checkEntry {α : Type} (e : Entry) (default : α) (read : Value → Except Fault α)
    (v : Option Value) : Checked α :=
  match v with
  | none => .valid default
  | some v => .ofExcept [e.sectionName, e.name] (read v)

/-- An entry is valid when its value can be read, or is its default when it has none. -/
theorem checkEntry_eq_valid_iff {α : Type} {e : Entry} {default a : α}
    {read : Value → Except Fault α} {v : Option Value} :
    checkEntry e default read v = .valid a ↔ Reads read default v a := by
  cases v with
  | none => simp [checkEntry, Reads, eq_comm]
  | some v =>
    simp only [checkEntry, Reads]
    cases read v <;> simp [Checked.ofExcept, Checked.fail]

/-- Checks the section on log records entry by entry. -/
def checkedLogging (given : Entry → Option Value) : Checked LogSettings :=
  let default : LogSettings := {}
  LogSettings.mk
    <$> checkEntry .level default.level readSeverity (given .level)
    <*> checkEntry .jsonOutput default.jsonOutput Lenient.boolean (given .jsonOutput)
    <*> checkEntry .service default.service Lenient.textOrBytes (given .service)
    <*> checkEntry .environment default.environment Lenient.textOrBytes (given .environment)

/-- Checks the section on the workload entry by entry. -/
def checkedWorkload (given : Entry → Option Value) : Checked Workload :=
  let default := Workload.standard
  workloadOf
    <$> checkEntry .recordCount ⟨default.recordCount, default.recordCount_pos⟩ Lenient.positive
      (given .recordCount)
    <*> checkEntry .userCount ⟨default.userCount, default.userCount_pos⟩ Lenient.positive
      (given .userCount)
    <*> checkEntry .purposeCount ⟨default.purposeCount, default.purposeCount_pos⟩ Lenient.positive
      (given .purposeCount)
    <*> checkEntry .objectionStart default.objectionStart Lenient.natural (given .objectionStart)
    <*> checkEntry .objectionCount ⟨default.objectionCount, default.objectionCount_pos⟩
      Lenient.positive (given .objectionCount)

/-- Checks the section on the trace entry by entry. -/
def checkedTrace (given : Entry → Option Value) : Checked TraceSettings :=
  let default : TraceSettings := {}
  TraceSettings.mk
    <$> checkEntry .file default.file readDestination (given .file)
    <*> checkEntry .mockValues default.mockValues Lenient.boolean (given .mockValues)

/-- Checks the settings entry by entry. -/
def checked (given : Entry → Option Value) : Checked Settings :=
  Settings.mk <$> checkedLogging given <*> checkedWorkload given <*> checkedTrace given

/-- A number that has to be positive is read as the number that it is. -/
theorem reads_positive_iff {default n : { n : Nat // 0 < n }} {v : Option Value} :
    Reads Lenient.positive default v n ↔ Reads readPositive default.1 v n.1 := by
  cases v with
  | none => exact Subtype.ext_iff
  | some v =>
    simp only [Reads, readPositive]
    cases Lenient.positive v with
    | error e => simp [Except.map]
    | ok m => simp [Except.map, Subtype.ext_iff]

section Valid

variable {given : Entry → Option Value} {s : Settings}

/-- The section on logging is valid when each of its entries holds what is given to it. -/
theorem checkedLogging_eq_valid_iff :
    checkedLogging given = .valid s.logging ↔
      ∀ e : Entry, e.sectionName = loggingName → e.Holds s (given e) := by
  simp only [checkedLogging, Checked.seq_eq_valid_iff, Checked.map_eq_valid_iff,
    checkEntry_eq_valid_iff]
  constructor
  · rintro ⟨_, ⟨_, ⟨_, ⟨l, hl, rfl⟩, o, ho, rfl⟩, n, hn, rfl⟩, v, hv, hs⟩ e he
    simp only [Entry.Holds, ← hs]
    cases e with
    | level => exact hl
    | jsonOutput => exact ho
    | service => exact hn
    | environment => exact hv
    | _ => exact absurd he (by decide)
  · intro h
    exact ⟨_, ⟨_, ⟨_, ⟨_, h .level rfl, rfl⟩, _, h .jsonOutput rfl, rfl⟩, _, h .service rfl, rfl⟩,
      _, h .environment rfl, rfl⟩

/-- So is the section on the workload. -/
theorem checkedWorkload_eq_valid_iff :
    checkedWorkload given = .valid s.workload ↔
      ∀ e : Entry, e.sectionName = workloadName → e.Holds s (given e) := by
  simp only [checkedWorkload, Checked.seq_eq_valid_iff, Checked.map_eq_valid_iff,
    checkEntry_eq_valid_iff, reads_positive_iff]
  constructor
  · rintro ⟨_, ⟨_, ⟨_, ⟨_, ⟨r, hr, rfl⟩, u, hu, rfl⟩, p, hp, rfl⟩, b, hb, rfl⟩, o, ho, hs⟩ e he
    simp only [Entry.Holds, ← hs]
    cases e with
    | recordCount => exact hr
    | userCount => exact hu
    | purposeCount => exact hp
    | objectionStart => exact hb
    | objectionCount => exact ho
    | _ => exact absurd he (by decide)
  · intro h
    exact ⟨_, ⟨_, ⟨_, ⟨_, ⟨⟨_, s.workload.recordCount_pos⟩, h .recordCount rfl, rfl⟩,
      ⟨_, s.workload.userCount_pos⟩, h .userCount rfl, rfl⟩,
      ⟨_, s.workload.purposeCount_pos⟩, h .purposeCount rfl, rfl⟩,
      _, h .objectionStart rfl, rfl⟩,
      ⟨_, s.workload.objectionCount_pos⟩, h .objectionCount rfl, rfl⟩

/-- So is the section on the trace. -/
theorem checkedTrace_eq_valid_iff :
    checkedTrace given = .valid s.trace ↔
      ∀ e : Entry, e.sectionName = traceName → e.Holds s (given e) := by
  simp only [checkedTrace, Checked.seq_eq_valid_iff, Checked.map_eq_valid_iff,
    checkEntry_eq_valid_iff]
  constructor
  · rintro ⟨_, ⟨f, hf, rfl⟩, m, hm, hs⟩ e he
    simp only [Entry.Holds, ← hs]
    cases e with
    | file => exact hf
    | mockValues => exact hm
    | _ => exact absurd he (by decide)
  · intro h
    exact ⟨_, ⟨_, h .file rfl, rfl⟩, _, h .mockValues rfl, rfl⟩

/-- Settings are valid exactly when each entry is what is given for it. -/
theorem checked_eq_valid_iff :
    checked given = .valid s ↔ ∀ e : Entry, e.Holds s (given e) := by
  have hsections : checked given = .valid s ↔ checkedLogging given = .valid s.logging ∧
      checkedWorkload given = .valid s.workload ∧ checkedTrace given = .valid s.trace := by
    simp only [checked, Checked.seq_eq_valid_iff, Checked.map_eq_valid_iff]
    constructor
    · rintro ⟨_, ⟨_, ⟨l, hl, rfl⟩, w, hw, rfl⟩, t, ht, rfl⟩
      exact ⟨hl, hw, ht⟩
    · rintro ⟨hl, hw, ht⟩
      exact ⟨_, ⟨_, ⟨_, hl, rfl⟩, _, hw, rfl⟩, _, ht, rfl⟩
  rw [hsections, checkedLogging_eq_valid_iff, checkedWorkload_eq_valid_iff,
    checkedTrace_eq_valid_iff]
  constructor
  · rintro ⟨hl, hw, ht⟩ e
    have hmem := e.sectionName_mem
    simp only [sectionNames, List.mem_cons, List.not_mem_nil, or_false] at hmem
    rcases hmem with h | h | h
    · exact hl e h
    · exact hw e h
    · exact ht e h
  · exact fun h => ⟨fun e _ => h e, fun e _ => h e, fun e _ => h e⟩

end Valid

/-- The value that a layer gives to an entry. -/
def Layer.value? (layer : Layer) (e : Entry) : Option Value :=
  match get? e.sectionName layer with
  | some (.entries es) => get? (.text e.name) es
  | _ => none

/-- A layer whose sections have known entries alone. -/
structure Layer.Regular (layer : Layer) : Prop where
  /-- Every entry is one of its section. -/
  entries : ∀ name c, get? name layer = some c →
    ∃ es, c = .entries es ∧ ∀ p ∈ es, ∃ e : Entry, e.sectionName = name ∧ p.1 = .text e.name

/-- A regular layer that can lie over another: names are distinct, and no entry is an object. -/
structure Layer.Upper (layer : Layer) : Prop extends Layer.Regular layer where
  /-- The names of sections are distinct. -/
  distinct : (names layer).Nodup
  /-- So are the names of the entries of a section. -/
  distinctEntries : ∀ name es, get? name layer = some (.entries es) → (names es).Nodup
  /-- An object would be laid over what is below it. -/
  plain : ∀ e fields, layer.value? e ≠ some (.object fields)

/-- A value that is no map hides what lies below it. -/
theorem overlay_of_ne_object {v : Value} (h : ∀ fields, v ≠ .object fields) (w : Value) :
    overlay v w = v := by
  cases v with
  | object fields => exact absurd rfl (h fields)
  | _ => simp only [overlay]

section Above

variable {higher lower : Layer}

/-- What a layer over another has for a section. -/
theorem Layer.Upper.get?_above (hh : higher.Upper) (hl : lower.Regular) (name : Text) :
    get? name (higher.above lower) =
      match get? name higher, get? name lower with
      | some (.entries es), some (.entries es') => some (.entries (overlayWith overlay es es'))
      | some c, _ => some c
      | none, c => c := by
  rw [Layer.above, get?_overlayWith _ hh.distinct]
  cases hhigher : get? name higher with
  | none => cases get? name lower <;> rfl
  | some c =>
    obtain ⟨es, rfl, -⟩ := hh.entries name c hhigher
    cases hlower : get? name lower with
    | none => rfl
    | some c' =>
      obtain ⟨es', rfl, -⟩ := hl.entries name c' hlower
      rfl

/-- An entry has the value of the higher layer, or else that of the lower one. -/
theorem Layer.Upper.value?_above (hh : higher.Upper) (hl : lower.Regular) (e : Entry) :
    (higher.above lower).value? e = (higher.value? e).or (lower.value? e) := by
  have hplain := hh.plain e
  simp only [Layer.value?, hh.get?_above hl] at hplain ⊢
  cases hhigher : get? e.sectionName higher with
  | none => rfl
  | some c =>
    obtain ⟨es, rfl, -⟩ := hh.entries _ c hhigher
    cases hlower : get? e.sectionName lower with
    | none => simp
    | some c' =>
      obtain ⟨es', rfl, -⟩ := hl.entries _ c' hlower
      simp only [hhigher] at hplain
      simp only [get?_overlayWith overlay (hh.distinctEntries _ es hhigher)]
      cases hvalue : get? (Key.text e.name) es with
      | none => rfl
      | some v =>
        have hne : ∀ fields, v ≠ .object fields := fun fields heq =>
          hplain fields (hvalue.trans (congrArg some heq))
        cases get? (Key.text e.name) es' with
        | none => rfl
        | some w => simp [overlay_of_ne_object hne]

/-- A layer above a regular one leaves it regular. -/
theorem Layer.Upper.above_regular (hh : higher.Upper) (hl : lower.Regular) :
    (higher.above lower).Regular := by
  refine ⟨fun name c hc => ?_⟩
  rw [hh.get?_above hl] at hc
  cases hhigher : get? name higher with
  | none => exact hl.entries name c (by simpa [hhigher] using hc)
  | some d =>
    obtain ⟨es, rfl, hes⟩ := hh.entries name d hhigher
    cases hlower : get? name lower with
    | none =>
      simp only [hhigher, hlower, Option.some.injEq] at hc
      exact ⟨es, hc.symm, hes⟩
    | some d' =>
      obtain ⟨es', rfl, hes'⟩ := hl.entries name d' hlower
      simp only [hhigher, hlower, Option.some.injEq] at hc
      refine ⟨_, hc.symm, fun p hp => ?_⟩
      have hname : p.1 ∈ names (overlayWith overlay es es') := List.mem_map_of_mem hp
      rcases mem_names_overlayWith overlay hname with hmem | hmem
      · obtain ⟨q, hq, heq⟩ := List.mem_map.1 hmem
        exact heq ▸ hes q hq
      · obtain ⟨q, hq, heq⟩ := List.mem_map.1 hmem
        exact heq ▸ hes' q hq

/-- Two layers of known entries are one such layer. -/
theorem Layer.Upper.above (hh : higher.Upper) (hl : lower.Upper) : (higher.above lower).Upper := by
  refine ⟨hh.above_regular hl.toRegular, nodup_names_overlayWith _ _ hl.distinct, ?_, ?_⟩
  · intro name es hes
    rw [hh.get?_above hl.toRegular] at hes
    cases hhigher : get? name higher with
    | none => exact hl.distinctEntries name es (by simpa [hhigher] using hes)
    | some c =>
      obtain ⟨fs, rfl, -⟩ := hh.entries name c hhigher
      cases hlower : get? name lower with
      | none =>
        simp only [hhigher, hlower, Option.some.injEq, Content.entries.injEq] at hes
        exact hes ▸ hh.distinctEntries name fs hhigher
      | some c' =>
        obtain ⟨fs', rfl, -⟩ := hl.entries name c' hlower
        simp only [hhigher, hlower, Option.some.injEq, Content.entries.injEq] at hes
        exact hes ▸ nodup_names_overlayWith overlay fs (hl.distinctEntries name fs' hlower)
  · intro e fields hvalue
    rw [hh.value?_above hl.toRegular] at hvalue
    cases hhigher : higher.value? e with
    | none => exact hl.plain e fields (by simpa [hhigher] using hvalue)
    | some v => exact hh.plain e fields (by simpa [hhigher] using hvalue)

end Above

/-- The named values of a section have for a name what the section has for it. -/
theorem get?_named (name : Text) (es : List (Key × Value)) :
    get? name (Content.named es) = get? (.text name) es := by
  induction es with
  | nil => rfl
  | cons p rest ih =>
    obtain ⟨k, v⟩ := p
    cases k with
    | text s =>
      have hcons : Content.named ((.text s, v) :: rest) = (s, v) :: Content.named rest := rfl
      rw [hcons]
      by_cases h : s = name <;> simp [get?, h, ih]
    | other shown =>
      have hcons : Content.named ((.other shown, v) :: rest) = Content.named rest := rfl
      simp [hcons, get?, ih]

/-- A section with known entries alone is checked by its entries. -/
theorem checkClosed_entries {α : Type} {path known : List Text} {title : Text}
    {check : Fields Value → Checked α} {es : List (Key × Value)}
    (hwritten : ∀ name ∈ known, Text.hasSurrogate name = false)
    (h : ∀ p ∈ es, ∃ name ∈ known, p.1 = .text name) :
    checkClosed path known title check (.entries es) = check (Content.named es) := by
  have hwritable : Content.hasUnwritableKey es = false := by
    rw [Content.hasUnwritableKey, List.any_eq_false]
    intro p hp
    obtain ⟨name, hknown, hname⟩ := h p hp
    simp [hname, hwritten name hknown]
  have hunknown : Content.unknown path known es = [] := by
    rw [Content.unknown, List.filterMap_eq_nil_iff]
    intro p hp
    obtain ⟨name, hknown, hname⟩ := h p hp
    simp [hname, hknown]
  simp only [checkClosed, hwritable, hunknown, Checked.validUnless, Bool.false_eq_true, if_false]
  cases check (Content.named es) <;> simp [Checked.issues]

/-- A layer without what makes settings invalid whatever the values of its entries are. -/
structure Layer.Closed (layer : Layer) : Prop where
  /-- Every section has entries. -/
  entries : ∀ name ∈ sectionNames, ∀ v, get? name layer ≠ some (.other v)
  /-- The section on the workload has no others than its own. -/
  workload : ∀ es, get? workloadName layer = some (.entries es) →
    ∀ k ∈ names es, ∃ name ∈ workloadNames, k = .text name
  /-- Neither has the section on the trace. -/
  trace : ∀ es, get? traceName layer = some (.entries es) →
    ∀ k ∈ names es, ∃ name ∈ traceNames, k = .text name

section Sections

variable {layer : Layer}

/-- A layer without a section gives nothing to its entries. -/
theorem Layer.value?_of_get?_eq_none {e : Entry} (h : get? e.sectionName layer = none) :
    layer.value? e = none := by
  simp only [Layer.value?, h]

/-- A layer gives an entry what its section has under the name of the entry. -/
theorem Layer.value?_of_get?_eq_some {e : Entry} {es : List (Key × Value)}
    (h : get? e.sectionName layer = some (.entries es)) :
    layer.value? e = get? e.name (Content.named es) := by
  simp only [Layer.value?, h, get?_named]

/-- The section on logging is checked entry by entry. -/
theorem Layer.Closed.checkSection_logging (h : layer.Closed) :
    checkSection layer loggingName {} checkLogging = checkedLogging layer.value? := by
  cases hsection : get? loggingName layer with
  | none =>
    have hnone (e : Entry) (he : e.sectionName = loggingName) : layer.value? e = none :=
      Layer.value?_of_get?_eq_none (he ▸ hsection)
    simp only [checkSection, hsection, checkedLogging, hnone .level rfl, hnone .jsonOutput rfl,
      hnone .service rfl, hnone .environment rfl]
    rfl
  | some c =>
    cases c with
    | other v => exact absurd hsection (h.entries _ (by decide) v)
    | entries es =>
      have hvalue (e : Entry) (he : e.sectionName = loggingName) :
          layer.value? e = get? e.name (Content.named es) :=
        Layer.value?_of_get?_eq_some (he ▸ hsection)
      simp only [checkSection, hsection, checkLogging, checkedLogging, hvalue .level rfl,
        hvalue .jsonOutput rfl, hvalue .service rfl, hvalue .environment rfl]
      rfl

/-- So is the section on the workload. -/
theorem Layer.Closed.checkSection_workload (h : layer.Closed) :
    checkSection layer workloadName .standard checkWorkload = checkedWorkload layer.value? := by
  cases hsection : get? workloadName layer with
  | none =>
    have hnone (e : Entry) (he : e.sectionName = workloadName) : layer.value? e = none :=
      Layer.value?_of_get?_eq_none (he ▸ hsection)
    simp only [checkSection, hsection, checkedWorkload, hnone .recordCount rfl,
      hnone .userCount rfl, hnone .purposeCount rfl, hnone .objectionStart rfl,
      hnone .objectionCount rfl]
    rfl
  | some c =>
    cases c with
    | other v => exact absurd hsection (h.entries _ (by decide) v)
    | entries es =>
      have hvalue (e : Entry) (he : e.sectionName = workloadName) :
          layer.value? e = get? e.name (Content.named es) :=
        Layer.value?_of_get?_eq_some (he ▸ hsection)
      have hknown : ∀ p ∈ es, ∃ name ∈ workloadNames, p.1 = .text name :=
        fun p hp => h.workload es hsection p.1 (List.mem_map_of_mem hp)
      simp only [checkSection, hsection, checkWorkload, checkClosed_entries (by decide) hknown,
        checkCounts,
        checkedWorkload, hvalue .recordCount rfl, hvalue .userCount rfl, hvalue .purposeCount rfl,
        hvalue .objectionStart rfl, hvalue .objectionCount rfl]
      rfl

/-- So is the section on the trace. -/
theorem Layer.Closed.checkSection_trace (h : layer.Closed) :
    checkSection layer traceName {} checkTrace = checkedTrace layer.value? := by
  cases hsection : get? traceName layer with
  | none =>
    have hnone (e : Entry) (he : e.sectionName = traceName) : layer.value? e = none :=
      Layer.value?_of_get?_eq_none (he ▸ hsection)
    simp only [checkSection, hsection, checkedTrace, hnone .file rfl, hnone .mockValues rfl]
    rfl
  | some c =>
    cases c with
    | other v => exact absurd hsection (h.entries _ (by decide) v)
    | entries es =>
      have hvalue (e : Entry) (he : e.sectionName = traceName) :
          layer.value? e = get? e.name (Content.named es) :=
        Layer.value?_of_get?_eq_some (he ▸ hsection)
      have hknown : ∀ p ∈ es, ∃ name ∈ traceNames, p.1 = .text name :=
        fun p hp => h.trace es hsection p.1 (List.mem_map_of_mem hp)
      simp only [checkSection, hsection, checkTrace, checkClosed_entries (by decide) hknown,
        checkDestination,
        checkedTrace, hvalue .file rfl, hvalue .mockValues rfl]
      rfl

/-- A closed layer is checked entry by entry. -/
theorem Layer.Closed.check_eq (h : layer.Closed) : check layer = checked layer.value? := by
  rw [check, h.checkSection_logging, h.checkSection_workload, h.checkSection_trace, checked]

/-- Known entries are all that a closed layer may have. -/
theorem Layer.Regular.closed (h : layer.Regular) : layer.Closed := by
  have hnames : ∀ e : Entry, (e.sectionName = workloadName → e.name ∈ workloadNames) ∧
      (e.sectionName = traceName → e.name ∈ traceNames) := by
    intro e
    cases e <;> decide
  have hknown (name : Text) (es : List (Key × Value)) (hes : get? name layer = some (.entries es)) :
      ∀ k ∈ names es, ∃ e : Entry, e.sectionName = name ∧ k = .text e.name := by
    obtain ⟨fs, heq, hfs⟩ := h.entries name _ hes
    obtain rfl := Content.entries.inj heq
    intro k hk
    obtain ⟨p, hp, rfl⟩ := List.mem_map.1 hk
    exact hfs p hp
  refine ⟨fun name _ v hv => ?_, fun es hes k hk => ?_, fun es hes k hk => ?_⟩
  · obtain ⟨es, heq, -⟩ := h.entries name _ hv
    exact absurd heq nofun
  · obtain ⟨e, he, hname⟩ := hknown _ es hes k hk
    exact ⟨e.name, (hnames e).1 he, hname⟩
  · obtain ⟨e, he, hname⟩ := hknown _ es hes k hk
    exact ⟨e.name, (hnames e).2 he, hname⟩

end Sections

/-- Named values that are known entries of a section, none of them an object. -/
structure Known (name : Text) (fields : Fields Value) : Prop where
  /-- The names are distinct. -/
  nodup : (names fields).Nodup
  /-- Each is that of an entry, which is given a value that is no object. -/
  entries : ∀ p ∈ fields,
    (∃ e : Entry, e.sectionName = name ∧ e.name = p.1) ∧ ∀ inner, p.2 ≠ .object inner

/-- A section without entries has no unknown one. -/
theorem Known.nil (name : Text) : Known name [] := ⟨List.nodup_nil, nofun⟩

/-- Known entries stay known when one more is set to a value that is no map. -/
theorem Known.set {name : Text} {fields : Fields Value} (h : Known name fields) {e : Entry}
    (he : e.sectionName = name) {v : Value} (hv : ∀ inner, v ≠ .object inner) :
    Known name (Fields.set e.name v fields) := by
  refine ⟨Fields.nodup_names_set h.nodup _ _, fun p hp => ?_⟩
  rcases Fields.mem_set hp with rfl | hp
  · exact ⟨⟨e, he, rfl⟩, hv⟩
  · exact h.entries p hp

/-- What a source has for a section, when it names sections in lower case. -/
theorem findSection_of_sections {α : Type} {source : List (Text × α)}
    (h : ∀ p ∈ source, p.1 ∈ sectionNames) (name : Text) :
    findSection source name = get? name source := by
  have hlower : ∀ n ∈ sectionNames, Text.lower n = n := by decide
  induction source with
  | nil => rfl
  | cons p rest ih =>
    obtain ⟨hp, hrest⟩ := List.forall_mem_cons.1 h
    have ih := ih hrest
    simp only [findSection, List.find?_cons, hlower p.1 hp] at ih ⊢
    obtain ⟨k, a⟩ := p
    by_cases hk : k = name
    · simp [hk, get?]
    · simpa [hk, get?] using ih

/-- The layer of what is found for the sections one by one. -/
def Layer.ofSections (found : Text → Option Content) : Layer :=
  sectionNames.filterMap fun name => (found name).map fun c => (name, c)

section OfSections

variable {found : Text → Option Content}

/-- A layer made of sections has what was found for each of them. -/
theorem Layer.get?_ofSections_eq_some_iff {name : Text} {c : Content} :
    get? name (ofSections found) = some c ↔ name ∈ sectionNames ∧ found name = some c :=
  Fields.get?_filterMap_eq_some_iff

/-- So it has for a given section. -/
theorem Layer.get?_ofSections {name : Text} (h : name ∈ sectionNames) :
    get? name (ofSections found) = found name := by
  ext c
  rw [get?_ofSections_eq_some_iff, and_iff_right h]

/-- Distinct names are distinct as keys. -/
theorem nodup_names_ofFields {fields : Fields Value} (h : (names fields).Nodup) :
    (names (Content.ofFields fields)).Nodup := by
  have hmap : names (Content.ofFields fields) = (names fields).map Key.text := by
    simp [names, Content.ofFields]
  rw [hmap]
  exact List.pairwise_map.2 (h.imp fun hne heq => hne (Key.text.inj heq))

/-- An entry of a section that was found has the value found under its name. -/
theorem Layer.value?_of_found {e : Entry} {fields : Fields Value}
    (h : found e.sectionName = some (.entries (Content.ofFields fields))) :
    (ofSections found).value? e = get? e.name fields := by
  rw [value?_of_get?_eq_some ((get?_ofSections e.sectionName_mem).trans h), Content.named_ofFields]

/-- An entry of a section that was not found has none. -/
theorem Layer.value?_of_not_found {e : Entry} (h : found e.sectionName = none) :
    (ofSections found).value? e = none :=
  value?_of_get?_eq_none ((get?_ofSections e.sectionName_mem).trans h)

/-- Known entries make a layer that can lie over any other. -/
theorem Layer.upper_ofSections
    (h : ∀ name ∈ sectionNames, ∀ c, found name = some c →
      ∃ fields, c = .entries (Content.ofFields fields) ∧ Known name fields) :
    (ofSections found).Upper := by
  refine ⟨⟨fun name c hc => ?_⟩, Fields.nodup_names_filterMap found (by decide),
    fun name es hes => ?_, fun e inner hvalue => ?_⟩
  · obtain ⟨hname, hfound⟩ := get?_ofSections_eq_some_iff.1 hc
    obtain ⟨fields, rfl, hknown⟩ := h name hname c hfound
    refine ⟨_, rfl, fun p hp => ?_⟩
    obtain ⟨q, hq, rfl⟩ := List.mem_map.1 hp
    obtain ⟨⟨e, hname, hentry⟩, -⟩ := hknown.entries q hq
    exact ⟨e, hname, by rw [hentry]⟩
  · obtain ⟨hname, hfound⟩ := get?_ofSections_eq_some_iff.1 hes
    obtain ⟨fields, heq, hknown⟩ := h name hname _ hfound
    obtain rfl := Content.entries.inj heq
    exact nodup_names_ofFields hknown.nodup
  · cases hfound : found e.sectionName with
    | none => simp [value?_of_not_found hfound] at hvalue
    | some c =>
      obtain ⟨fields, rfl, hknown⟩ := h _ e.sectionName_mem c hfound
      rw [value?_of_found hfound] at hvalue
      exact (hknown.entries _ (Fields.mem_of_get?_eq_some hvalue)).2 inner rfl

end OfSections

end Settings

end WorkloadTrace
