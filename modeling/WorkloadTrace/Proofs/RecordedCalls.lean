import WorkloadTrace.Proofs.JsonReading
import WorkloadTrace.Proofs.JsonWriting
import WorkloadTrace.Proofs.OperationEntries
import WorkloadTrace.Proofs.ReplayAccounting

/-!
# Recorded calls

A call is recorded as an object whose entries are its arguments by name, in any order and in any
form of the object. Replaying such lines is performing the calls themselves, one after the other:
each line is applied, and the session and the journal come out the same. A text with a surrogate
cannot be recorded: its escape is no text of a document, so the line is rejected.
-/

namespace WorkloadTrace

namespace Call

/-- The least number that does not have 63 bits. -/
def numberBound : Nat := 0x8000000000000000

/-- Whether no text has a surrogate. -/
def Whole (texts : List Text) : Prop := ∀ s ∈ texts, Text.hasSurrogate s = false

instance (texts : List Text) : Decidable (Whole texts) := List.decidableBAll _ texts

/-- The names and the texts of field values. -/
def textsOf (values : Fields Text) : List Text := values.flatMap fun f => [f.1, f.2]

/-- The entries that record a call, in one of their orders. Keys, patterns of keys and starting keys
are not empty, no text has a surrogate, numbers have 63 bits at most, and the names of field values
are distinct. -/
inductive Recorded : Call → List (Text × Value) → Prop where
  /-- One record is read. -/
  | read {table key : Text} (hkey : key ≠ []) (htexts : Whole [table, key]) :
    Recorded (.read (.text table) (.text key))
      [("table".toText, .text table), ("key".toText, .text key),
        ("op".toText, .text "read".toText)]
  /-- The records that a condition selects are read. -/
  | readMeta {table condition keymatch : Text} {fieldnum : Nat} (hkey : keymatch ≠ [])
    (htexts : Whole [table, condition, keymatch]) (hnumber : fieldnum < numberBound) :
    Recorded (.readMeta (.text table) (.int fieldnum) (.text condition) (.text keymatch))
      [("table".toText, .text table), ("fieldnum".toText, .int fieldnum),
        ("condition".toText, .text condition), ("keymatch".toText, .text keymatch),
        ("op".toText, .text "read_meta".toText)]
  /-- A record is inserted. -/
  | insert {table key : Text} {values : Fields Text} (hkey : key ≠ [])
    (htexts : Whole (table :: key :: textsOf values)) (hvalues : (Fields.names values).Nodup) :
    Recorded (.insert (.text table) (.text key) (values.map fun f => (f.1, .text f.2)))
      [("table".toText, .text table), ("key".toText, .text key),
        ("op".toText, .text "insert".toText),
        ("values".toText, .object (values.map fun f => (f.1, .text f.2)))]
  /-- A record that expires is inserted. -/
  | insertTtl {table key : Text} {values : Fields Text} {ttl : Nat} (hkey : key ≠ [])
    (htexts : Whole (table :: key :: textsOf values)) (hvalues : (Fields.names values).Nodup)
    (hnumber : ttl < numberBound) :
    Recorded
      (.insertTtl (.text table) (.text key) (values.map fun f => (f.1, .text f.2)) (.int ttl))
      [("table".toText, .text table), ("key".toText, .text key),
        ("op".toText, .text "insert_ttl".toText),
        ("values".toText, .object (values.map fun f => (f.1, .text f.2))), ("ttl".toText, .int ttl)]
  /-- One record is deleted. -/
  | delete {table key : Text} (hkey : key ≠ []) (htexts : Whole [table, key]) :
    Recorded (.delete (.text table) (.text key))
      [("table".toText, .text table), ("key".toText, .text key),
        ("op".toText, .text "delete".toText)]
  /-- The records that a condition selects are deleted. -/
  | deleteMeta {table condition keymatch : Text} {fieldnum : Nat} (hkey : keymatch ≠ [])
    (htexts : Whole [table, condition, keymatch]) (hnumber : fieldnum < numberBound) :
    Recorded (.deleteMeta (.text table) (.int fieldnum) (.text condition) (.text keymatch))
      [("table".toText, .text table), ("fieldnum".toText, .int fieldnum),
        ("condition".toText, .text condition), ("keymatch".toText, .text keymatch),
        ("op".toText, .text "delete_meta".toText)]
  /-- A record is updated. -/
  | update {table key : Text} {values : Fields Text} (hkey : key ≠ [])
    (htexts : Whole (table :: key :: textsOf values)) (hvalues : (Fields.names values).Nodup) :
    Recorded (.update (.text table) (.text key) (values.map fun f => (f.1, .text f.2)))
      [("table".toText, .text table), ("key".toText, .text key),
        ("op".toText, .text "update".toText),
        ("values".toText, .object (values.map fun f => (f.1, .text f.2)))]
  /-- Metadata of the records that a condition selects are changed. -/
  | updateMeta {table condition keymatch fieldName fieldValue : Text} {fieldnum : Nat}
    (hkey : keymatch ≠ [])
    (htexts : Whole [table, condition, keymatch, fieldName, fieldValue])
    (hnumber : fieldnum < numberBound) :
    Recorded
      (.updateMeta (.text table) (.int fieldnum) (.text condition) (.text keymatch)
        (.text fieldName) (.text fieldValue))
      [("table".toText, .text table), ("fieldnum".toText, .int fieldnum),
        ("condition".toText, .text condition), ("keymatch".toText, .text keymatch),
        ("op".toText, .text "update_meta".toText), ("field_name".toText, .text fieldName),
        ("field_value".toText, .text fieldValue)]
  /-- A range of records is read. -/
  | scan {table startkey : Text} {recordcount : Nat} (hkey : startkey ≠ [])
    (htexts : Whole [table, startkey]) (hnumber : recordcount < numberBound) :
    Recorded (.scan (.text table) (.text startkey) (.int recordcount))
      [("table".toText, .text table), ("op".toText, .text "scan".toText),
        ("startkey".toText, .text startkey), ("recordcount".toText, .int recordcount)]
  /-- Expiry is checked. -/
  | verifyTtl {table : Text} {recordcount : Nat} (htexts : Whole [table])
    (hnumber : recordcount < numberBound) :
    Recorded (.verifyTtl (.text table) (.int recordcount))
      [("table".toText, .text table), ("op".toText, .text "verify_ttl".toText),
        ("recordcount".toText, .int recordcount)]
  /-- The monitoring log is read. -/
  | readLog {table : Text} {logcount : Nat} (htexts : Whole [table])
    (hnumber : logcount < numberBound) :
    Recorded (.readLog (.text table) (.int logcount))
      [("table".toText, .text table), ("op".toText, .text "read_log".toText),
        ("logcount".toText, .int logcount)]

/-- Whether a line records a call: between blanks it is a form of an object that has the entries of
the call, in any order. -/
def IsRecordedBy (c : Call) (line : Text) : Prop :=
  ∃ es es' before t behind, c.Recorded es ∧ es.Perm es' ∧
    Json.Form true Json.Rules.strict.maxDepth (.object es') t ∧
    (∀ d ∈ before, Text.isBlank d = true) ∧ (∀ d ∈ behind, Text.isBlank d = true) ∧
    line = before ++ t ++ behind

/-- The entries of a recorded call are those of an operation that is performed as the call. -/
theorem Recorded.exists_operation {c : Call} {es : List (Text × Value)} (h : c.Recorded es) :
    ∃ o : Operation, o.IsAcceptable ∧ o.entries = es ∧ o.toCall = c := by
  cases h with
  | read hkey => exact ⟨.read _ _, hkey, rfl, rfl⟩
  | readMeta hkey => exact ⟨.readMeta _ _ _ _, hkey, rfl, rfl⟩
  | insert hkey htexts hvalues => exact ⟨.insert _ _ _, ⟨hkey, hvalues⟩, rfl, rfl⟩
  | insertTtl hkey htexts hvalues => exact ⟨.insertTtl _ _ _ _, ⟨hkey, hvalues⟩, rfl, rfl⟩
  | delete hkey => exact ⟨.delete _ _, hkey, rfl, rfl⟩
  | deleteMeta hkey => exact ⟨.deleteMeta _ _ _ _, hkey, rfl, rfl⟩
  | update hkey htexts hvalues => exact ⟨.update _ _ _, ⟨hkey, hvalues⟩, rfl, rfl⟩
  | updateMeta hkey => exact ⟨.updateMeta _ _ _ _ _ _, hkey, rfl, rfl⟩
  | scan hkey => exact ⟨.scan _ _ _, hkey, rfl, rfl⟩
  | verifyTtl => exact ⟨.verifyTtl _ _, trivial, rfl, rfl⟩
  | readLog => exact ⟨.readLog _ _, trivial, rfl, rfl⟩

theorem legible_of_mem {texts : List Text} (h : Whole texts) {s : Text} (hs : s ∈ texts) :
    Json.Legible true s :=
  Json.legible_of_hasSurrogate true (h s hs)

theorem plain_fields (depth : Nat) {values : Fields Text} (h : Whole (textsOf values)) :
    Json.Plain true (depth + 1) (.object (values.map fun f => (f.1, .text f.2))) :=
  Json.plain_texts depth fun f hf =>
    ⟨legible_of_mem h (List.mem_flatMap.2 ⟨f, hf, by simp⟩),
      legible_of_mem h (List.mem_flatMap.2 ⟨f, hf, by simp⟩)⟩

theorem Recorded.plain {c : Call} {es : List (Text × Value)} (h : c.Recorded es) (depth : Nat) :
    Json.Plain true (depth + 2) (.object es) := by
  have hnatural {n : Nat} (hn : n < numberBound) : Json.Plain true (depth + 1) (.int n) := by
    have hdigits : (Decimal.ofNat n).length ≤ 19 := by
      rw [Decimal.ofNat, List.length_map]
      exact (Nat.length_toDigits_le_iff (by decide) (by decide)).2 (Nat.lt_trans hn (by decide))
    exact .natural (depth + 1) (Nat.le_trans hdigits (by decide))
  have hnames : ∀ e ∈ es, Json.Legible true e.1 := by
    cases h <;> simp [Json.legible_toText]
  refine .object hnames ?_
  cases h with
  | read hkey htexts | delete hkey htexts =>
    simp [Json.Plain.text, legible_of_mem htexts, Json.legible_toText]
  | readMeta hkey htexts hnumber | deleteMeta hkey htexts hnumber
  | updateMeta hkey htexts hnumber | scan hkey htexts hnumber =>
    simp [Json.Plain.text, legible_of_mem htexts, Json.legible_toText, hnatural hnumber]
  | insert hkey htexts hvalues | update hkey htexts hvalues =>
    have hfields := plain_fields depth fun s hs =>
      htexts s (List.mem_cons_of_mem _ (List.mem_cons_of_mem _ hs))
    simp [Json.Plain.text, legible_of_mem htexts, Json.legible_toText, hfields]
  | insertTtl hkey htexts hvalues hnumber =>
    have hfields := plain_fields depth fun s hs =>
      htexts s (List.mem_cons_of_mem _ (List.mem_cons_of_mem _ hs))
    simp [Json.Plain.text, legible_of_mem htexts, Json.legible_toText, hfields, hnatural hnumber]
  | verifyTtl htexts hnumber | readLog htexts hnumber =>
    simp [Json.Plain.text, legible_of_mem htexts, Json.legible_toText, hnatural hnumber]

/-- A call is recorded by its entries as they are written, whatever their order and the blanks. -/
theorem Recorded.isRecordedBy_write {c : Call} {es es' : List (Text × Value)}
    {sep : Json.Separators} (h : c.Recorded es) (hperm : es.Perm es') (hsep : sep.IsBlank) :
    c.IsRecordedBy (Json.write sep (.object es')) := by
  have hplain : Json.Plain true Json.Rules.strict.maxDepth (.object es') := by
    cases h.plain 198 with
    | object hnames h =>
      exact .object (fun e he => hnames e (hperm.mem_iff.2 he)) fun e he => h e (hperm.mem_iff.2 he)
  exact ⟨es, es', [], _, [], h, hperm, Json.form_write hsep hplain, by simp, by simp, by simp⟩

theorem arguments_textsOf {levels : Nat} (values : Fields Text) :
    ∀ v ∈ (values.map fun f => ((f.1, .text f.2) : Text × Value)).map Prod.snd,
      v.trouble? levels = none := by
  intro v hv
  obtain ⟨f, hf, rfl⟩ := List.mem_map.1 hv
  obtain ⟨g, -, rfl⟩ := List.mem_map.1 hf
  rfl

/-- A number below the bound is not too long. -/
theorem trouble?_of_lt_numberBound {levels n : Nat} (h : n < numberBound) :
    (Value.int n).trouble? levels = none :=
  Decimal.trouble?_eq_none_iff_lt.2
    (Nat.lt_of_lt_of_le h (Decimal.le_pow_maxDigits (by decide : numberBound ≤ 10 ^ 20)))

/-- The arguments of a recorded call have the declared kinds and can be written. -/
theorem Recorded.fits {c : Call} {es : List (Text × Value)} (h : c.Recorded es) (p : Profile)
    (hrecords : p.workload.recordCount ≤ 10 ^ Decimal.maxDigits) : c.IsTyped ∧ c.Fits p := by
  obtain ⟨o, -, -, ho⟩ := h.exists_operation
  refine ⟨ho ▸ o.isTyped_toCall, ?_, fun _ => hrecords⟩
  have htext (s : Text) : (Value.text s).trouble? p.levels = none := rfl
  cases h with
  | readMeta hkey htexts hnumber | deleteMeta hkey htexts hnumber
  | updateMeta hkey htexts hnumber | scan hkey htexts hnumber | verifyTtl htexts hnumber
  | readLog htexts hnumber =>
    simp [arguments, htext, trouble?_of_lt_numberBound hnumber]
  | insert | update => simpa only [arguments] using arguments_textsOf _
  | insertTtl hkey htexts hvalues hnumber =>
    simpa [arguments, trouble?_of_lt_numberBound hnumber, htext] using
      @arguments_textsOf p.levels _
  | read | delete => simp [arguments, htext]

/-- A recorded call can be written. -/
theorem writes_of_isRecordedBy {c : Call} {line : Text} (h : c.IsRecordedBy line) {p : Profile}
    (hrecords : p.workload.recordCount ≤ 10 ^ Decimal.maxDigits) (issued : Nat) :
    c.line? p issued = .ok (c.wording p issued) := by
  obtain ⟨es, es', before, t, behind, hrecorded, -⟩ := h
  obtain ⟨htyped, hfits⟩ := hrecorded.fits p hrecords
  exact line?_of_isTyped htyped hfits

end Call

/-- A form of an object that has the entries of an operation, in any order, is read as the
operation. -/
theorem Operation.parse_of_form {o : Operation} (h : o.IsAcceptable) {es : List (Text × Value)}
    (hperm : o.entries.Perm es) {t : Text}
    (hform : Json.Form true Json.Rules.strict.maxDepth (.object es) t) : parse t = .valid o := by
  have hnodup := o.nodup_names_entries
  have hnodup' : (Fields.names es).Nodup := (hperm.map Prod.fst).nodup_iff.1 hnodup
  have hnone : Json.Blanks [] := by simp [Json.Blanks]
  have hread := Json.read_form (fun _ => rfl) hform hnone hnone
  rw [List.nil_append, List.append_nil] at hread
  simp only [parse, hform.hasSurrogate, Bool.false_eq_true, if_false, hread, ofValue,
    Fields.ofPairs_of_nodup hnodup']
  exact ofEntries_perm hperm hnodup (ofEntries_entries h)

namespace Replay

/-- Blanks around a text that neither begins nor ends with one are removed. -/
theorem strip_blanks {before behind u : Text} {c d : CodePoint}
    (hbefore : ∀ x ∈ before, Text.isBlank x = true) (hbehind : ∀ x ∈ behind, Text.isBlank x = true)
    (hc : Text.isBlank c = false) (hd : Text.isBlank d = false) :
    Text.strip (before ++ c :: (u ++ [d]) ++ behind) = c :: (u ++ [d]) := by
  have hfront : (before ++ c :: (u ++ [d]) ++ behind).dropWhile Text.isBlank =
      c :: (u ++ [d]) ++ behind := by
    rw [List.append_assoc, List.dropWhile_append_of_pos hbefore, List.cons_append,
      List.dropWhile_cons_of_neg (by simp [hc])]
  have hreverse : (c :: (u ++ [d]) ++ behind).reverse =
      behind.reverse ++ d :: (c :: u).reverse := by simp
  have hrear : ∀ x ∈ behind.reverse, Text.isBlank x = true := fun x hx =>
    hbehind x (List.mem_reverse.1 hx)
  rw [Text.strip, Text.trimBy, hfront, hreverse, List.dropWhile_append_of_pos hrear,
    List.dropWhile_cons_of_neg (by simp [hd])]
  simp

/-- A line that records a call holds an operation that is performed as the call. -/
theorem operation?_of_isRecordedBy {c : Call} {line : Text} (h : c.IsRecordedBy line) :
    ∃ o, operation? line = some o ∧ o.toCall = c := by
  obtain ⟨es, es', before, t, behind, hrecorded, hperm, hform, hbefore, hbehind, rfl⟩ := h
  obtain ⟨o, hacceptable, rfl, hcall⟩ := hrecorded.exists_operation
  have hparse := Operation.parse_of_form hacceptable hperm hform
  obtain ⟨u, rfl⟩ := hform.braces
  have hstrip := strip_blanks (c := char '\x7b') (d := char '\x7d') hbefore hbehind
    (by decide) (by decide)
    (u := u)
  have hskipped : isSkipped (before ++ char '\x7b' :: (u ++ [char '\x7d']) ++ behind) = false := by
    rw [isSkipped, hstrip]
    rfl
  refine ⟨o, ?_, hcall⟩
  rw [operation?, hskipped, hstrip, hparse]
  rfl

variable {σ : Type}

/-- Lines that record calls do what the calls do, and are all applied unless a call raises. -/
theorem takeLines_of_recorded (ops : Sink σ) {lines : List Text} {calls : List Call}
    (h : List.Forall₂ (fun line (c : Call) => c.IsRecordedBy line) lines calls) (number : Nat)
    (st : State σ) :
    let r := takeLines ops number lines st
    (r.1, r.2.session, r.2.journal) = Session.callAll ops calls st.session st.journal ∧
      (r.1 = none →
        r.2.report = { st.report with applied := st.report.applied + calls.length }) := by
  induction h generalizing number st with
  | nil => exact ⟨rfl, fun _ => rfl⟩
  | @cons line c lines calls hline hrest ih =>
    obtain ⟨o, ho, rfl⟩ := operation?_of_isRecordedBy hline
    simp only [takeLines, takeLine_of_operation? ho, Session.callAll]
    rcases st.session.call ops o.toCall st.journal with ⟨trouble, s, j⟩
    cases trouble with
    | some t => exact ⟨rfl, by simp⟩
    | none =>
      obtain ⟨hsession, hreport⟩ :=
        ih (number + 1) ⟨{ st.report with applied := st.report.applied + 1 }, s, j⟩
      refine ⟨hsession, fun hnone => (hreport hnone).trans ?_⟩
      rw [List.length_cons, Nat.add_assoc, Nat.add_comm 1]

/-- The calls of recorded lines are those that the lines hold. -/
theorem calls_of_recorded {lines : List Text} {calls : List Call}
    (h : List.Forall₂ (fun line (c : Call) => c.IsRecordedBy line) lines calls) :
    Replay.calls lines = calls := by
  induction h with
  | nil => rfl
  | cons hline hrest ih =>
    obtain ⟨o, ho, rfl⟩ := operation?_of_isRecordedBy hline
    rw [calls_cons_of_some ho, ih]

/-- Each of the calls is recorded by one of the lines. -/
theorem exists_line_of_recorded {lines : List Text} {calls : List Call}
    (h : List.Forall₂ (fun line (c : Call) => c.IsRecordedBy line) lines calls) {c : Call}
    (hc : c ∈ calls) : ∃ line, c.IsRecordedBy line := by
  induction h with
  | nil => exact absurd hc List.not_mem_nil
  | cons hline hrest ih =>
    rcases List.mem_cons.1 hc with rfl | hc
    · exact ⟨_, hline⟩
    · exact ih hc

/-- Replaying recorded calls is performing them: the session and the journal are left as the calls,
performed in order, leave them, what a call raises ends both, and otherwise every line is applied.
Nothing is raised when the number of records is not too long and the sink takes the lines of the
calls. -/
theorem replay_performs_recorded_calls (ops : Sink σ) {lines : List Text} {calls : List Call}
    (h : List.Forall₂ (fun line (c : Call) => c.IsRecordedBy line) lines calls)
    (session : Session σ) (journal : Journal) :
    let r := takeLines ops 1 lines ⟨{}, session, journal⟩
    (r.1, r.2.session, r.2.journal) = Session.callAll ops calls session journal ∧
      (r.1 = none → r.2.report = ⟨calls.length, 0, []⟩) ∧
      (session.profile.workload.recordCount ≤ 10 ^ Decimal.maxDigits →
        ∀ (takes : Text → Prop) (good : σ → Prop), ops.Serves takes good → good session.sink →
          (∀ c ∈ calls, ∀ issued q, c.wording session.profile issued = some q →
            takes q.render) → r.1 = none) := by
  intro r
  obtain ⟨hsession, hreport⟩ := takeLines_of_recorded ops h 1 ⟨{}, session, journal⟩
  refine ⟨hsession, fun hnone => ?_, fun hrecords takes good hops hs htakes => ?_⟩
  · rw [hreport hnone, Nat.zero_add]
  · refine (takeLines_of_serves hops 1 _ hs fun c hc => ?_).1
    rw [calls_of_recorded h] at hc
    obtain ⟨line, hline⟩ := exists_line_of_recorded h hc
    have hwritten := Call.writes_of_isRecordedBy hline hrecords
    exact fun issued => ⟨_, hwritten issued, fun q hq => htakes c hc issued q hq⟩

/-- An insertion and a selection by purpose, their entries in other orders and one of the lines
without blanks, are replayed as the calls. -/
theorem insertion_and_selection_replayed :
    let table : Text := "usertable".toText
    let values : Fields Text :=
      [("PUR".toText, "purpose1".toText), ("Data".toText, "café\n\"😀\"".toText)]
    let calls : List Call :=
      [.insert (.text table) (.text "key42".toText) (values.map fun f => (f.1, .text f.2)),
        .readMeta (.text table) (.int 0) (.text "purpose1".toText) (.text "key*".toText)]
    let lines : List Text :=
      [Json.write .spaced (.object
        [("values".toText, .object (values.map fun f => (f.1, .text f.2))),
          ("op".toText, .text "insert".toText), ("key".toText, .text "key42".toText),
          ("table".toText, .text table)]),
        Json.write .compact (.object
          [("op".toText, .text "read_meta".toText), ("keymatch".toText, .text "key*".toText),
            ("condition".toText, .text "purpose1".toText), ("fieldnum".toText, .int (0 : Nat)),
            ("table".toText, .text table)])]
    let r := takeLines Sink.memory 1 lines ⟨{}, Session.withOneClient, {}⟩
    List.Forall₂ (fun line (c : Call) => c.IsRecordedBy line) lines calls ∧
      r.1 = none ∧ r.2.report = ⟨2, 0, []⟩ ∧
      Session.callAll Sink.memory calls Session.withOneClient {} =
        (none, r.2.session, r.2.journal) := by
  intro table values calls lines r
  have hrecorded : List.Forall₂ (fun line (c : Call) => c.IsRecordedBy line) lines calls := by
    refine .cons ?_ (.cons ?_ .nil)
    · exact (Call.Recorded.insert (by decide) (by decide) (by decide)).isRecordedBy_write
        (List.reverse_perm _).symm Json.Separators.isBlank_spaced
    · exact (Call.Recorded.readMeta (by decide) (by decide) (by decide)).isRecordedBy_write
        (List.reverse_perm _).symm Json.Separators.isBlank_compact
  obtain ⟨hsession, hreport, hraises⟩ :=
    replay_performs_recorded_calls Sink.memory hrecorded Session.withOneClient {}
  have hr : r = takeLines Sink.memory 1 lines ⟨{}, Session.withOneClient, {}⟩ := rfl
  clear_value r
  rw [← hr] at hsession hreport hraises
  have hnone : r.1 = none :=
    hraises Session.records_withOneClient _ _ Sink.serves_memory trivial fun _ _ _ _ _ => trivial
  rw [← hsession, hnone]
  exact ⟨hrecorded, rfl, hreport hnone, rfl⟩

/-- The line for a call with a surrogate in its key is rejected, while the call itself is
performed. -/
theorem key_with_surrogate_rejected :
    let table : Text := "usertable".toText
    let key : Text := [.surrogate 0]
    let line := Json.write .spaced (.object [("table".toText, .text table),
      ("key".toText, .text key), ("op".toText, .text "read".toText)])
    let calls : List Call := [.read (.text table) (.text key)]
    let r := takeLines Sink.memory 1 [line] ⟨{}, Session.withOneClient, {}⟩
    let direct := Session.callAll Sink.memory calls Session.withOneClient {}
    key ≠ [] ∧ r.1 = none ∧ r.2.report.applied = 0 ∧ r.2.report.rejected.length = 1 ∧
      direct.1 = none ∧ r.2.session.sink ≠ direct.2.1.sink := by
  decide +kernel

end Replay

end WorkloadTrace
