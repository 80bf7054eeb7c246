import WorkloadTrace.Call
import WorkloadTrace.Proofs.Numerals

/-!
# What the arguments of a call decide

A call with arguments of the kinds that its operation declares raises nothing but that a numeral is
too long or that values are nested too deep, and takes its selector even then. The table decides
nothing, and the number of selectors taken before a call decides nothing unless the call is one of
the three on metadata. A workload with too many users shows that a numeral can be too long.
-/

namespace WorkloadTrace

namespace Value

/-- Whether a value is a text. -/
def IsText (v : Value) : Prop := ∃ s, v = .text s

/-- Whether a value counts as an integer. -/
def IsInteger (v : Value) : Prop := ∃ n, v.asInt? = some n

theorem isText_text (s : Text) : IsText (.text s) := ⟨s, rfl⟩

theorem isInteger_int (n : Int) : IsInteger (.int n) := ⟨n, rfl⟩

/-- A text is shown as it is. -/
theorem trouble?_of_isText {v : Value} (h : v.IsText) (levels : Nat) :
    v.trouble? levels = none := by
  obtain ⟨s, rfl⟩ := h
  rfl

end Value

/-- Whether a value has no text because of its own size: a numeral in it is too long, or it is
nested too deep. -/
def Trouble.IsSize (t : Trouble) : Prop := t = .longNumeral ∨ t = .deepNesting

/-- A number whose numeral is too long is trouble with a size. -/
theorem Decimal.isSize_of_trouble? {n : Nat} {t : Trouble} (h : trouble? n = some t) : t.IsSize :=
  .inl (eq_longNumeral_of_trouble? h)

namespace Value

mutual

/-- Nothing but its size keeps a value from having a literal form. -/
theorem isSize_of_literalTrouble? {levels : Nat} {v : Value} {t : Trouble}
    (h : literalTrouble? levels v = some t) : t.IsSize := by
  cases levels with
  | zero => exact .inr (by simpa [literalTrouble?] using h.symm)
  | succ levels =>
    cases v with
    | int n => exact Decimal.isSize_of_trouble? (by simpa [literalTrouble?] using h)
    | list items => exact isSize_of_literalsTrouble? (by simpa [literalTrouble?] using h)
    | object fields => exact isSize_of_entriesTrouble? (by simpa [literalTrouble?] using h)
    | _ => simp [literalTrouble?] at h

/-- So for the members of a list. -/
theorem isSize_of_literalsTrouble? {levels : Nat} {items : List Value} {t : Trouble}
    (h : literalsTrouble? levels items = some t) : t.IsSize := by
  cases items with
  | nil => simp [literalsTrouble?] at h
  | cons v vs =>
    rw [literalsTrouble?, Option.or_eq_some_iff] at h
    rcases h with h | ⟨-, h⟩
    · exact isSize_of_literalTrouble? h
    · exact isSize_of_literalsTrouble? h

/-- So for the entries of an object. -/
theorem isSize_of_entriesTrouble? {levels : Nat} {fields : List (Text × Value)} {t : Trouble}
    (h : entriesTrouble? levels fields = some t) : t.IsSize := by
  cases fields with
  | nil => simp [entriesTrouble?] at h
  | cons f rest =>
    rw [entriesTrouble?, Option.or_eq_some_iff] at h
    rcases h with h | ⟨-, h⟩
    · exact isSize_of_literalTrouble? h
    · exact isSize_of_entriesTrouble? h

end

/-- Nothing but its size keeps a value from having a text. -/
theorem isSize_of_trouble? {levels : Nat} {v : Value} {t : Trouble}
    (h : v.trouble? levels = some t) : t.IsSize := by
  cases v with
  | int n => exact Decimal.isSize_of_trouble? h
  | list items => exact isSize_of_literalTrouble? h
  | object fields => exact isSize_of_literalTrouble? h
  | _ => cases h

end Value

/-- Nothing but the size of its value keeps a field from having a predicate. -/
theorem Predicate.isSize_of_trouble? {levels : Nat} {kind : Option FieldKind} {v : Value}
    {t : Trouble} (h : trouble? levels kind v = some t) : t.IsSize := by
  unfold trouble? at h
  split at h
  · exact Value.isSize_of_trouble? h
  · cases h

/-- A field with a text for its value has a predicate. -/
theorem Predicate.trouble?_of_isText {v : Value} (h : v.IsText) (levels : Nat)
    (kind : Option FieldKind) : trouble? levels kind v = none := by
  rw [trouble?, Value.trouble?_of_isText h, ite_self]

namespace Call

/-- Whether the arguments are of the kinds that the operation declares; field values may be of any
kind. -/
def IsTyped : Call → Prop
  | .read table key | .delete table key => table.IsText ∧ key.IsText
  | .insert table key _ | .update table key _ => table.IsText ∧ key.IsText
  | .insertTtl table key _ ttl => table.IsText ∧ key.IsText ∧ ttl.IsInteger
  | .readMeta table fieldnum condition keymatch | .deleteMeta table fieldnum condition keymatch =>
    table.IsText ∧ fieldnum.IsInteger ∧ condition.IsText ∧ keymatch.IsText
  | .updateMeta table fieldnum condition keymatch fieldName fieldValue =>
    table.IsText ∧ fieldnum.IsInteger ∧ condition.IsText ∧ keymatch.IsText ∧ fieldName.IsText ∧
      fieldValue.IsText
  | .scan table startkey recordcount =>
    table.IsText ∧ startkey.IsText ∧ recordcount.IsInteger
  | .verifyTtl table recordcount => table.IsText ∧ recordcount.IsInteger
  | .readLog table logcount => table.IsText ∧ logcount.IsInteger

/-- Whether a call is one of the three on metadata. -/
def isMetadata : Call → Bool
  | .readMeta .. | .deleteMeta .. | .updateMeta .. => true
  | _ => false

/-- Whether a call writes a line if nothing is raised; a check of expiry writes none. -/
def isTraced : Call → Bool
  | .verifyTtl .. => false
  | _ => true

/-- What a call writes is a line exactly if the call is traced. -/
theorem isSome_wording (c : Call) (p : Profile) (issued : Nat) :
    (c.wording p issued).isSome = c.isTraced := by
  cases c <;> rfl

/-- The same call on another table. -/
def withTable (table : Value) : Call → Call
  | .read _ key => .read table key
  | .readMeta _ fieldnum condition keymatch => .readMeta table fieldnum condition keymatch
  | .insert _ key values => .insert table key values
  | .insertTtl _ key values ttl => .insertTtl table key values ttl
  | .delete _ key => .delete table key
  | .deleteMeta _ fieldnum condition keymatch => .deleteMeta table fieldnum condition keymatch
  | .update _ key values => .update table key values
  | .updateMeta _ fieldnum condition keymatch fieldName fieldValue =>
    .updateMeta table fieldnum condition keymatch fieldName fieldValue
  | .scan _ startkey recordcount => .scan table startkey recordcount
  | .verifyTtl _ recordcount => .verifyTtl table recordcount
  | .readLog _ logcount => .readLog table logcount

/-- A field index that counts as an integer is looked up. -/
theorem kindAt_of_isInteger {v : Value} (h : v.IsInteger) : ∃ kind, kindAt v = .ok kind := by
  obtain ⟨n, hn⟩ := h
  cases v with
  | int n => exact ⟨_, rfl⟩
  | bool b => exact ⟨_, rfl⟩
  | _ => exact absurd hn (by simp [Value.asInt?])

/-- A key that is a text is read. -/
theorem keyText_of_isText {v : Value} (h : v.IsText) : ∃ key, keyText v = .ok key := by
  obtain ⟨s, rfl⟩ := h
  exact ⟨s, rfl⟩

variable {p : Profile} {issued taken : Nat} {t : Trouble}

/-- Once a field index is looked up only sizes are in the way of the line. -/
theorem isSize_of_selectTrouble? {fieldnum condition keymatch : Value}
    (hfieldnum : fieldnum.IsInteger)
    (h : selectTrouble? p issued fieldnum condition keymatch = some (t, taken)) : t.IsSize := by
  obtain ⟨kind, hkind⟩ := kindAt_of_isInteger hfieldnum
  rw [selectTrouble?, hkind] at h
  obtain ⟨t', ht', htaken⟩ := Option.map_eq_some_iff.1 h
  obtain ⟨rfl, -⟩ := Prod.mk.inj htaken
  rcases Option.or_eq_some_iff.1 ht' with hcondition | ⟨-, hkeymatch⟩
  · rcases Option.or_eq_some_iff.1 hcondition with hvalue | ⟨-, hsides⟩
    · exact Value.isSize_of_trouble? hvalue
    · obtain ⟨n, -, hn⟩ := List.exists_of_findSome?_eq_some hsides
      exact Decimal.isSize_of_trouble? hn
  · exact Value.isSize_of_trouble? hkeymatch

/-- Once a key is read only sizes are in the way of the line of a record. -/
theorem isSize_of_putTrouble? {key ttl : Value} {values : Fields Value} (hkey : key.IsText)
    (h : putTrouble? p key values ttl = some t) : t.IsSize := by
  obtain ⟨text, htext⟩ := keyText_of_isText hkey
  simp only [putTrouble?, htext] at h
  split at h
  · rcases Option.or_eq_some_iff.1 h with hfields | ⟨-, hexpiry⟩
    · obtain ⟨f, -, hf⟩ := List.exists_of_findSome?_eq_some hfields
      exact Predicate.isSize_of_trouble? hf
    · split at hexpiry
      · cases hexpiry
      · exact Value.isSize_of_trouble? hexpiry
  · split at h
    · cases h
    · obtain ⟨f, -, hf⟩ := List.exists_of_findSome?_eq_some h
      exact Value.isSize_of_trouble? hf

/-- What a call with arguments of the declared kinds raises is due to the size of a value. -/
theorem trouble?_of_isTyped {c : Call} (h : c.IsTyped)
    (ht : c.trouble? p issued = some (t, taken)) : t.IsSize := by
  have hcurrent {x : Option Trouble} (hx : x.map (·, issued) = some (t, taken))
      (hsize : x = some t → t.IsSize) : t.IsSize := by
    obtain ⟨t', ht', htaken⟩ := Option.map_eq_some_iff.1 hx
    obtain ⟨rfl, -⟩ := Prod.mk.inj htaken
    exact hsize ht'
  cases c with
  | read table key => exact hcurrent ht Value.isSize_of_trouble?
  | delete table key => exact hcurrent ht Value.isSize_of_trouble?
  | readMeta table fieldnum condition keymatch => exact isSize_of_selectTrouble? h.2.1 ht
  | deleteMeta table fieldnum condition keymatch => exact isSize_of_selectTrouble? h.2.1 ht
  | updateMeta table fieldnum condition keymatch fieldName fieldValue =>
    rw [trouble?, Predicate.trouble?_of_isText h.2.2.2.2.2] at ht
    exact isSize_of_selectTrouble? h.2.1 ht
  | insert table key values => exact hcurrent ht (isSize_of_putTrouble? h.2)
  | update table key values => exact hcurrent ht (isSize_of_putTrouble? h.2)
  | insertTtl table key values ttl => exact hcurrent ht (isSize_of_putTrouble? h.2.1)
  | scan table startkey recordcount =>
    refine hcurrent ht fun hx => ?_
    rcases Option.or_eq_some_iff.1 hx with hx | ⟨-, hx⟩ <;> exact Value.isSize_of_trouble? hx
  | verifyTtl table recordcount => cases ht
  | readLog table logcount => exact hcurrent ht Value.isSize_of_trouble?

/-- Whether a call comes to take a selector: it is on metadata, its field index is looked up, and
the value that an update assigns has a text. -/
def takes (p : Profile) : Call → Bool
  | .readMeta _ fieldnum _ _ | .deleteMeta _ fieldnum _ _ => (kindAt fieldnum).isOk
  | .updateMeta _ fieldnum _ _ fieldName fieldValue =>
    (Predicate.trouble? p.levels (FieldKind.ofName? fieldName) fieldValue).isNone &&
      (kindAt fieldnum).isOk
  | _ => false

/-- Only calls on metadata take selectors. -/
theorem isMetadata_of_takes {c : Call} (h : c.takes p = true) : c.isMetadata = true := by
  cases c with
  | readMeta | deleteMeta | updateMeta => rfl
  | _ => cases h

/-- A call with arguments of the declared kinds takes a selector exactly if it is on metadata. -/
theorem takes_of_isTyped {c : Call} (h : c.IsTyped) : c.takes p = c.isMetadata := by
  cases c with
  | readMeta table fieldnum condition keymatch =>
    obtain ⟨kind, hkind⟩ := kindAt_of_isInteger h.2.1
    rw [takes, hkind]
    rfl
  | deleteMeta table fieldnum condition keymatch =>
    obtain ⟨kind, hkind⟩ := kindAt_of_isInteger h.2.1
    rw [takes, hkind]
    rfl
  | updateMeta table fieldnum condition keymatch fieldName fieldValue =>
    obtain ⟨kind, hkind⟩ := kindAt_of_isInteger h.2.1
    rw [takes, hkind, Predicate.trouble?_of_isText h.2.2.2.2.2]
    rfl
  | _ => rfl

/-- The arguments of a call that it may have to write. -/
def arguments : Call → List Value
  | .read _ key | .delete _ key => [key]
  | .readMeta _ _ condition keymatch | .deleteMeta _ _ condition keymatch => [condition, keymatch]
  | .updateMeta _ _ condition keymatch _ fieldValue => [condition, keymatch, fieldValue]
  | .insert _ _ values | .update _ _ values => values.map Prod.snd
  | .insertTtl _ _ values ttl => ttl :: values.map Prod.snd
  | .scan _ startkey recordcount => [startkey, recordcount]
  | .verifyTtl _ _ => []
  | .readLog _ logcount => [logcount]

/-- Whether a call can write its arguments and, if it is on metadata, the numbers of the records. -/
structure Fits (p : Profile) (c : Call) : Prop where
  /-- Every argument has a text. -/
  arguments : ∀ v ∈ c.arguments, v.trouble? p.levels = none
  /-- No number of a record is too long. -/
  records : c.isMetadata = true → p.workload.recordCount ≤ 10 ^ Decimal.maxDigits

/-- A condition leads to a record, and the numbers derived from it are not greater. -/
theorem derived_lt_recordCount {w : Workload} {condition : Value} {kind : Option FieldKind}
    {selector : Int} : ∀ n ∈ Identity.derived w condition kind selector, n < w.recordCount := by
  have hslot (stride : Nat) (base : Int) (m : Nat) :
      Identity.recordSlot w stride selector base % m < w.recordCount :=
    Nat.lt_of_le_of_lt (Nat.mod_le _ m) (Identity.recordSlot_lt w stride selector base)
  intro n hn
  unfold Identity.derived at hn
  split at hn
  · obtain rfl := List.mem_singleton.1 hn
    exact hslot _ _ _
  · rcases List.mem_cons.1 hn with rfl | hn
    · exact hslot _ _ _
    · obtain rfl := List.mem_singleton.1 hn
      exact hslot _ _ _
  · obtain rfl := List.mem_singleton.1 hn
    exact hslot _ _ _
  · exact absurd hn List.not_mem_nil

/-- A selection raises nothing if its field index is looked up and its arguments have texts. -/
theorem selectTrouble?_eq_none {fieldnum condition keymatch : Value} {kind : Option FieldKind}
    (hkind : kindAt fieldnum = .ok kind) (hcondition : condition.trouble? p.levels = none)
    (hkeymatch : keymatch.trouble? p.levels = none)
    (hrecords : p.workload.recordCount ≤ 10 ^ Decimal.maxDigits) :
    selectTrouble? p issued fieldnum condition keymatch = none := by
  have hsides : (Identity.derived p.workload condition kind (issued + 1 : Nat)).findSome?
      Decimal.trouble? = none := by
    rw [Decimal.findSome?_trouble?, if_pos]
    exact fun n hn => Nat.lt_of_lt_of_le (derived_lt_recordCount n hn) hrecords
  simp only [selectTrouble?, hkind, Identity.conditionTrouble?, hcondition, hkeymatch, hsides,
    Option.or_none, Option.map_none]

/-- A record is written if its key is read and its values have texts. -/
theorem putTrouble?_eq_none {key ttl : Value} {values : Fields Value} (hkey : key.IsText)
    (hvalues : ∀ f ∈ values, f.2.trouble? p.levels = none) (httl : ttl.trouble? p.levels = none) :
    putTrouble? p key values ttl = none := by
  obtain ⟨text, htext⟩ := keyText_of_isText hkey
  have hfields : (values.findSome? fun f =>
      Predicate.trouble? p.levels (FieldKind.parse? f.1) f.2) = none :=
    List.findSome?_eq_none_iff.2 fun f hf => by rw [Predicate.trouble?, hvalues f hf, ite_self]
  have hcontents : (values.findSome? fun f => f.2.trouble? p.levels) = none :=
    List.findSome?_eq_none_iff.2 hvalues
  simp only [putTrouble?, htext, hfields, hcontents, httl, ite_self, Option.or_none]

/-- A call whose arguments have texts raises nothing once it comes to take a selector. -/
theorem trouble?_eq_none_of_takes {c : Call} (issued : Nat) (h : c.takes p = true)
    (hfits : c.Fits p) :
    c.trouble? p issued = none := by
  have harg := hfits.arguments
  have hrecords := hfits.records (isMetadata_of_takes h)
  have hselect {fieldnum condition keymatch : Value} (hfieldnum : (kindAt fieldnum).isOk = true)
      (hcondition : condition ∈ c.arguments) (hkeymatch : keymatch ∈ c.arguments) :
      selectTrouble? p issued fieldnum condition keymatch = none := by
    cases hkind : kindAt fieldnum with
    | error t => exact absurd hfieldnum (by simp [hkind, Except.isOk, Except.toBool])
    | ok kind =>
      exact selectTrouble?_eq_none hkind (harg _ hcondition) (harg _ hkeymatch) hrecords
  cases c with
  | readMeta table fieldnum condition keymatch =>
    exact hselect h (by simp [arguments]) (by simp [arguments])
  | deleteMeta table fieldnum condition keymatch =>
    exact hselect h (by simp [arguments]) (by simp [arguments])
  | updateMeta table fieldnum condition keymatch fieldName fieldValue =>
    obtain ⟨hvalue, hfieldnum⟩ := Bool.and_eq_true_iff.1 h
    rw [trouble?, Option.isNone_iff_eq_none.1 hvalue]
    exact hselect hfieldnum (by simp [arguments]) (by simp [arguments])
  | _ => cases h

/-- A call whose arguments are of the declared kinds and have texts raises nothing. -/
theorem trouble?_eq_none_of_isTyped {c : Call} (h : c.IsTyped) (hfits : c.Fits p) :
    c.trouble? p issued = none := by
  have harg := hfits.arguments
  cases c with
  | read table key => simp [trouble?, harg key (by simp [arguments])]
  | delete table key => simp [trouble?, harg key (by simp [arguments])]
  | insert table key values =>
    have hput : putTrouble? p key values .null = none :=
      putTrouble?_eq_none h.2 (fun f hf => harg f.2 (List.mem_map_of_mem hf)) rfl
    simp [trouble?, hput]
  | update table key values =>
    have hput : putTrouble? p key values .null = none :=
      putTrouble?_eq_none h.2 (fun f hf => harg f.2 (List.mem_map_of_mem hf)) rfl
    simp [trouble?, hput]
  | insertTtl table key values ttl =>
    have hput : putTrouble? p key values ttl = none :=
      putTrouble?_eq_none h.2.1
        (fun f hf => harg f.2 (List.mem_cons_of_mem _ (List.mem_map_of_mem hf)))
        (harg ttl List.mem_cons_self)
    simp [trouble?, hput]
  | scan table startkey recordcount =>
    simp [trouble?, harg startkey (by simp [arguments]), harg recordcount (by simp [arguments])]
  | verifyTtl table recordcount => rfl
  | readLog table logcount => simp [trouble?, harg logcount (by simp [arguments])]
  | _ => exact trouble?_eq_none_of_takes issued (takes_of_isTyped h) hfits

/-- The selectors taken are the same whether something is raised after that or not. -/
theorem taken_map (x : Option Trouble) (taken : Nat) :
    (match x.map (·, taken) with
      | some (_, n) => n
      | none => taken) = taken := by
  cases x <;> rfl

/-- The selectors taken after a selection. -/
theorem issuedAfter_select (p : Profile) (issued : Nat) (fieldnum condition keymatch : Value) :
    (match selectTrouble? p issued fieldnum condition keymatch with
      | some (_, n) => n
      | none => issued + 1) = issued + if (kindAt fieldnum).isOk then 1 else 0 := by
  rw [selectTrouble?]
  cases kindAt fieldnum with
  | error t => rfl
  | ok kind => exact taken_map _ _

/-- A call takes one selector or none, also if something is raised later. -/
theorem issuedAfter_eq (c : Call) (p : Profile) (issued : Nat) :
    c.issuedAfter p issued = issued + if c.takes p then 1 else 0 := by
  cases c with
  | readMeta table fieldnum condition keymatch => exact issuedAfter_select p issued _ _ _
  | deleteMeta table fieldnum condition keymatch => exact issuedAfter_select p issued _ _ _
  | updateMeta table fieldnum condition keymatch fieldName fieldValue =>
    have hselect := issuedAfter_select p issued fieldnum condition keymatch
    rw [issuedAfter, trouble?, takes]
    cases Predicate.trouble? p.levels (FieldKind.ofName? fieldName) fieldValue with
    | some t => rfl
    | none => exact hselect
  | verifyTtl => rfl
  | _ => exact taken_map _ _

/-- What a call raises beside its line. -/
theorem line?_eq_error_iff {c : Call} :
    c.line? p issued = .error t ↔ ∃ taken, c.trouble? p issued = some (t, taken) := by
  rw [line?]
  cases c.trouble? p issued with
  | none => simp
  | some x => simp [Prod.ext_iff]

/-- A call that raises nothing has the line that it is worded as. -/
theorem line?_of_trouble?_eq_none {c : Call} (h : c.trouble? p issued = none) :
    c.line? p issued = .ok (c.wording p issued) := by
  rw [line?, h]

/-- A call has a line exactly when nothing is in the way of it. -/
theorem line?_eq_ok_iff {c : Call} {q : Option QueryLine} :
    c.line? p issued = .ok q ↔ c.trouble? p issued = none ∧ c.wording p issued = q := by
  rw [line?]
  cases c.trouble? p issued <;> simp

/-- A call that raises nothing writes a line if it is traced. -/
theorem isSome_of_line?_eq_ok {c : Call} {line : Option QueryLine}
    (h : c.line? p issued = .ok line) :
    line.isSome = c.isTraced := by
  rw [← (line?_eq_ok_iff.1 h).2, isSome_wording]

/-- A call that raises nothing takes a selector if it is on metadata. -/
theorem issuedAfter_of_line?_eq_ok {c : Call} {line : Option QueryLine}
    (h : c.line? p issued = .ok line) :
    c.issuedAfter p issued = issued + if c.isMetadata then 1 else 0 := by
  rw [issuedAfter, (line?_eq_ok_iff.1 h).1]
  cases c <;> rfl

/-- A call whose arguments are of the declared kinds and have texts has a line, if it writes one. -/
theorem line?_of_isTyped {c : Call} (h : c.IsTyped) (hfits : c.Fits p) :
    c.line? p issued = .ok (c.wording p issued) :=
  line?_of_trouble?_eq_none (trouble?_eq_none_of_isTyped h hfits)

/-- With arguments of the declared kinds only sizes make trouble. -/
theorem isSize_of_isTyped {c : Call} (h : c.IsTyped) (ht : c.line? p issued = .error t) :
    t.IsSize := by
  obtain ⟨taken, ht⟩ := line?_eq_error_iff.1 ht
  exact trouble?_of_isTyped h ht

/-- A call that writes the record of a key with some values and an expiry. -/
inductive Puts (key : Text) (values : Fields Value) : Value → Call → Prop where
  /-- An insertion has no expiry. -/
  | insert (table : Value) : Puts key values .null (.insert table (.text key) values)
  /-- An update has no expiry. -/
  | update (table : Value) : Puts key values .null (.update table (.text key) values)
  /-- An insertion with an expiry. -/
  | insertTtl (table ttl : Value) : Puts key values ttl (.insertTtl table (.text key) values ttl)

section Puts

variable {key : Text} {values : Fields Value} {ttl : Value} {c : Call} (h : Puts key values ttl c)

include h

/-- A call that writes a record raises what is raised for the line of the record. -/
theorem Puts.trouble?_eq :
    c.trouble? p issued = (putTrouble? p (.text key) values ttl).map (·, issued) := by
  cases h <;> rfl

/-- A call that writes a record writes the line of the record. -/
theorem Puts.wording_eq : c.wording p issued = some (putLine p key values ttl) := by
  cases h <;> rfl

/-- A record whose values and expiry have texts is written. -/
theorem Puts.line?_eq (hvalues : ∀ f ∈ values, f.2.trouble? p.levels = none)
    (httl : ttl.trouble? p.levels = none) :
    c.line? p issued = .ok (some (putLine p key values ttl)) := by
  have hnone : c.trouble? p issued = none := by
    rw [h.trouble?_eq, putTrouble?_eq_none (Value.isText_text key) hvalues httl, Option.map_none]
  rw [line?_of_trouble?_eq_none hnone, h.wording_eq]

end Puts

@[simp] theorem trouble?_withTable (c : Call) (table : Value) (p : Profile) (issued : Nat) :
    (c.withTable table).trouble? p issued = c.trouble? p issued := by
  cases c <;> rfl

@[simp] theorem line?_withTable (c : Call) (table : Value) (p : Profile) (issued : Nat) :
    (c.withTable table).line? p issued = c.line? p issued := by
  cases c <;> rfl

@[simp] theorem takes_withTable (c : Call) (table : Value) (p : Profile) :
    (c.withTable table).takes p = c.takes p := by
  cases c <;> rfl

@[simp] theorem issuedAfter_withTable (c : Call) (table : Value) (p : Profile) (issued : Nat) :
    (c.withTable table).issuedAfter p issued = c.issuedAfter p issued := by
  simp only [issuedAfter_eq, takes_withTable]

/-- The number of selectors taken decides nothing about a call that is not on metadata. -/
theorem line?_eq_of_not_isMetadata {c : Call} (h : c.isMetadata = false) (p : Profile)
    (m n : Nat) : c.line? p m = c.line? p n := by
  have hnumber (x : Option Trouble) (w : Option QueryLine) :
      (match x.map (·, m) with
        | some (t, _) => Except.error t
        | none => .ok w) =
      match x.map (·, n) with
        | some (t, _) => .error t
        | none => .ok w := by
    cases x <;> rfl
  cases c with
  | readMeta | deleteMeta | updateMeta => exact absurd h (by simp [isMetadata])
  | verifyTtl => rfl
  | _ => exact hnumber _ _

end Call

namespace Identity

/-- A workload of so many records and users, of which the objections begin beyond the first
selectors. -/
def manyUsers (n : Nat) : Workload where
  recordCount := n + 1
  userCount := n + 1
  objectionStart := 101
  recordCount_pos := Nat.succ_pos n
  userCount_pos := Nat.succ_pos n
  purposeCount_pos := Workload.standard.purposeCount_pos
  objectionCount_pos := Workload.standard.objectionCount_pos

/-- The first selector of an objection before the first one leads to the last record, and its number
is that of its user. -/
theorem derived_manyUsers (n : Nat) :
    n ∈ derived (manyUsers n) (.text "0".toText) (some .objection) 1 := by
  have hseed : seedOf (.text "0".toText) = 0 := by decide
  have hlast : ((-1 : Int) % ((n + 1 : Nat) : Int)).toNat = n := by
    have hshift : (-1 : Int) + ((n + 1 : Nat) : Int) = n := by omega
    rw [← Int.add_emod_right, hshift, Int.emod_eq_of_lt (Int.natCast_nonneg n) (by omega),
      Int.toNat_natCast]
  have hslot : recordSlot (manyUsers n) 100 1 ((0 : Nat) - (101 : Nat)) = n := hlast
  have huser : recordSlot (manyUsers n) (manyUsers n).objectionCount 1
      ((seedOf (.text "0".toText) : Nat) - ((manyUsers n).objectionStart : Nat)) %
        (manyUsers n).userCount = n := by
    rw [hseed]
    exact (congrArg (· % (n + 1)) hslot).trans (Nat.mod_eq_of_lt (Nat.lt_succ_self n))
  rw [derived]
  exact List.mem_cons.2 (.inl huser.symm)

/-- No identity is derived from that selector when the number is too long. -/
theorem conditionTrouble?_manyUsers {n : Nat} (h : 10 ^ Decimal.maxDigits ≤ n) (levels : Nat) :
    conditionTrouble? levels (manyUsers n) (.text "0".toText) (some .objection) 1 =
      some .longNumeral := by
  have hlong : ¬∀ m ∈ derived (manyUsers n) (.text "0".toText) (some .objection) 1,
      m < 10 ^ Decimal.maxDigits :=
    fun hall => absurd (hall n (derived_manyUsers n)) (Nat.not_lt.2 h)
  rw [conditionTrouble?, Decimal.findSome?_trouble?, if_neg hlong]
  rfl

end Identity

/-- A selection of records by that objection raises after it has taken its selector. -/
theorem Call.trouble?_manyUsers {p : Profile} {n : Nat} (h : 10 ^ Decimal.maxDigits ≤ n)
    (hworkload : p.workload = Identity.manyUsers n) (table keymatch : Value) :
    (readMeta table (.int 3) (.text "0".toText) keymatch).trouble? p 0 =
      some (.longNumeral, 1) := by
  have hcondition := Identity.conditionTrouble?_manyUsers h p.levels
  have hkind : kindAt (.int 3) = .ok (some .objection) := rfl
  have hfirst : ((0 + 1 : Nat) : Int) = 1 := rfl
  simp only [trouble?, selectTrouble?, hkind, hworkload, hfirst, hcondition, Option.some_or,
    Option.map_some, Nat.zero_add]

end WorkloadTrace
