import Mathlib.Data.List.Induction
import WorkloadTrace.CommandLine.Invocation
import WorkloadTrace.Proofs.SettingsEntries

/-!
# What an invocation gives to the entries

An invocation gives an entry the value of the option made for it, and without one that of the last
property that stands for it. Properties that stand for no entry are ignored, so the parameters of an
invocation are a layer whose sections have known entries alone.
-/

namespace WorkloadTrace

namespace Settings

open Fields (names get? last?)

/-- Parameters that are known entries of sections. -/
structure Params.Fit (params : Params) : Prop where
  /-- The names of sections are distinct. -/
  nodup : (names params).Nodup
  /-- Each is that of a section, which has known entries. -/
  sections : ∀ p ∈ params, p.1 ∈ sectionNames ∧ Known p.1 p.2

/-- The sections of fitting parameters have known entries. -/
theorem Params.Fit.known {params : Params} (h : params.Fit) {name : Text} {fields : Fields Value}
    (hfields : get? name params = some fields) : Known name fields :=
  (h.sections _ (Fields.mem_of_get?_eq_some hfields)).2

/-- The value that parameters give to an entry. -/
def Params.value? (params : Params) (e : Entry) : Option Value :=
  (get? e.sectionName params).bind (get? e.name)

/-- Setting an entry gives it a value and leaves the others. -/
theorem Params.value?_setEntry (params : Params) (e e' : Entry) (v : Value) :
    (params.setEntry e.sectionName e.name v).value? e' =
      if e = e' then some v else params.value? e' := by
  simp only [value?, setEntry]
  by_cases hsection : e.sectionName = e'.sectionName
  · rw [hsection, Fields.get?_set_self, Option.bind_some]
    by_cases hname : e.name = e'.name
    · obtain rfl := Entry.name_injective hname
      simp
    · have hne : e ≠ e' := fun heq => hname (heq ▸ rfl)
      rw [Fields.get?_set_of_ne hname, if_neg hne]
      cases get? e'.sectionName params <;> rfl
  · have hne : e ≠ e' := fun heq => hsection (heq ▸ rfl)
    rw [Fields.get?_set_of_ne hsection, if_neg hne]

/-- Parameters still fit when an entry is set to a value that is no map. -/
theorem Params.Fit.setEntry {params : Params} (h : params.Fit) (e : Entry) {v : Value}
    (hv : ∀ fields, v ≠ .object fields) : (params.setEntry e.sectionName e.name v).Fit := by
  have hknown : Known e.sectionName ((get? e.sectionName params).getD []) := by
    cases hsection : get? e.sectionName params with
    | none => exact .nil _
    | some fields => exact h.known hsection
  refine ⟨Fields.nodup_names_set h.nodup _ _, fun p hp => ?_⟩
  rcases Fields.mem_set hp with rfl | hp
  · exact ⟨e.sectionName_mem, hknown.set rfl hv⟩
  · exact h.sections p hp

/-- What the layer of parameters has for a section. -/
theorem Params.Fit.findSection_eq {params : Params} (h : params.Fit) (name : Text) :
    findSection (params.fields.map fun p => (p.1, Content.ofValue p.2)) name =
      (get? name params).map fun fields => .entries (Content.ofFields fields) := by
  have hmap : params.fields.map (fun p => (p.1, Content.ofValue p.2)) =
      params.map fun p => (p.1, .entries (Content.ofFields p.2)) := by
    simp only [fields, List.map_map]
    rfl
  rw [hmap, findSection_of_sections fun p hp => ?_]
  · exact Fields.get?_map (fun fields => Content.entries (Content.ofFields fields)) name params
  · obtain ⟨q, hq, rfl⟩ := List.mem_map.1 hp
    exact (h.sections q hq).1

/-- Fitting parameters are a layer of known entries. -/
theorem Params.Fit.upper {params : Params} (h : params.Fit) :
    (Layer.ofFields params.fields).Upper := by
  refine Layer.upper_ofSections fun name _ c hc => ?_
  rw [h.findSection_eq, Option.map_eq_some_iff] at hc
  obtain ⟨fields, hfields, rfl⟩ := hc
  exact ⟨fields, rfl, h.known hfields⟩

/-- The layer of parameters gives what they give. -/
theorem Params.Fit.value?_ofFields {params : Params} (h : params.Fit) (e : Entry) :
    (Layer.ofFields params.fields).value? e = params.value? e := by
  have hfound := h.findSection_eq e.sectionName
  rw [Params.value?]
  cases hfields : get? e.sectionName params with
  | none => exact Layer.value?_of_not_found (by rw [hfound, hfields]; rfl)
  | some fields => exact Layer.value?_of_found (by rw [hfound, hfields]; rfl)

/-- The property that stands for an entry, if there is one. -/
def Entry.property? : Entry → Option Text
  | .level | .jsonOutput | .service | .environment => none
  | .recordCount => some "recordcount".toText
  | .userCount => some "usercount".toText
  | .purposeCount => some "purposecount".toText
  | .objectionStart => some "objectionstart".toText
  | .objectionCount => some "objectioncount".toText
  | .file => some "tracer.file".toText
  | .mockValues => some "mockvalues".toText

/-- What an entry is given by the text of its property. -/
def Entry.ofProperty : Entry → Text → Value
  | .mockValues, s => .bool (Text.lower (Text.strip s) = "true".toText)
  | _, s => .text (Text.strip s)

/-- The text of a property is read in the way of its entry. -/
theorem Entry.propertyValue_text (e : Entry) (s : Text) :
    propertyValue e.name (.text s) = e.ofProperty s := by
  have hname : e = .mockValues ∨ e.name ≠ "mock_values".toText := by cases e <;> decide
  rcases hname with rfl | hne
  · rfl
  · rw [propertyValue, if_neg hne]
    cases e with
    | mockValues => exact absurd rfl hne
    | _ => rfl

/-- A property stands for one entry or for nothing. -/
theorem get?_propertyPaths (name : Text) :
    (∃ e : Entry, e.property? = some name ∧
      get? name propertyPaths = some (e.sectionName, e.name)) ∨
    (get? name propertyPaths = none ∧ ∀ e : Entry, e.property? ≠ some name) := by
  by_cases h : ∃ e : Entry, e.property? = some name
  · obtain ⟨e, he⟩ := h
    refine .inl ⟨e, he, ?_⟩
    have htable : ∀ n ∈ e.property?, get? n propertyPaths = some (e.sectionName, e.name) := by
      cases e <;> decide
    exact htable name he
  · refine .inr ⟨Fields.get?_eq_none_iff.2 fun hmem => ?_, not_exists.1 h⟩
    have htable : ∀ n ∈ names propertyPaths,
        n ∈ [Entry.file, .mockValues, .recordCount, .userCount, .purposeCount, .objectionStart,
          .objectionCount].filterMap Entry.property? := by decide
    obtain ⟨e, -, he⟩ := List.mem_filterMap.1 (htable name hmem)
    exact h ⟨e, he⟩

/-- No two entries have the same property. -/
theorem Entry.property?_injective {e e' : Entry} {name : Text} (h : e.property? = some name)
    (h' : e'.property? = some name) : e = e' := by
  have htable : ∀ n ∈ e.property?, e'.property? = some n → e = e' := by
    cases e <;> cases e' <;> decide
  exact htable name h h'

/-- What properties give to an entry: what the last one that stands for it does. -/
def propertyValue? (properties : Fields Text) (e : Entry) : Option Value :=
  (e.property?.bind fun name => last? name properties).map e.ofProperty

/-- What is read of a property is no map. -/
theorem propertyValue_ne_object (entry : Text) {v : Value} (h : ∀ fields, v ≠ .object fields)
    (fields : Fields Value) : propertyValue entry v ≠ .object fields := by
  unfold propertyValue
  split
  · exact nofun
  · cases v with
    | object inner => exact absurd rfl (h inner)
    | _ => exact nofun

/-- Parameters from properties give an entry what the last property that stands for it does. -/
theorem Params.ofProperties_spec {properties : Fields Value}
    (h : ∀ p ∈ properties, ∀ fields, p.2 ≠ .object fields) :
    (ofProperties properties).Fit ∧ ∀ e : Entry, (ofProperties properties).value? e =
      (e.property?.bind fun name => last? name properties).map (propertyValue e.name) := by
  induction properties using List.reverseRecOn with
  | nil =>
    refine ⟨⟨List.nodup_nil, nofun⟩, fun e => ?_⟩
    cases e <;> rfl
  | append_singleton properties p ih =>
    obtain ⟨hfit, hvalue⟩ := ih fun q hq => h q (List.mem_append_left _ hq)
    have hp := h p (by simp)
    rcases get?_propertyPaths p.1 with ⟨e, he, hpath⟩ | ⟨hpath, hnone⟩
    · have hstep : ofProperties (properties ++ [p]) =
          (ofProperties properties).setEntry e.sectionName e.name (propertyValue e.name p.2) := by
        simp only [ofProperties, List.foldl_append, List.foldl_cons, List.foldl_nil, hpath]
      rw [hstep]
      refine ⟨hfit.setEntry e (propertyValue_ne_object e.name hp), fun e' => ?_⟩
      rw [value?_setEntry, hvalue e']
      by_cases heq : e = e'
      · simp [← heq, he, Fields.last?_concat]
      · have hother : ∀ name ∈ e'.property?, p.1 ≠ name := fun name hname hp =>
          heq (Entry.property?_injective he (hp ▸ hname))
        cases hname : e'.property? with
        | none => simp [heq]
        | some name => simp [heq, Fields.last?_concat, hother name hname]
    · have hstep : ofProperties (properties ++ [p]) = ofProperties properties := by
        simp only [ofProperties, List.foldl_append, List.foldl_cons, List.foldl_nil, hpath]
      rw [hstep]
      refine ⟨hfit, fun e => ?_⟩
      rw [hvalue e]
      cases hname : e.property? with
      | none => rfl
      | some name =>
        have hne : p.1 ≠ name := fun hp => hnone e (hp ▸ hname)
        simp [Fields.last?_concat, hne]

end Settings

namespace CommandLine

open Settings
open Fields (last?)

/-- What the option made for an entry gives to it. -/
def optionValue? (o : Options) : Entry → Option Value
  | .file => o.traceFile.map fun s => .text (Path.parse s).text
  | .mockValues => o.mockValues.map .bool
  | .level => o.logLevel.map fun s => .text (Text.upper s)
  | .jsonOutput => o.jsonLogs.map .bool
  | _ => none

/-- A given entry is set, and the others keep their values. -/
theorem setGiven_spec {params : Params} (h : params.Fit) (e : Entry) {v : Option Value}
    (hv : ∀ fields, v ≠ some (.object fields)) :
    (setGiven e.sectionName e.name v params).Fit ∧ ∀ e' : Entry,
      (setGiven e.sectionName e.name v params).value? e' =
        (if e = e' then v else none).or (params.value? e') := by
  cases v with
  | none => exact ⟨h, fun e' => by simp [setGiven]⟩
  | some v =>
    refine ⟨h.setEntry e fun fields heq => hv fields (congrArg some heq), fun e' => ?_⟩
    rw [setGiven, Params.value?_setEntry]
    by_cases heq : e = e' <;> simp [heq]

/-- The parameters of an invocation give an entry what its option does, and without one what its
last property does. -/
theorem Invocation.params_spec (i : Invocation) :
    i.params.Fit ∧ ∀ e : Entry,
      i.params.value? e = (optionValue? i.options e).or (propertyValue? i.properties e) := by
  let properties := i.properties.map fun p => (p.1, Value.text p.2)
  have hplain : ∀ p ∈ Fields.ofPairs properties, ∀ fields, p.2 ≠ .object fields := by
    intro p hp fields
    have hmem : p ∈ properties := (Fields.mem_setAll hp).resolve_left (List.not_mem_nil)
    obtain ⟨q, -, rfl⟩ := List.mem_map.1 hmem
    exact nofun
  obtain ⟨hbase, hbaseValue⟩ := Params.ofProperties_spec hplain
  have hproperty (e : Entry) : (Params.ofProperties (Fields.ofPairs properties)).value? e =
      propertyValue? i.properties e := by
    rw [hbaseValue e, propertyValue?]
    cases e.property? with
    | none => rfl
    | some name =>
      have hlast : last? name (Fields.ofPairs properties) =
          (last? name i.properties).map Value.text := by
        rw [Fields.last?_of_nodup (Fields.nodup_names_ofPairs _), Fields.get?_ofPairs]
        exact Fields.last?_map Value.text name i.properties
      simp [hlast, Function.comp_def, Entry.propertyValue_text]
  obtain ⟨hfile, hfileValue⟩ := setGiven_spec hbase .file
    (v := i.options.traceFile.map fun s => .text (Path.parse s).text) (by simp)
  obtain ⟨hmock, hmockValue⟩ := setGiven_spec hfile .mockValues
    (v := i.options.mockValues.map .bool) (by simp)
  obtain ⟨hlevel, hlevelValue⟩ := setGiven_spec hmock .level
    (v := i.options.logLevel.map fun s => .text (Text.upper s)) (by simp)
  obtain ⟨hjson, hjsonValue⟩ := setGiven_spec hlevel .jsonOutput
    (v := i.options.jsonLogs.map .bool) (by simp)
  refine ⟨hjson, fun e => ?_⟩
  refine (hjsonValue e).trans ?_
  rw [hlevelValue, hmockValue, hfileValue, hproperty]
  cases e <;> simp [optionValue?]

end CommandLine

end WorkloadTrace
