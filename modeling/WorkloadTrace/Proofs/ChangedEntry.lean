import Mathlib.Data.Option.Defs
import WorkloadTrace.Proofs.ParameterEntries
import WorkloadTrace.Settings.Environment

/-!
# Layers that differ in one entry

Settings are valid exactly when no section has what it must not have and every entry can be read.
Of two layers that differ in the value of one entry, one therefore has valid settings exactly when
the other one has, once both values can be read; and they are the same settings but for that entry.
Laid over one and the same layer, the two still differ in that entry alone, whatever is below.
Parameters that give two values to an entry are two such layers, and the sections of an environment
can lie below them.
-/

namespace WorkloadTrace

namespace Settings

open Fields (names get?)

/-- Two contents of a section with the same value for each name. -/
inductive Content.Alike : Content → Content → Prop where
  /-- Entries, in any order. -/
  | entries {es es' : List (Key × Value)} (h : ∀ k, get? k es = get? k es') :
    Alike (.entries es) (.entries es')
  /-- A value without entries. -/
  | other (v : Value) : Alike (.other v) (.other v)

/-- A content is like itself. -/
theorem Content.Alike.refl (c : Content) : c.Alike c := by
  cases c with
  | entries es => exact .entries fun _ => rfl
  | other v => exact .other v

/-- Being alike goes both ways. -/
theorem Content.Alike.symm {c c' : Content} (h : c.Alike c') : c'.Alike c := by
  cases h with
  | entries h => exact .entries fun k => (h k).symm
  | other v => exact .other v

/-- Two layers with the same for each name, except that they give an entry two values. -/
structure Layer.DifferAt (e : Entry) (v w : Value) (layer layer' : Layer) : Prop where
  /-- The other sections. -/
  others : ∀ name, name ≠ e.sectionName →
    Option.Rel Content.Alike (get? name layer) (get? name layer')
  /-- The section of the entry. -/
  section_eq : ∃ es es', get? e.sectionName layer = some (.entries es) ∧
    get? e.sectionName layer' = some (.entries es') ∧
    get? (.text e.name) es = some v ∧ get? (.text e.name) es' = some w ∧
    ∀ k, k ≠ .text e.name → get? k es = get? k es'

/-- A layer whose names are distinct at both levels. -/
structure Layer.Distinct (layer : Layer) : Prop where
  /-- The names of sections. -/
  sections : (names layer).Nodup
  /-- The names of the entries of a section. -/
  entries : ∀ name es, get? name layer = some (.entries es) → (names es).Nodup

/-- Known entries are distinct. -/
theorem Layer.Upper.toDistinct {layer : Layer} (h : layer.Upper) : layer.Distinct :=
  ⟨h.distinct, h.distinctEntries⟩

section Above

variable {higher higher' lower : Layer} {e : Entry} {v w : Value}

/-- What a layer over another has for a section. -/
theorem Layer.Distinct.get?_above (h : higher.Distinct) (lower : Layer) (name : Text) :
    get? name (higher.above lower) =
      match get? name higher, get? name lower with
      | some c, some d => some (c.above d)
      | some c, none => some c
      | none, d => d := by
  rw [Layer.above, get?_overlayWith _ h.sections]
  cases get? name higher <;> cases get? name lower <;> rfl

/-- A layer above another one keeps its entries distinct. -/
theorem Layer.Distinct.above (h : higher.Distinct) (hl : lower.Distinct) :
    (higher.above lower).Distinct := by
  refine ⟨nodup_names_overlayWith _ _ hl.sections, fun name es hes => ?_⟩
  rw [h.get?_above] at hes
  cases hhigher : get? name higher with
  | none => exact hl.entries name es (by simpa [hhigher] using hes)
  | some c =>
    cases hlower : get? name lower with
    | none => exact h.entries name es (by simpa [hhigher, hlower] using hes)
    | some d =>
      simp only [hhigher, hlower, Option.some.injEq] at hes
      cases c with
      | other u => simp [Content.above] at hes
      | entries fs =>
        cases d with
        | other u =>
          obtain rfl := Content.entries.inj hes
          exact h.entries name fs hhigher
        | entries gs =>
          obtain rfl := Content.entries.inj hes
          exact nodup_names_overlayWith overlay fs (hl.entries name gs hlower)

/-- Contents that are alike stay so above the same content. -/
theorem Content.Alike.above {c c' : Content} (h : c.Alike c')
    (hd : ∀ es, c = .entries es → (names es).Nodup)
    (hd' : ∀ es, c' = .entries es → (names es).Nodup) (d : Content) :
    (c.above d).Alike (c'.above d) := by
  cases h with
  | other u => exact .refl _
  | @entries es es' h =>
    cases d with
    | other u => exact .entries h
    | entries fs =>
      refine .entries fun k => ?_
      rw [get?_overlayWith overlay (hd es rfl), get?_overlayWith overlay (hd' es' rfl), h]

/-- Laid over a layer, two layers differ where they did before. -/
theorem Layer.DifferAt.above (h : DifferAt e v w higher higher') (hd : higher.Distinct)
    (hd' : higher'.Distinct) (hv : ∀ fields, v ≠ .object fields)
    (hw : ∀ fields, w ≠ .object fields) (lower : Layer) :
    DifferAt e v w (higher.above lower) (higher'.above lower) := by
  refine ⟨fun name hname => ?_, ?_⟩
  · rw [hd.get?_above, hd'.get?_above]
    have hothers := h.others name hname
    have hentries := hd.entries name
    have hentries' := hd'.entries name
    generalize get? name higher = c at *
    generalize get? name higher' = c' at *
    cases hothers with
    | none =>
      cases get? name lower with
      | none => exact .none
      | some d => exact .some (.refl d)
    | some halike =>
      cases get? name lower with
      | none => exact .some halike
      | some d =>
        exact .some (halike.above (fun es hes => hentries es (congrArg some hes))
          (fun es hes => hentries' es (congrArg some hes)) d)
  · obtain ⟨es, es', hes, hes', hvalue, hvalue', hsame⟩ := h.section_eq
    have hnodup := hd.entries _ es hes
    have hnodup' := hd'.entries _ es' hes'
    rw [hd.get?_above, hd'.get?_above, hes, hes']
    cases get? e.sectionName lower with
    | none => exact ⟨es, es', rfl, rfl, hvalue, hvalue', hsame⟩
    | some d =>
      cases d with
      | other u => exact ⟨es, es', rfl, rfl, hvalue, hvalue', hsame⟩
      | entries fs =>
        refine ⟨_, _, rfl, rfl, ?_, ?_, fun k hk => ?_⟩
        · rw [get?_overlayWith overlay hnodup, hvalue]
          cases get? (Key.text e.name) fs <;> simp [overlay_of_ne_object hv]
        · rw [get?_overlayWith overlay hnodup', hvalue']
          cases get? (Key.text e.name) fs <;> simp [overlay_of_ne_object hw]
        · rw [get?_overlayWith overlay hnodup, get?_overlayWith overlay hnodup', hsame k hk]

end Above

/-- A section that has no entries but its own is valid when they are. -/
theorem checkClosed_eq_valid_iff {α : Type} {path known : List Text} {title : Text}
    {check : Fields Value → Checked α} {es : List (Key × Value)} {a : α}
    (hwritten : ∀ name ∈ known, Text.hasSurrogate name = false) :
    checkClosed path known title check (.entries es) = .valid a ↔
      (∀ k ∈ names es, ∃ name ∈ known, k = .text name) ∧ check (Content.named es) = .valid a := by
  by_cases h : ∀ p ∈ es, ∃ name ∈ known, p.1 = .text name
  · have hnames : ∀ k ∈ names es, ∃ name ∈ known, k = .text name := by
      simpa only [names, List.forall_mem_map] using h
    rw [checkClosed_entries hwritten h, and_iff_right hnames]
  · have hnames : ¬∀ k ∈ names es, ∃ name ∈ known, k = .text name := by
      simpa only [names, List.forall_mem_map] using h
    simp only [hnames, false_and, iff_false, checkClosed]
    split
    · simp [Checked.fail]
    · rw [Checked.seq_eq_valid_iff]
      rintro ⟨f, -, _, hunknown, -⟩
      have hissues : Content.unknown path known es = [] := by
        revert hunknown
        cases Content.unknown path known es <;> simp [Checked.validUnless]
      rw [Content.unknown, List.filterMap_eq_nil_iff] at hissues
      refine h fun p hp => ?_
      have hnone := hissues p hp
      cases hkey : p.1 with
      | text name => exact ⟨name, by simpa [hkey] using hnone, rfl⟩
      | other shown => simp [hkey] at hnone

section Valid

variable {layer : Layer} {s : Settings}

/-- Settings that are valid have a closed layer. -/
theorem closed_of_check_eq_valid (h : check layer = .valid s) : layer.Closed := by
  simp only [check, Checked.seq_eq_valid_iff, Checked.map_eq_valid_iff] at h
  obtain ⟨-, ⟨-, ⟨l, hlogging, -⟩, w, hworkload, -⟩, t, htrace, -⟩ := h
  refine ⟨fun name hname v hv => ?_, fun es hes => ?_, fun es hes => ?_⟩
  · simp only [sectionNames, List.mem_cons, List.not_mem_nil, or_false] at hname
    rcases hname with rfl | rfl | rfl
    · simp [checkSection, hv, checkLogging, Checked.fail] at hlogging
    · simp [checkSection, hv, checkWorkload, checkClosed, Checked.fail] at hworkload
    · simp [checkSection, hv, checkTrace, checkClosed, Checked.fail] at htrace
  · simp only [checkSection, hes, checkWorkload] at hworkload
    exact ((checkClosed_eq_valid_iff (by decide)).1 hworkload).1
  · simp only [checkSection, hes, checkTrace] at htrace
    exact ((checkClosed_eq_valid_iff (by decide)).1 htrace).1

/-- Settings are valid exactly when their layer is closed and each entry is what it gives. -/
theorem check_eq_valid_iff :
    check layer = .valid s ↔ layer.Closed ∧ ∀ e : Entry, e.Holds s (layer.value? e) := by
  constructor
  · intro h
    have hclosed := closed_of_check_eq_valid h
    exact ⟨hclosed, checked_eq_valid_iff.1 (hclosed.check_eq ▸ h)⟩
  · rintro ⟨hclosed, hentries⟩
    rw [hclosed.check_eq]
    exact checked_eq_valid_iff.2 hentries

end Valid

section Differ

variable {layer layer' : Layer} {e : Entry} {v w : Value}

/-- If layers differ at an entry, so they do the other way round. -/
theorem Layer.DifferAt.symm (h : DifferAt e v w layer layer') : DifferAt e w v layer' layer := by
  refine ⟨fun name hname => ?_, ?_⟩
  · have hothers := h.others name hname
    generalize get? name layer = c at hothers
    generalize get? name layer' = c' at hothers
    cases hothers with
    | none => exact .none
    | some halike => exact .some halike.symm
  · obtain ⟨es, es', hes, hes', hvalue, hvalue', hsame⟩ := h.section_eq
    exact ⟨es', es, hes', hes, hvalue', hvalue, fun k hk => (hsame k hk).symm⟩

/-- Layers that differ at an entry give it the one value and the other. -/
theorem Layer.DifferAt.value?_eq (h : DifferAt e v w layer layer') : layer.value? e = some v := by
  obtain ⟨es, es', hes, -, hvalue, -⟩ := h.section_eq
  simp only [Layer.value?, hes, hvalue]

/-- They give the same to every other entry. -/
theorem Layer.DifferAt.value?_of_ne (h : DifferAt e v w layer layer') {e' : Entry} (hne : e' ≠ e) :
    layer.value? e' = layer'.value? e' := by
  simp only [Layer.value?]
  by_cases hname : e'.sectionName = e.sectionName
  · obtain ⟨es, es', hes, hes', -, -, hsame⟩ := h.section_eq
    have hkey : Key.text e'.name ≠ .text e.name := fun heq =>
      hne (Entry.name_injective (Key.text.inj heq))
    simp only [hname, hes, hes', hsame _ hkey]
  · have hothers := h.others _ hname
    generalize get? e'.sectionName layer = c at *
    generalize get? e'.sectionName layer' = c' at *
    cases hothers with
    | none => rfl
    | some halike =>
      cases halike with
      | entries h => exact h _
      | other u => rfl

/-- Where one of the layers has entries the other has entries with these names. -/
theorem Layer.DifferAt.names_of_entries (h : DifferAt e v w layer layer') {name : Text}
    {es' : List (Key × Value)} (hes' : get? name layer' = some (.entries es')) :
    ∃ es, get? name layer = some (.entries es) ∧ ∀ k, k ∈ names es' → k ∈ names es := by
  by_cases hname : name = e.sectionName
  · subst hname
    obtain ⟨es, fs, hes, hfs, hvalue, -, hsame⟩ := h.section_eq
    obtain rfl := Content.entries.inj (Option.some.inj (hfs.symm.trans hes'))
    refine ⟨es, hes, fun k hk => ?_⟩
    rw [← Fields.contains_iff_mem_names, Fields.contains] at hk ⊢
    by_cases hkey : k = .text e.name
    · rw [hkey, hvalue, Option.isSome_some]
    · rwa [hsame k hkey]
  · have hothers := h.others name hname
    rw [hes'] at hothers
    generalize get? name layer = c at hothers
    cases hothers with
    | some halike =>
      cases halike with
      | @entries es _ h =>
        refine ⟨es, rfl, fun k hk => ?_⟩
        rwa [← Fields.contains_iff_mem_names, Fields.contains, h, ← Fields.contains,
          Fields.contains_iff_mem_names]

/-- If one of them has known entries only, so has the other. -/
theorem Layer.DifferAt.closed (h : DifferAt e v w layer layer') (hclosed : layer.Closed) :
    layer'.Closed := by
  refine ⟨fun name hsection u hu => ?_, fun es' hes' k hk => ?_, fun es' hes' k hk => ?_⟩
  · by_cases hname : name = e.sectionName
    · obtain ⟨-, es', -, hes', -⟩ := h.section_eq
      rw [hname, hes'] at hu
      exact absurd hu nofun
    · have hothers := h.others name hname
      have hentries := hclosed.entries name hsection u
      rw [hu] at hothers
      generalize get? name layer = c at *
      cases hothers with
      | some halike =>
        cases halike with
        | other => exact hentries rfl
  · obtain ⟨es, hes, hnames⟩ := h.names_of_entries hes'
    exact hclosed.workload es hes k (hnames k hk)
  · obtain ⟨es, hes, hnames⟩ := h.names_of_entries hes'
    exact hclosed.trace es hes k (hnames k hk)

end Differ

/-- Settings that differ in the trace file alone agree on all other entries. -/
theorem Entry.holds_withFile {s : Settings} {e : Entry} {v : Option Value} (hne : e ≠ .file)
    (d : Path) :
    e.Holds { s with trace.file := d } v ↔ e.Holds s v := by
  cases e with
  | file => exact absurd rfl hne
  | _ => exact Iff.rfl

/-- Of two layers that differ in the trace file, the one has valid settings if the other has and its
own trace file can be read, and they are the same settings but for that file. -/
theorem Layer.DifferAt.check_eq_valid {v w : Value} {layer layer' : Layer} {s : Settings}
    (h : DifferAt .file v w layer layer') (hvalid : check layer = .valid s) :
    readDestination v = .ok s.trace.file ∧
      ∀ d, readDestination w = .ok d → check layer' = .valid { s with trace.file := d } := by
  obtain ⟨hclosed, hentries⟩ := check_eq_valid_iff.1 hvalid
  refine ⟨?_, fun d hd => check_eq_valid_iff.2 ⟨h.closed hclosed, fun e => ?_⟩⟩
  · have hfile := hentries .file
    rwa [h.value?_eq] at hfile
  · by_cases hne : e = .file
    · subst hne
      rw [h.symm.value?_eq]
      exact hd
    · rw [Entry.holds_withFile hne, ← h.value?_of_ne hne]
      exact hentries e

/-- Parameters without an empty section. -/
def Params.Full (params : Params) : Prop :=
  ∀ name fields, get? name params = some fields → fields ≠ []

/-- Parameters keep their sections when an entry is set. -/
theorem Params.Full.setEntry {params : Params} (h : params.Full) (name entry : Text) (v : Value) :
    (params.setEntry name entry v).Full := by
  intro name' fields hfields
  rw [Params.setEntry] at hfields
  by_cases hname : name = name'
  · rw [hname, Fields.get?_set_self, Option.some.injEq] at hfields
    rintro rfl
    have hentry := Fields.get?_set_self entry v ((get? name' params).getD [])
    simp [hfields, get?] at hentry
  · rw [Fields.get?_set_of_ne hname] at hfields
    exact h name' fields hfields

/-- The parameters of properties have all sections. -/
theorem Params.full_ofProperties (properties : Fields Value) : (ofProperties properties).Full := by
  induction properties using List.reverseRecOn with
  | nil => exact fun name fields h => by simp [ofProperties, get?] at h
  | append_singleton properties p ih =>
    simp only [ofProperties, List.foldl_append, List.foldl_cons, List.foldl_nil] at ih ⊢
    split
    · exact ih.setEntry _ _ _
    · exact ih

/-- Parameters have a section exactly when they give a value to an entry of it. -/
theorem Params.Full.isSome_get?_iff {params : Params} (h : params.Full) (hfit : params.Fit)
    (name : Text) : (get? name params).isSome = true ↔
      ∃ e : Entry, e.sectionName = name ∧ (params.value? e).isSome = true := by
  constructor
  · intro hsome
    obtain ⟨fields, hfields⟩ := Option.isSome_iff_exists.1 hsome
    obtain ⟨p, rest, rfl⟩ := List.exists_cons_of_ne_nil (h name fields hfields)
    obtain ⟨⟨e, he, hname⟩, -⟩ := (hfit.known hfields).entries p (List.mem_cons_self ..)
    exact ⟨e, he, by simp [Params.value?, he, hfields, hname, get?]⟩
  · rintro ⟨e, rfl, hvalue⟩
    cases hfields : get? e.sectionName params with
    | none => simp [Params.value?, hfields] at hvalue
    | some fields => rfl

/-- The layer of parameters has their sections. -/
theorem Params.Fit.get?_ofFields {params : Params} (h : params.Fit) (name : Text) :
    get? name (Layer.ofFields params.fields) =
      (get? name params).map fun fields => .entries (Content.ofFields fields) := by
  by_cases hname : name ∈ sectionNames
  · exact (Layer.get?_ofSections hname).trans (h.findSection_eq name)
  · have hlayer : get? name (Layer.ofFields params.fields) = none := by
      rw [Option.eq_none_iff_forall_not_mem]
      exact fun c hc => hname (Layer.get?_ofSections_eq_some_iff.1 hc).1
    have hparams : get? name params = none := by
      rw [Option.eq_none_iff_forall_not_mem]
      exact fun fields hfields => hname (h.sections _ (Fields.mem_of_get?_eq_some hfields)).1
    rw [hlayer, hparams, Option.map_none]

/-- Fields have their values under texts, and nothing under other keys. -/
theorem Content.get?_ofFields (k : Key) (fields : Fields Value) :
    get? k (Content.ofFields fields) =
      match k with
      | .text name => get? name fields
      | _ => none := by
  induction fields with
  | nil => cases k <;> rfl
  | cons f rest ih =>
    have hcons : Content.ofFields (f :: rest) = (.text f.1, f.2) :: Content.ofFields rest := rfl
    rw [hcons, get?, ih]
    cases k with
    | text name => simp [get?]
    | other shown => simp

/-- Parameters have for a name in a section what they give to the entry of this name. -/
theorem Params.Fit.get?_fields {params : Params} (h : params.Fit) {name : Text}
    {fields : Fields Value} (hfields : get? name params = some fields) (n : Text) :
    get? n fields = none ∧ (∀ e : Entry, e.sectionName = name → e.name ≠ n) ∨
      ∃ e : Entry, e.sectionName = name ∧ e.name = n ∧ get? n fields = params.value? e := by
  by_cases hentry : ∃ e : Entry, e.sectionName = name ∧ e.name = n
  · obtain ⟨e, rfl, rfl⟩ := hentry
    exact .inr ⟨e, rfl, rfl, by simp [Params.value?, hfields]⟩
  · refine .inl ⟨?_, fun e he hname => hentry ⟨e, he, hname⟩⟩
    rw [Option.eq_none_iff_forall_not_mem]
    intro v hv
    obtain ⟨hknown, -⟩ := (h.known hfields).entries _ (Fields.mem_of_get?_eq_some hv)
    exact hentry hknown

/-- Where parameters agree on every entry but one, the sections of a name have the same under every
other name. -/
theorem Params.Fit.get?_content_eq {params params' : Params} (h : params.Fit) (h' : params'.Fit)
    {e : Entry} (hsame : ∀ e', e' ≠ e → params.value? e' = params'.value? e') {name : Text}
    {fields fields' : Fields Value} (hfields : get? name params = some fields)
    (hfields' : get? name params' = some fields') {k : Key}
    (hk : name = e.sectionName → k ≠ .text e.name) :
    get? k (Content.ofFields fields) = get? k (Content.ofFields fields') := by
  rw [Content.get?_ofFields, Content.get?_ofFields]
  cases k with
  | other shown => rfl
  | text n =>
    rcases h.get?_fields hfields n with ⟨hnone, hother⟩ | ⟨e', he', hn, hvalue⟩
    · rcases h'.get?_fields hfields' n with ⟨hnone', -⟩ | ⟨e', he', hn, -⟩
      · exact hnone.trans hnone'.symm
      · exact absurd hn (hother e' he')
    · rcases h'.get?_fields hfields' n with ⟨-, hother⟩ | ⟨e'', he'', hn', hvalue'⟩
      · exact absurd hn (hother e' he')
      · obtain rfl := Entry.name_injective (hn.trans hn'.symm)
        have hne : e' ≠ e := fun heq => hk (heq ▸ he'.symm) (heq ▸ congrArg Key.text hn.symm)
        exact hvalue.trans ((hsame e' hne).trans hvalue'.symm)

/-- Parameters that give two values to an entry, and the same to the others, are layers that differ
in this entry. -/
theorem Params.Fit.differAt {params params' : Params} (h : params.Fit) (h' : params'.Fit)
    (hfull : params.Full) (hfull' : params'.Full) {e : Entry} {v w : Value}
    (hv : params.value? e = some v) (hw : params'.value? e = some w)
    (hsame : ∀ e', e' ≠ e → params.value? e' = params'.value? e') :
    Layer.DifferAt e v w (Layer.ofFields params.fields) (Layer.ofFields params'.fields) := by
  refine ⟨fun name hother => ?_, ?_⟩
  · rw [h.get?_ofFields, h'.get?_ofFields]
    have hiff : (get? name params).isSome = true ↔ (get? name params').isSome = true := by
      rw [hfull.isSome_get?_iff h, hfull'.isSome_get?_iff h']
      refine exists_congr fun e' => and_congr_right fun he' => ?_
      rw [hsame e' fun heq => hother (heq ▸ he'.symm)]
    cases hfields : get? name params with
    | none =>
      cases hfields' : get? name params' with
      | none => exact .none
      | some fields' => simp [hfields, hfields'] at hiff
    | some fields =>
      cases hfields' : get? name params' with
      | none => simp [hfields, hfields'] at hiff
      | some fields' =>
        exact .some (.entries fun k =>
          h.get?_content_eq h' hsame hfields hfields' fun heq => absurd heq hother)
  · obtain ⟨fields, hfields, hvalue⟩ := Option.bind_eq_some_iff.1 hv
    obtain ⟨fields', hfields', hvalue'⟩ := Option.bind_eq_some_iff.1 hw
    refine ⟨Content.ofFields fields, Content.ofFields fields', ?_, ?_, ?_, ?_, fun k hk =>
      h.get?_content_eq h' hsame hfields hfields' fun _ => hk⟩
    · rw [h.get?_ofFields, hfields, Option.map_some]
    · rw [h'.get?_ofFields, hfields', Option.map_some]
    · rw [Content.get?_ofFields]
      exact hvalue
    · rw [Content.get?_ofFields]
      exact hvalue'

/-- What the environment gives for a section has distinct names. -/
theorem Environment.nodup_names_sectionContent? {vars : Fields Text} {name : Text}
    {known : List Text} {es : List (Key × Value)}
    (h : sectionContent? vars name known = .ok (some (.entries es))) : (names es).Nodup := by
  have hknown (fs : List (Key × Value)) : (names (knownNames known fs)).Nodup :=
    Fields.nodup_names_ofPairs _
  simp only [sectionContent?] at h
  split at h
  · split at h
    · simp at h
    · obtain rfl := Content.entries.inj (Option.some.inj (Except.ok.inj h))
      exact hknown _
  · rename_i json _
    cases hdecoded : decode json with
    | error e => simp [hdecoded, Except.map] at h
    | ok content =>
      rw [hdecoded] at h
      have hcontent := Except.ok.inj h
      rw [Option.map_eq_some_iff] at hcontent
      obtain ⟨c, rfl, hc⟩ := hcontent
      cases c with
      | other v => simp at hc
      | entries fs =>
        obtain rfl := Content.entries.inj hc
        exact hknown _

/-- The layer of an environment has distinct entries. -/
theorem Environment.distinct_layer {env : Environment} {layer : Layer}
    (h : env.layer = .ok layer) : layer.Distinct := by
  simp only [Environment.layer, bind_eq_ok_iff] at h
  obtain ⟨logging, hlogging, workload, hworkload, trace, htrace, h⟩ := h
  obtain rfl := Except.ok.inj h
  refine ⟨?_, fun name es hes => ?_⟩
  · have hne : loggingName ≠ workloadName ∧ loggingName ≠ traceName ∧ workloadName ≠ traceName := by
      decide
    cases logging <;> cases workload <;> cases trace <;> simp [names, hne]
  · have hmem := Fields.mem_of_get?_eq_some hes
    simp only [List.mem_filterMap, List.mem_cons, List.not_mem_nil, or_false, id_eq,
      exists_eq_right, eq_comm (a := some (name, Content.entries es)), Option.map_eq_some_iff,
      Prod.mk.injEq] at hmem
    rcases hmem with ⟨c, rfl, -, rfl⟩ | ⟨c, rfl, -, rfl⟩ | ⟨c, rfl, -, rfl⟩
    · exact nodup_names_sectionContent? hlogging
    · exact nodup_names_sectionContent? hworkload
    · exact nodup_names_sectionContent? htrace

end Settings

end WorkloadTrace
