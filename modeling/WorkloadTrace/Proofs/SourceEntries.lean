import Mathlib.Data.List.Induction
import WorkloadTrace.Proofs.SettingsEntries
import WorkloadTrace.Settings.Environment
import WorkloadTrace.Settings.Resolve

/-!
# What the environment and a settings file give to the entries

An environment that has a variable for each entry that it gives, and none for a whole section, is a
layer that gives an entry the text of the last variable for it. A settings file that is a map from
sections to maps of known entries is a layer that gives an entry what stands in its place there.
-/

namespace WorkloadTrace

namespace Settings

open Fields (names get? last?)

/-- The names of entries are in lower case. -/
theorem Entry.lower_name (e : Entry) : Text.lower e.name = e.name := by
  cases e <;> decide

namespace Environment

/-- The name of the variable for an entry, in lower case. -/
def variableName (e : Entry) : Text := head ++ e.sectionName ++ delimiter ++ e.name

/-- The variables with their names in lower case. -/
def lowered (env : Environment) : Fields Text := env.map fun v => (Text.lower v.1, v.2)

/-- What an environment gives to an entry: the text of the last variable for it. -/
def value? (env : Environment) (e : Entry) : Option Value :=
  (last? (variableName e) env.lowered).map .text

/-- An environment that gives sections entry by entry. -/
structure Entrywise (env : Environment) : Prop where
  /-- No variable holds a section. -/
  noSection : ∀ v ∈ env.lowered, ∀ e : Entry, v.1 ≠ head ++ e.sectionName
  /-- A variable for something in a section is one for an entry of it. -/
  entries : ∀ v ∈ env.lowered, ∀ name ∈ sectionNames, ∀ rest,
    v.1 = head ++ name ++ delimiter ++ rest → ∃ e : Entry, e.sectionName = name ∧ rest = e.name

/-- It is enough that every name that begins like those of this program is that of a variable for an
entry. -/
theorem Entrywise.of_names {env : Environment}
    (h : ∀ v ∈ env.lowered, ∀ rest, v.1 = head ++ rest → ∃ e : Entry, v.1 = variableName e) :
    env.Entrywise := by
  have hplain : ∀ name ∈ sectionNames, char '_' ∉ name := by decide
  refine ⟨fun v hv e heq => ?_, fun v hv name hname rest heq => ?_⟩
  · obtain ⟨e', he'⟩ := h v hv _ heq
    rw [he', variableName, List.append_assoc, List.append_assoc, List.append_cancel_left_eq] at heq
    refine hplain _ e.sectionName_mem (heq ▸ ?_)
    simp [delimiter, String.toText]
  · rw [List.append_assoc, List.append_assoc] at heq
    obtain ⟨e, he⟩ := h v hv _ heq
    rw [he, variableName, List.append_assoc, List.append_assoc,
      List.append_cancel_left_eq] at heq
    have hsplit := congrArg (Text.splitOn (char '_')) heq
    have hdelimiter (s : Text) : delimiter ++ s = char '_' :: char '_' :: s := rfl
    rw [hdelimiter, hdelimiter, Text.splitOn_append_cons (hplain _ e.sectionName_mem),
      Text.splitOn_append_cons (hplain name hname)] at hsplit
    have hsection := (List.cons.inj hsplit).1
    rw [hsection, List.append_cancel_left_eq, List.append_cancel_left_eq] at heq
    exact ⟨e, hsection, heq.symm⟩

/-- The name of an entry is one step of a path, so its text is set under it. -/
theorem plant_name (text : Text) (e : Entry) (fields : Fields Value) :
    plant text (Text.splitOnText delimiter e.name) fields =
      Fields.set e.name (.text text) fields := by
  have hsplit : Text.splitOnText delimiter e.name = [e.name] := by cases e <;> decide
  rw [hsplit, plant]

/-- The variables for entries of a section give it known entries. -/
theorem entryFields_spec {vars : Fields Text} {name : Text}
    (h : ∀ v ∈ vars, ∀ rest, v.1 = head ++ name ++ delimiter ++ rest →
      ∃ e : Entry, e.sectionName = name ∧ rest = e.name) :
    Known name (entryFields vars name) ∧ ∀ e : Entry, e.sectionName = name →
      get? e.name (entryFields vars name) = (last? (variableName e) vars).map .text := by
  induction vars using List.reverseRecOn with
  | nil => exact ⟨.nil name, fun e _ => rfl⟩
  | append_singleton vars v ih =>
    obtain ⟨hknown, hvalue⟩ := ih fun w hw => h w (List.mem_append_left _ hw)
    cases hpath : Text.dropHead? (head ++ name ++ delimiter) v.1 with
    | none =>
      have hstep : entryFields (vars ++ [v]) name = entryFields vars name := by
        simp only [entryFields, List.foldl_append, List.foldl_cons, List.foldl_nil, hpath]
      rw [hstep]
      refine ⟨hknown, fun e he => ?_⟩
      have hne : v.1 ≠ variableName e := by
        intro heq
        rw [variableName, he] at heq
        exact absurd (hpath.symm.trans (Text.dropHead?_eq_some_iff.2 heq)) nofun
      rw [hvalue e he, Fields.last?_concat, if_neg hne]
    | some path =>
      have hname := Text.dropHead?_eq_some_iff.1 hpath
      obtain ⟨e, he, rfl⟩ := h v (by simp) path hname
      have hstep : entryFields (vars ++ [v]) name =
          Fields.set e.name (.text v.2) (entryFields vars name) := by
        simp only [entryFields, List.foldl_append, List.foldl_cons, List.foldl_nil, hpath,
          plant_name]
      rw [hstep]
      refine ⟨hknown.set he nofun, fun e' he' => ?_⟩
      rw [Fields.last?_concat, hname]
      by_cases heq : e = e'
      · subst heq
        simp [variableName, he]
      · have hne : e.name ≠ e'.name := fun hn => heq (Entry.name_injective hn)
        have hvar : head ++ name ++ delimiter ++ e.name ≠ variableName e' := by
          simp [variableName, he', hne]
        rw [Fields.get?_set_of_ne hne, if_neg hvar, hvalue e' he']

/-- Known entries keep their names. -/
theorem knownNames_ofFields {name : Text} {fields : Fields Value} (h : Known name fields)
    (known : List Text) :
    knownNames known (Content.ofFields fields) = Content.ofFields fields := by
  have hkeys : (Content.ofFields fields).map (fun e => (knownKey known e.1, e.2)) =
      Content.ofFields fields := by
    refine (List.map_congr_left fun p hp => ?_).trans (List.map_id _)
    obtain ⟨q, hq, rfl⟩ := List.mem_map.1 hp
    obtain ⟨⟨e, -, hname⟩, -⟩ := h.entries q hq
    simp [knownKey, ← hname, e.lower_name]
  rw [knownNames, hkeys, Fields.ofPairs_of_nodup (nodup_names_ofFields h.nodup)]

/-- What is found for a section in the variables for its entries. -/
def found (env : Environment) (name : Text) : Option Content :=
  let own := entryFields env.normalize name
  if own.isEmpty then none else some (.entries (Content.ofFields own))

section Entrywise

variable {env : Environment}

/-- The variables for a section give it what they give to its entries. -/
theorem Entrywise.entryFields_spec (h : env.Entrywise) {name : Text} (hname : name ∈ sectionNames) :
    Known name (entryFields env.normalize name) ∧ ∀ e : Entry, e.sectionName = name →
      get? e.name (entryFields env.normalize name) = env.value? e := by
  have hentries : ∀ v ∈ env.normalize, ∀ rest, v.1 = head ++ name ++ delimiter ++ rest →
      ∃ e : Entry, e.sectionName = name ∧ rest = e.name := by
    intro v hv
    exact h.entries v ((Fields.mem_setAll hv).resolve_left List.not_mem_nil) name hname
  obtain ⟨hknown, hvalue⟩ := Environment.entryFields_spec hentries
  refine ⟨hknown, fun e he => ?_⟩
  rw [hvalue e he, value?, normalize, Fields.last?_of_nodup (Fields.nodup_names_ofPairs _),
    Fields.get?_ofPairs, lowered]

/-- Nothing else is found for the section. -/
theorem Entrywise.sectionContent?_eq (h : env.Entrywise) (e : Entry) (known : List Text) :
    sectionContent? env.normalize e.sectionName known = .ok (found env e.sectionName) := by
  have hnone : get? (head ++ e.sectionName) env.normalize = none := by
    rw [Fields.get?_eq_none_iff]
    intro hmem
    obtain ⟨v, hv, hname⟩ := List.mem_map.1 hmem
    exact h.noSection v ((Fields.mem_setAll hv).resolve_left List.not_mem_nil) e hname
  have hknown := (h.entryFields_spec e.sectionName_mem).1
  simp only [sectionContent?, hnone, knownNames_ofFields hknown, found]
  cases entryFields env.normalize e.sectionName <;> rfl

/-- So the environment is a layer of such sections. -/
theorem Entrywise.layer_eq (h : env.Entrywise) : env.layer = .ok (.ofSections (found env)) := by
  have hlogging := h.sectionContent?_eq .level logNames
  have hworkload := h.sectionContent?_eq .recordCount workloadNames
  have htrace := h.sectionContent?_eq .file traceNames
  simp only [Entry.sectionName] at hlogging hworkload htrace
  simp only [layer, hlogging, hworkload, htrace]
  rfl

/-- Its entries are known ones. -/
theorem Entrywise.upper (h : env.Entrywise) : (Layer.ofSections (found env)).Upper := by
  refine Layer.upper_ofSections fun name hname c hc => ?_
  simp only [found, Option.ite_none_left_eq_some, Option.some.injEq] at hc
  exact ⟨_, hc.2.symm, (h.entryFields_spec hname).1⟩

/-- The layer of an environment gives what the environment does. -/
theorem Entrywise.value?_layer (h : env.Entrywise) (e : Entry) :
    (Layer.ofSections (found env)).value? e = env.value? e := by
  rw [← (h.entryFields_spec e.sectionName_mem).2 e rfl]
  cases hown : entryFields env.normalize e.sectionName with
  | nil => exact Layer.value?_of_not_found (by simp [found, hown])
  | cons p rest => exact Layer.value?_of_found (by simp [found, hown])

end Entrywise

end Environment

/-- What a document gives to an entry: what stands in the entry's place. -/
def documentValue? (document : List (Yaml.Atom × Yaml.Datum)) (e : Entry) : Option Value :=
  match get? (.text e.sectionName) document with
  | some (.map fields) => (get? (.text e.name) fields).map Yaml.Datum.toValue
  | _ => none

/-- A map from sections to maps of known entries. -/
def Sectioned (document : List (Yaml.Atom × Yaml.Datum)) : Prop :=
  ∀ p ∈ document, ∃ name ∈ sectionNames, p.1 = .text name ∧
    ∃ fields, p.2 = .map fields ∧
      ∀ q ∈ fields, ∃ e : Entry, e.sectionName = name ∧ q.1 = .text e.name

/-- What a map of texts has for one of them, as the content of a section. -/
theorem get?_ofAtoms {fields : List (Yaml.Atom × Yaml.Datum)}
    (h : ∀ q ∈ fields, ∃ s : Text, q.1 = .text s) (name : Text) :
    get? (.text name) (fields.map fun e => (Key.ofAtom e.1, e.2.toValue)) =
      (get? (.text name) fields).map Yaml.Datum.toValue := by
  induction fields with
  | nil => rfl
  | cons q rest ih =>
    obtain ⟨hq, hrest⟩ := List.forall_mem_cons.1 h
    obtain ⟨s, hs⟩ := hq
    obtain ⟨k, d⟩ := q
    obtain rfl : k = .text s := hs
    rw [List.map_cons, get?, get?, Key.ofAtom, ih hrest]
    by_cases hname : s = name <;> simp [hname]

/-- The entries at the top of a document, by the names of the sections. -/
theorem Sectioned.topEntries {document : List (Yaml.Atom × Yaml.Datum)} (h : Sectioned document) :
    ∃ top, topEntries document = .ok top ∧ (∀ p ∈ top, p.1 ∈ sectionNames) ∧
      ∀ name, get? name top = (get? (.text name) document).map Content.ofDatum := by
  induction document with
  | nil => exact ⟨[], rfl, nofun, fun _ => rfl⟩
  | cons p rest ih =>
    obtain ⟨hp, hrest⟩ := List.forall_mem_cons.1 h
    obtain ⟨name, hname, hkey, -⟩ := hp
    obtain ⟨k, d⟩ := p
    obtain rfl : k = .text name := hkey
    obtain ⟨top, htop, hmem, hget⟩ := ih hrest
    refine ⟨(name, Content.ofDatum d) :: top, ?_, ?_, fun n => ?_⟩
    · simp only [Settings.topEntries, topName, htop]
      rfl
    · exact List.forall_mem_cons.2 ⟨hname, hmem⟩
    · rw [get?, get?, hget]
      by_cases hn : name = n <;> simp [hn]

/-- The bytes of a settings file that means a document; without a file the document is empty. -/
def Means (file : Option (List UInt8)) (document : List (Yaml.Atom × Yaml.Datum)) : Prop :=
  match file with
  | none => document = []
  | some bs => ∃ s, Text.ofUtf8? bs = some s ∧ Yaml.read (Text.unifyBreaks s) = .ok (.map document)

/-- The entries of a map are its own. -/
theorem documentEntries_map {document : List (Yaml.Atom × Yaml.Datum)} :
    documentEntries (.map document) = .ok document := by
  cases document <;> rfl

/-- What a document has at its top for a section that it has. -/
theorem Sectioned.get?_eq_some {document : List (Yaml.Atom × Yaml.Datum)} (h : Sectioned document)
    {name : Text} {d : Yaml.Datum} (hd : get? (.text name) document = some d) :
    ∃ fields, d = .map fields ∧
      ∀ q ∈ fields, ∃ e : Entry, e.sectionName = name ∧ q.1 = .text e.name := by
  obtain ⟨n, -, hkey, fields, hfields, hentries⟩ := h _ (Fields.mem_of_get?_eq_some hd)
  obtain rfl := Yaml.Atom.text.inj hkey
  exact ⟨fields, hfields, hentries⟩

/-- A settings file gives what its document does. -/
theorem Sectioned.bytesLayer {document : List (Yaml.Atom × Yaml.Datum)} (h : Sectioned document)
    {file : Option (List UInt8)} (hfile : Means file document) :
    ∃ layer, bytesLayer file = .ok layer ∧ layer.Regular ∧
      ∀ e : Entry, layer.value? e = documentValue? document e := by
  obtain ⟨top, htop, hnames, hget⟩ := h.topEntries
  have hfound (name : Text) : findSection top name =
      (get? (.text name) document).map Content.ofDatum :=
    (findSection_of_sections hnames name).trans (hget name)
  cases file with
  | none =>
    obtain rfl : document = [] := hfile
    exact ⟨[], rfl, ⟨nofun⟩, fun _ => rfl⟩
  | some bs =>
    obtain ⟨s, hs, hread⟩ := hfile
    refine ⟨.ofSections (findSection top), ?_, ⟨fun name c hc => ?_⟩, fun e => ?_⟩
    · simp only [Settings.bytesLayer, hs, fileLayer, hread, Layer.ofDatum, documentEntries_map]
      simp only [bind, Except.bind, htop]
      rfl
    · have hsection := (Layer.get?_ofSections_eq_some_iff.1 hc).2
      rw [hfound, Option.map_eq_some_iff] at hsection
      obtain ⟨d, hd, rfl⟩ := hsection
      obtain ⟨fields, rfl, hentries⟩ := h.get?_eq_some hd
      refine ⟨_, rfl, fun p hp => ?_⟩
      obtain ⟨q, hq, rfl⟩ := List.mem_map.1 hp
      obtain ⟨e, he, hkey⟩ := hentries q hq
      exact ⟨e, he, by rw [hkey, Key.ofAtom]⟩
    · rw [documentValue?]
      cases hd : get? (.text e.sectionName) document with
      | none => exact Layer.value?_of_not_found (by rw [hfound, hd]; rfl)
      | some d =>
        obtain ⟨fields, rfl, hentries⟩ := h.get?_eq_some hd
        have hkeys : ∀ q ∈ fields, ∃ s : Text, q.1 = .text s := fun q hq =>
          (hentries q hq).imp' Entry.name fun _ hkey => hkey.2
        simp only [Layer.value?, Layer.get?_ofSections e.sectionName_mem, hfound, hd,
          Option.map_some, Content.ofDatum]
        exact get?_ofAtoms hkeys e.name

end Settings

end WorkloadTrace
