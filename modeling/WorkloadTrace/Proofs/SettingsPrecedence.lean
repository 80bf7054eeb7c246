import WorkloadTrace.CommandLine
import WorkloadTrace.Proofs.ParameterEntries
import WorkloadTrace.Proofs.SourceEntries

/-!
# The precedence of settings

Four sources can give a value to an entry: the option made for it, the properties, the environment
and the settings file. The first of them that gives one decides, entry by entry: settings result
exactly when every value that decides can be read, and each entry is then that value, or its default
if no source gives one. What a later source gives to such an entry does not matter, be it readable
or not.
-/

namespace WorkloadTrace

namespace Settings

/-- Checked settings as what results from loading them. -/
def loaded : Checked Settings → Except LoadError Settings
  | .valid s => .ok s
  | .invalid first others => .error (.invalid first others)

theorem loaded_eq_ok_iff {c : Checked Settings} {s : Settings} :
    loaded c = .ok s ↔ c = .valid s := by
  cases c <;> simp [loaded]

theorem ofLayers_eq {params environment file : Layer} (hparams : params.Upper)
    (henvironment : environment.Upper) (hfile : file.Regular) :
    ofLayers params environment file = loaded (checked fun e =>
      (params.value? e).or ((environment.value? e).or (file.value? e))) := by
  have hupper := hparams.above henvironment
  have hvalue : ((params.above environment).above file).value? = fun e =>
      (params.value? e).or ((environment.value? e).or (file.value? e)) := by
    funext e
    rw [hupper.value?_above hfile, hparams.value?_above henvironment.toRegular, Option.or_assoc]
  rw [ofLayers, (hupper.above_regular hfile).closed.check_eq, hvalue]
  rfl

end Settings

namespace CommandLine

open Settings

/-- What is given to an entry: by its option, or else by the last property that stands for it, or
else by the last variable for it, or else by the document of the settings file. -/
def given (env : Environment) (i : Invocation) (document : List (Yaml.Atom × Yaml.Datum))
    (e : Entry) : Option Value :=
  (optionValue? i.options e).or
    ((propertyValue? i.properties e).or ((env.value? e).or (documentValue? document e)))

/-- Sources that give values to entries: the environment has a variable for each, and the settings
file, whether it is named or the one of the user, means a document with a map for each section if
there is one. -/
structure Sources (host : Host) (env : Environment) (i : Invocation) (files : FileTree)
    (document : List (Yaml.Atom × Yaml.Datum)) : Prop where
  /-- The environment gives sections entry by entry. -/
  environment : env.Entrywise
  /-- The document maps sections to maps of known entries. -/
  sections : Sectioned document
  /-- It is what the settings file means. -/
  document : ∃ path, i.settingsFile host env = .ok path ∧ Means (files.content? path) document

section Runs

variable {host : Host} {env : Environment} {i : Invocation} {files : FileTree}
  {document : List (Yaml.Atom × Yaml.Datum)}

/-- The settings of an invocation are checked entry by entry. -/
theorem Sources.settingsOf_eq (h : Sources host env i files document) :
    settingsOf host env i files = loaded (checked (given env i document)) := by
  obtain ⟨path, hpath, hmeans⟩ := h.document
  obtain ⟨layer, hlayer, hregular, hvalue⟩ := h.sections.bytesLayer hmeans
  obtain ⟨hfit, hparams⟩ := i.params_spec
  have hgiven : (fun e => ((Layer.ofFields i.params.fields).value? e).or
      (((Layer.ofSections (Environment.found env)).value? e).or (layer.value? e))) =
        given env i document := by
    funext e
    rw [hfit.value?_ofFields, hparams, h.environment.value?_layer, hvalue, given, Option.or_assoc]
  have hlayers : settingsOf host env i files =
      ofLayers (Layer.ofFields i.params.fields) (.ofSections (Environment.found env)) layer := by
    simp only [settingsOf, hpath, resolve, hlayer, h.environment.layer_eq, bind, Except.bind]
  rw [hlayers, ofLayers_eq hfit.upper h.environment.upper hregular, hgiven]

/-- Of the sources that give a value to an entry the first decides: an option, then the last
property, then the environment, then the settings file, then the default. Settings result exactly
when each entry is what is given to it, and runs in which the same is given to each entry have the
same result, whatever the later sources give. -/
theorem first_source_decides (h : Sources host env i files document) :
    (∀ s, settingsOf host env i files = .ok s ↔ ∀ e : Entry, e.Holds s (given env i document e)) ∧
    ∀ host' env' i' files' document', Sources host' env' i' files' document' →
      (∀ e, given env' i' document' e = given env i document e) →
        settingsOf host' env' i' files' = settingsOf host env i files := by
  refine ⟨fun s => ?_, fun host' env' i' files' document' h' hgiven => ?_⟩
  · rw [h.settingsOf_eq, loaded_eq_ok_iff, checked_eq_valid_iff]
  · rw [h.settingsOf_eq, h'.settingsOf_eq, funext hgiven]

end Runs

/-- A blank path in the environment lies under an option, a word for a number under a property, and
two values of wrong kinds in the settings file of the user under a variable and a property: none of
them is looked at, and the settings are those of a run without them. -/
theorem unreadable_values_lie_below :
    let host : Host := { home := some "/root".toText }
    let env : Environment :=
      [("HOME".toText, "/home".toText), ("TRACER_TRACE__FILE".toText, " ".toText),
        ("TRACER_WORKLOAD__USER_COUNT".toText, "many".toText),
        ("Tracer_Logging__Level".toText, "ERROR".toText)]
    let text : Text :=
      "logging: \x7blevel: 3, service: bank\x7d\nworkload: \x7buser_count: []\x7d\n".toText
    let document : List (Yaml.Atom × Yaml.Datum) :=
      [(.text loggingName, .map
          [(.text "level".toText, .atom (.int 3)),
            (.text "service".toText, .atom (.text "bank".toText))]),
        (.text workloadName, .map [(.text "user_count".toText, .list [])])]
    let files : FileTree := FileTree.plant
      (["home", ".config", "ycsb-tracer", "tracer.yaml"].map fun s => Text.systemBytes s.toText)
      (.file (Text.utf8 text)) {}
    let i : Invocation :=
      ⟨{ traceFile := some "t.log".toText },
        [("usercount".toText, "x".toText), ("colour".toText, "red".toText),
          ("usercount".toText, " 7 ".toText)],
        none, .settings⟩
    let s : Settings :=
      { logging := { level := .error, service := "bank".toText }
        workload := { Workload.standard with userCount := 7, userCount_pos := by decide }
        trace := { file := ⟨[], ["t.log".toText]⟩ } }
    let cleared : Environment :=
      [("TRACER_LOGGING__LEVEL".toText, "ERROR".toText),
        ("TRACER_LOGGING__SERVICE".toText, "bank".toText)]
    let alone : Invocation :=
      ⟨i.options, [("usercount".toText, " 7 ".toText)], none, .settings⟩
    Sources host env i files document ∧ settingsOf host env i files = .ok s ∧
      settingsOf host cleared alone {} = .ok s := by
  intro host env text document files i s cleared alone
  have hnames : env.lowered =
      [("home".toText, "/home".toText), (Environment.variableName .file, " ".toText),
        (Environment.variableName .userCount, "many".toText),
        (Environment.variableName .level, "ERROR".toText)] := by decide +kernel
  have hcleared : cleared.lowered =
      [(Environment.variableName .level, "ERROR".toText),
        (Environment.variableName .service, "bank".toText)] := by decide +kernel
  have hsections : Sectioned document := by
    refine List.forall_mem_cons.2 ⟨⟨_, by decide, rfl, _, rfl, ?_⟩,
      List.forall_mem_singleton.2 ⟨_, by decide, rfl, _, rfl, ?_⟩⟩
    · exact List.forall_mem_cons.2 ⟨⟨.level, rfl, rfl⟩,
        List.forall_mem_singleton.2 ⟨.service, rfl, rfl⟩⟩
    · exact List.forall_mem_singleton.2 ⟨.userCount, rfl, rfl⟩
  have hsources : Sources host env i files document := by
    refine ⟨.of_names fun v hv rest hrest => ?_, hsections, _, rfl, text, ?_, ?_⟩
    · rw [hnames] at hv
      simp only [List.mem_cons, List.not_mem_nil, or_false] at hv
      rcases hv with rfl | rfl | rfl | rfl
      · exact absurd (List.cons.inj hrest).1 (by decide)
      · exact ⟨_, rfl⟩
      · exact ⟨_, rfl⟩
      · exact ⟨_, rfl⟩
    · decide +kernel
    · decide +kernel
  have hclearedSources : Sources host cleared alone {} [] := by
    refine ⟨.of_names fun v hv rest hrest => ?_, nofun, _, rfl, rfl⟩
    rw [hcleared] at hv
    simp only [List.mem_cons, List.not_mem_nil, or_false] at hv
    rcases hv with rfl | rfl
    · exact ⟨_, rfl⟩
    · exact ⟨_, rfl⟩
  obtain ⟨hsettings, hsame⟩ := first_source_decides hsources
  have hs : settingsOf host env i files = .ok s := by
    refine (hsettings s).2 fun e => ?_
    simp only [given, Environment.value?, hnames]
    cases e <;> rfl
  refine ⟨hsources, hs, (hsame host cleared alone {} [] hclearedSources fun e => ?_).trans hs⟩
  simp only [given, Environment.value?, hnames, hcleared]
  cases e <;> rfl

end CommandLine

end WorkloadTrace
