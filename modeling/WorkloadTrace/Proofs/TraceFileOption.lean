import WorkloadTrace.Proofs.ChangedEntry
import WorkloadTrace.Proofs.PathText
import WorkloadTrace.Proofs.SettingsPrecedence

/-!
# The option and the property for the trace file

A command line can give the trace file as an option or as a property. The option takes the text for
a path at once, and the settings remove the blanks around the text of that path; the property leaves
the text to the settings, which remove the blanks and then take the rest for a path. Nothing else
tells the two runs from each other, however the environment and the settings file look, so they
agree when both ways lead to one path. An empty text leads nowhere as a property and to the
directory itself as an option.
-/

namespace WorkloadTrace

namespace CommandLine

open Settings
open Fields (names get? last?)

/-- Whether an option can be given before or after a change of the options. -/
def Effect.Commutes (change : Options → Options) : Effect → Prop
  | .flag apply => ∀ o, apply (change o) = change (apply o)
  | .value apply => ∀ v o, apply v (change o) = change (apply v o)

/-- A change that can be made before or after every option is made to what the options give. -/
theorem Options.read_change {change : Options → Options}
    (h : ∀ p ∈ effects, p.2.Commutes change) (o : Options) (words : List Text) :
    read (change o) words = (read o words).map fun r => (change r.1, r.2) := by
  induction o, words using Options.read.induct with
  | case1 o => rfl
  | case2 o rest => simp only [read, if_true, Except.map]
  | case3 o w rest hend hoption hname => simp [read, hend, hoption, hname, Except.map]
  | case4 o w rest hend hoption apply hvalue hname ih =>
    have hchange : ∀ o, apply (change o) = change (apply o) :=
      h _ (Fields.mem_of_get?_eq_some hname)
    simpa only [read, hend, hoption, hname, hvalue, if_false, if_true, hchange] using ih
  | case5 o w rest hend hoption apply value hvalue hname =>
    simp [read, hend, hoption, hname, hvalue, Except.map]
  | case6 o w rest hend hoption apply value hvalue hname ih =>
    have hchange : ∀ v o, apply v (change o) = change (apply v o) :=
      h _ (Fields.mem_of_get?_eq_some hname)
    simpa only [read, hend, hoption, hname, hvalue, if_false, if_true, hchange] using ih
  | case7 o w hend hoption apply hvalue hname =>
    simp [read, hend, hoption, hname, hvalue, Except.map]
  | case8 o w hend hoption apply hvalue hname value rest ih =>
    have hchange : ∀ v o, apply v (change o) = change (apply v o) :=
      h _ (Fields.mem_of_get?_eq_some hname)
    simpa only [read, hend, hoption, hname, hvalue, if_false, if_true, hchange] using ih
  | case9 o w rest hend hoption => simp [read, hend, hoption, Except.map]

/-- Options with a trace file, unless they have one. -/
def Options.orTraceFile (name : Text) (o : Options) : Options :=
  { o with traceFile := o.traceFile.or (some name) }

/-- Options with one more property in front of the others. -/
def Options.consProperty (item : Text) (o : Options) : Options :=
  { o with properties := item :: o.properties }

/-- A trace file in front of all words counts if no later option gives one. -/
theorem Options.read_traceFile (name : Text) (words : List Text) :
    read {} ("--trace-file".toText :: name :: words) =
      (read {} words).map fun r => (r.1.orTraceFile name, r.2) := by
  have hcommutes : ∀ p ∈ effects, p.2.Commutes (orTraceFile name) := by
    simp [effects, addProperty, Effect.Commutes, orTraceFile]
  rw [← read_change hcommutes]
  rfl

/-- A property in front of all words comes before the others. -/
theorem Options.read_property (item : Text) (words : List Text) :
    read {} ("-p".toText :: item :: words) =
      (read {} words).map fun r => (r.1.consProperty item, r.2) := by
  have hcommutes : ∀ p ∈ effects, p.2.Commutes (consProperty item) := by
    simp [effects, addProperty, Effect.Commutes, consProperty]
  rw [← read_change hcommutes]
  rfl

/-- What is not refused is read. -/
theorem refuse_eq_ok_iff {α : Type} {x : Except UsageError α} {a : α} :
    refuse x = .ok a ↔ x = .ok a := by
  cases x <;> simp [refuse]

/-- What the words of an invocation are read as, step by step. -/
theorem Invocation.parse_eq_ok_iff {env : Environment} {words : List Text} {i : Invocation} :
    parse env words = .ok i ↔ ∃ name rest takesFile args,
      Options.read {} words = .ok (i.options, name :: rest) ∧ i.options.help = false ∧
      acceptPath? (configName i.options env) = .ok () ∧
      acceptPath? i.options.traceFile = .ok () ∧ takesFile? name = .ok takesFile ∧
      readProperties i.options.properties = .ok i.properties ∧
      readArguments rest = .ok (false, args) ∧ commandOf takesFile args = .ok i.command ∧
      i.config = (configName i.options env).map Path.parse := by
  simp only [parse, bind_eq_ok_iff, refuse_eq_ok_iff]
  constructor
  · rintro ⟨⟨o, rest⟩, hread, h⟩
    cases hhelp : o.help with
    | true => simp [hhelp, throw, throwThe, MonadExceptOf.throw, bind, Except.bind] at h
    | false =>
      simp only [hhelp, Bool.false_eq_true, if_false, bind_eq_ok_iff] at h
      obtain ⟨_, hconfig, _, hfile, h⟩ := h
      cases rest with
      | nil => simp [throw, throwThe, MonadExceptOf.throw] at h
      | cons name rest =>
        simp only [bind_eq_ok_iff, refuse_eq_ok_iff] at h
        obtain ⟨takesFile, htakes, properties, hproperties, ⟨help, args⟩, hargs, h⟩ := h
        cases help with
        | true => simp [throw, throwThe, MonadExceptOf.throw, bind, Except.bind] at h
        | false =>
          simp only [Bool.false_eq_true, if_false, bind_eq_ok_iff] at h
          obtain ⟨command, hcommand, h⟩ := h
          obtain rfl := Except.ok.inj h
          exact ⟨name, rest, takesFile, args, hread, hhelp, hconfig, hfile, htakes, hproperties,
            hargs, hcommand, rfl⟩
  · rintro ⟨name, rest, takesFile, args, hread, hhelp, hconfig, hfile, htakes, hproperties, hargs,
      hcommand, hpath⟩
    refine ⟨_, hread, ?_⟩
    simp only [hhelp, Bool.false_eq_true, if_false, bind_eq_ok_iff, refuse_eq_ok_iff]
    refine ⟨_, hconfig, _, hfile, _, htakes, _, hproperties, _, hargs, ?_⟩
    simp only [Bool.false_eq_true, if_false, bind_eq_ok_iff]
    exact ⟨_, hcommand, by rw [← hpath]; rfl⟩

/-- The name of the property for the trace file. -/
def filePropertyName : Text := "tracer.file".toText

/-- The word that gives a trace file as a property. -/
def fileProperty (name : Text) : Text := filePropertyName ++ char '=' :: name

/-- An invocation with a trace file given as an option. -/
def Invocation.withOption (i : Invocation) (name : Text) : Invocation :=
  { i with options := i.options.orTraceFile name }

/-- An invocation with a trace file given as a property in front of the others. -/
def Invocation.withProperty (i : Invocation) (name : Text) : Invocation :=
  { i with
    options := i.options.consProperty (fileProperty name)
    properties := (filePropertyName, name) :: i.properties }

section Words

variable {env : Environment} {words : List Text} {i : Invocation}

/-- A path that the system can take is accepted. -/
theorem acceptPath?_some {name : Text} (h : Path.trouble? name = none) :
    acceptPath? (some name) = .ok () := by
  simp [acceptPath?, acceptPath, h]

/-- Two words in front of all others give the trace file as an option. -/
theorem parse_withOption (hparse : Invocation.parse env words = .ok i)
    (hnone : i.options.traceFile = none) {name : Text} (hname : Path.trouble? name = none) :
    Invocation.parse env ("--trace-file".toText :: name :: words) = .ok (i.withOption name) := by
  obtain ⟨command, rest, takesFile, args, hread, hhelp, hconfig, -, hrest⟩ :=
    Invocation.parse_eq_ok_iff.1 hparse
  refine Invocation.parse_eq_ok_iff.2
    ⟨command, rest, takesFile, args, ?_, hhelp, hconfig, ?_, hrest⟩
  · rw [Options.read_traceFile, hread]
    rfl
  · have hsome : (i.withOption name).options.traceFile = some name := by
      simp [Invocation.withOption, Options.orTraceFile, hnone]
    rw [hsome, acceptPath?_some hname]

/-- The word that gives a trace file is read as that property. -/
theorem property?_fileProperty (name : Text) :
    property? (fileProperty name) = some (filePropertyName, name) := by
  have hcut : Text.cutAt? (char '=') (fileProperty name) = some (filePropertyName, name) :=
    Text.cutAt?_eq_some_iff.2 ⟨by decide, rfl⟩
  have hstrip : Text.strip filePropertyName = filePropertyName := by decide
  rw [property?, hcut]
  simp only [hstrip]
  rfl

/-- So they do as a property. -/
theorem parse_withProperty (hparse : Invocation.parse env words = .ok i) (name : Text) :
    Invocation.parse env ("-p".toText :: fileProperty name :: words) =
      .ok (i.withProperty name) := by
  obtain ⟨command, rest, takesFile, args, hread, hhelp, hconfig, hfile, htakes, hproperties,
      hrest⟩ :=
    Invocation.parse_eq_ok_iff.1 hparse
  refine Invocation.parse_eq_ok_iff.2
    ⟨command, rest, takesFile, args, ?_, hhelp, hconfig, hfile, htakes, ?_, hrest⟩
  · rw [Options.read_property, hread]
    rfl
  · have hcons : (i.withProperty name).options.properties =
        fileProperty name :: i.options.properties := rfl
    rw [hcons, readProperties, property?_fileProperty, hproperties]
    rfl

end Words

/-- Parameters keep their sections when a given entry is set. -/
theorem full_setGiven {params : Params} (h : params.Full) (name entry : Text) (v : Option Value) :
    (setGiven name entry v params).Full := by
  cases v with
  | none => exact h
  | some v => exact h.setEntry name entry v

/-- The parameters of an invocation have all sections. -/
theorem Invocation.full_params (i : Invocation) : i.params.Full :=
  full_setGiven (full_setGiven (full_setGiven (full_setGiven (Params.full_ofProperties _)
    _ _ _) _ _ _) _ _ _) _ _ _

/-- An invocation that is another one with a text for the trace file. -/
structure Gives (i : Invocation) (s : Text) (j : Invocation) : Prop where
  /-- The settings file is the same. -/
  config_eq : j.config = i.config
  /-- The parameters are the same but for the trace file. -/
  value?_eq : ∀ e : Entry,
    j.params.value? e = if e = .file then some (.text s) else i.params.value? e

/-- An invocation without a trace file. -/
structure Invocation.WithoutTraceFile (i : Invocation) : Prop where
  /-- No option gives one. -/
  option_eq : i.options.traceFile = none
  /-- No property gives one. -/
  properties : ∀ p ∈ i.properties, p.1 ≠ filePropertyName

section Routes

variable {i : Invocation} (h : i.WithoutTraceFile) (name : Text)
include h

/-- The option gives the text of the path that a text denotes. -/
theorem gives_withOption : Gives i (Path.parse name).text (i.withOption name) := by
  refine ⟨rfl, fun e => ?_⟩
  rw [(i.withOption name).params_spec.2, i.params_spec.2]
  cases e with
  | file => simp [optionValue?, Invocation.withOption, Options.orTraceFile, h.option_eq]
  | _ => rfl

/-- The property gives a text without the blanks around it. -/
theorem gives_withProperty : Gives i (Text.strip name) (i.withProperty name) := by
  have hnone : last? filePropertyName i.properties = none :=
    Fields.last?_eq_none_iff.2 h.properties
  have hother (e : Entry) (he : e ≠ .file) :
      propertyValue? (i.withProperty name).properties e = propertyValue? i.properties e := by
    have hname : e.property? ≠ some filePropertyName := by
      revert he
      cases e <;> decide
    rw [propertyValue?, propertyValue?]
    cases hproperty : e.property? with
    | none => rfl
    | some n =>
      have hne : filePropertyName ≠ n := fun heq => hname (hproperty.trans (heq ▸ rfl))
      simp [Invocation.withProperty, Fields.last?_cons, hne]
  have hlast : last? filePropertyName (i.withProperty name).properties = some name := by
    rw [Invocation.withProperty, Fields.last?_cons, hnone]
    rfl
  have hoption : optionValue? (i.withProperty name).options .file = none :=
    congrArg (Option.map _) h.option_eq
  have hproperty : propertyValue? (i.withProperty name).properties .file =
      some (.text (Text.strip name)) :=
    congrArg (Option.map (Entry.ofProperty .file)) hlast
  refine ⟨rfl, fun e => ?_⟩
  rw [(i.withProperty name).params_spec.2, i.params_spec.2]
  by_cases he : e = .file
  · rw [he, hoption, hproperty, if_pos rfl, Option.none_or]
  · rw [hother e he, if_neg he]
    rfl

end Routes

/-- The path that a text names when it is given as an option: it is read as a path before the
blanks around it are removed. -/
def optionPath? (name : Text) : Option Path := (pathOfText (Path.parse name).text).toOption

/-- The path that a text names when it is given as a property. -/
def propertyPath? (name : Text) : Option Path := (pathOfText name).toOption

/-- Two results of loading settings: the same settings, or settings that are invalid in both, or the
same other error. -/
inductive SameOutcome : Except LoadError Settings → Except LoadError Settings → Prop where
  /-- The results are the same. -/
  | refl (r : Except LoadError Settings) : SameOutcome r r
  /-- Both settings are invalid. -/
  | invalid (first first' : Issue) (others others' : List Issue) :
    SameOutcome (.error (.invalid first others)) (.error (.invalid first' others'))

section Loading

variable {host : Host} {env : Environment} {files : FileTree} {i j k : Invocation} {v w : Text}

/-- Texts for the trace file are looked at when the other sources are loaded, and a text that can be
read in the place of another one gives the same settings but for the trace file. -/
theorem Gives.settingsOf_cases (hj : Gives i v j) (hk : Gives i w k) (env : Environment)
    (files : FileTree) :
    (∃ e, settingsOf host env j files = .error e ∧ settingsOf host env k files = .error e) ∨
    ∃ c c', settingsOf host env j files = loaded c ∧ settingsOf host env k files = loaded c' ∧
      ∀ s, c = .valid s → readDestination (.text v) = .ok s.trace.file ∧
        ∀ d, readDestination (.text w) = .ok d → c' = .valid { s with trace.file := d } := by
  have hpath : k.settingsFile host env = j.settingsFile host env := by
    simp only [Invocation.settingsFile, hj.config_eq, hk.config_eq]
  simp only [settingsOf, hpath]
  cases hfile : j.settingsFile host env with
  | error e => exact .inl ⟨e, rfl, rfl⟩
  | ok path =>
    simp only [resolve]
    cases hlayer : bytesLayer (files.content? path) with
    | error e => exact .inl ⟨e, rfl, rfl⟩
    | ok file =>
      cases henv : env.layer with
      | error e => exact .inl ⟨e, rfl, rfl⟩
      | ok environment =>
        have hdistinct := Environment.distinct_layer henv
        obtain ⟨hfit, -⟩ := j.params_spec
        obtain ⟨hfit', -⟩ := k.params_spec
        have hdiffer := (hfit.differAt hfit' j.full_params k.full_params
          ((hj.value?_eq .file).trans (if_pos rfl)) ((hk.value?_eq .file).trans (if_pos rfl))
          fun e he => by rw [hj.value?_eq, hk.value?_eq, if_neg he, if_neg he])
        have hplain (s : Text) (fields : Fields Value) : Value.text s ≠ .object fields := by simp
        have hlayers := (hdiffer.above hfit.upper.toDistinct hfit'.upper.toDistinct (hplain v)
          (hplain w) environment).above (hfit.upper.toDistinct.above hdistinct)
          (hfit'.upper.toDistinct.above hdistinct) (hplain v) (hplain w) file
        exact .inr ⟨_, _, rfl, rfl, fun s hvalid => hlayers.check_eq_valid hvalid⟩

/-- Two texts have the same outcome when they lead to the same settings. -/
theorem sameOutcome_iff (hj : Gives i v j) (hk : Gives i w k) :
    SameOutcome (settingsOf host env j files) (settingsOf host env k files) ↔
      ∀ s, settingsOf host env j files = .ok s ↔ settingsOf host env k files = .ok s := by
  constructor
  · intro h s
    generalize settingsOf host env j files = r at h
    generalize settingsOf host env k files = r' at h
    cases h with
    | refl => rfl
    | invalid => exact ⟨nofun, nofun⟩
  · intro h
    rcases hj.settingsOf_cases hk env files with ⟨e, he, he'⟩ | ⟨c, c', hc, hc', -⟩
    · rw [he, he']
      exact .refl _
    · rw [hc, hc'] at h ⊢
      cases c with
      | valid s =>
        rw [(h s).1 rfl]
        exact .refl _
      | invalid first others =>
        cases c' with
        | valid s => exact absurd ((h s).2 rfl) nofun
        | invalid first' others' => exact .invalid ..

/-- A text is read as the path that it names as a property. -/
theorem readDestination_text_eq_ok_iff {name : Text} {p : Path} :
    readDestination (.text name) = .ok p ↔ propertyPath? name = some p := by
  rw [readDestination, propertyPath?]
  cases pathOfText name <;> simp [Except.toOption]

/-- Settings have the trace file that they are given, and other settings that are given one that can
be read have that one. -/
theorem Gives.settingsOf_ok (hj : Gives i v j) (hk : Gives i w k) {s : Settings}
    (h : settingsOf host env j files = .ok s) :
    propertyPath? v = some s.trace.file ∧
      ∀ p, propertyPath? w = some p →
        settingsOf host env k files = .ok { s with trace.file := p } := by
  rcases hj.settingsOf_cases hk env files with ⟨e, he, -⟩ | ⟨c, c', hc, hc', hvalid⟩
  · exact absurd (he.symm.trans h) nofun
  · obtain ⟨hread, hother⟩ := hvalid s (loaded_eq_ok_iff.1 (hc.symm.trans h))
    refine ⟨readDestination_text_eq_ok_iff.1 hread, fun p hp => ?_⟩
    rw [hc', loaded_eq_ok_iff]
    exact hother _ (readDestination_text_eq_ok_iff.2 hp)

/-- Two texts for the trace file have the same outcome exactly when they name the same path or none
at all, unless no text whatever would make the settings valid. -/
theorem Gives.sameOutcome_iff_path (h : i.WithoutTraceFile) (hj : Gives i v j)
    (hk : Gives i w k) :
    SameOutcome (settingsOf host env j files) (settingsOf host env k files) ↔
      propertyPath? v = propertyPath? w ∨
        ∀ name s, settingsOf host env (i.withOption name) files ≠ .ok s := by
  rw [sameOutcome_iff hj hk]
  constructor
  · intro hsame
    by_cases hsome : ∃ name s, settingsOf host env (i.withOption name) files = .ok s
    · obtain ⟨name, s, hs⟩ := hsome
      have hl := gives_withOption h name
      refine .inl (Option.ext fun p => ⟨fun hp => ?_, fun hp => ?_⟩)
      · have hok := (hsame _).1 ((hl.settingsOf_ok hj hs).2 p hp)
        exact (hk.settingsOf_ok hk hok).1
      · have hok := (hsame _).2 ((hl.settingsOf_ok hk hs).2 p hp)
        exact (hj.settingsOf_ok hj hok).1
    · exact .inr fun name s hs => hsome ⟨name, s, hs⟩
  · rintro (hpath | hnever) s
    · constructor
      · intro hs
        obtain ⟨hp, hother⟩ := hj.settingsOf_ok hk hs
        exact hother _ (hpath ▸ hp)
      · intro hs
        obtain ⟨hp, hother⟩ := hk.settingsOf_ok hj hs
        exact hother _ (hpath ▸ hp)
    · have hl := gives_withOption h [char 'x']
      have hpath : propertyPath? (Path.parse [char 'x']).text = some ⟨[], [[char 'x']]⟩ := by decide
      exact ⟨fun hs => absurd ((hj.settingsOf_ok hl hs).2 _ hpath) (hnever _ _),
        fun hs => absurd ((hk.settingsOf_ok hl hs).2 _ hpath) (hnever _ _)⟩

end Loading

/-- Blanks around a text do not matter to a property. -/
theorem propertyPath?_strip (name : Text) :
    propertyPath? (Text.strip name) = propertyPath? name := by
  rw [propertyPath?, pathOfText_strip, propertyPath?]

/-- The two routes name the same path for a text without blanks that is not empty. -/
theorem optionPath?_of_forall_not_isBlank {name : Text} (hne : name ≠ [])
    (h : ∀ c ∈ name, Text.isBlank c = false) : optionPath? name = propertyPath? name := by
  have htext : ∀ c ∈ (Path.parse name).text, Text.isBlank c = false := by
    intro c hc
    rcases Path.mem_text_parse hc with hc | rfl | rfl
    · exact h c hc
    · decide
    · decide
  have hnormal := Path.normal_parse name
  rw [optionPath?, pathOfText_of_forall_not_isBlank hnormal.text_ne_nil htext, hnormal.parse_text,
    propertyPath?, pathOfText_of_forall_not_isBlank hne h]

/-- A trace file that is given as an option, and the same text given as the property for it, have
the same outcome whatever the other sources are, exactly when the two routes name the same path or
none, unless the settings are not valid for another reason. They do for every text without blanks
but the empty one, which the option takes for the directory itself, and for every other text of
blanks alone, which neither accepts. -/
theorem option_and_property_for_trace_file {host : Host} {env : Environment} {words : List Text}
    {i : Invocation} (hparse : Invocation.parse env words = .ok i) (h : i.WithoutTraceFile)
    {name : Text} (hname : Path.trouble? name = none) (files : FileTree) :
    (Invocation.parse env ("--trace-file".toText :: name :: words) = .ok (i.withOption name) ∧
      Invocation.parse env ("-p".toText :: fileProperty name :: words) =
        .ok (i.withProperty name)) ∧
    (SameOutcome (settingsOf host env (i.withOption name) files)
        (settingsOf host env (i.withProperty name) files) ↔
      optionPath? name = propertyPath? name ∨
        ∀ other s, settingsOf host env (i.withOption other) files ≠ .ok s) ∧
    (name = [] → optionPath? name = some ⟨[], []⟩ ∧ propertyPath? name = none) ∧
    (name ≠ [] → (∀ c ∈ name, Text.isBlank c = true) →
      optionPath? name = none ∧ propertyPath? name = none) ∧
    (name ≠ [] → (∀ c ∈ name, Text.isBlank c = false) →
      optionPath? name = propertyPath? name) := by
  refine ⟨⟨parse_withOption hparse h.option_eq hname, parse_withProperty hparse name⟩, ?_, ?_,
    fun hne hblank => ?_, fun hne hplain => optionPath?_of_forall_not_isBlank hne hplain⟩
  · rw [Gives.sameOutcome_iff_path h (gives_withOption h name) (gives_withProperty h name),
      propertyPath?_strip]
    rfl
  · rintro rfl
    decide
  · rw [optionPath?, text_parse_of_forall_isBlank hne hblank, propertyPath?,
      pathOfText_of_forall_isBlank hblank]
    exact ⟨rfl, rfl⟩

/-- A text with blanks around it and a repeated slash, beside a variable for another entry. -/
theorem spaced_trace_file_on_both_routes :
    let host : Host := { home := some "/root".toText }
    let env : Environment := [("TRACER_TRACE__MOCK_VALUES".toText, "true".toText)]
    let words := ["settings".toText]
    let name := " logs//t.log ".toText
    let i : Invocation := ⟨{}, [], none, .settings⟩
    let s : Settings :=
      { trace := { file := ⟨[], ["logs".toText, "t.log".toText]⟩, mockValues := true } }
    Invocation.parse env words = .ok i ∧ i.WithoutTraceFile ∧ Path.trouble? name = none ∧
      SameOutcome (settingsOf host env (i.withOption name) {})
        (settingsOf host env (i.withProperty name) {}) ∧
      (settingsOf host env (i.withProperty name) {}).toOption = some s := by
  intro host env words name i s
  have hparse : Invocation.parse env words = .ok i := by rfl
  have hwithout : i.WithoutTraceFile := ⟨rfl, nofun⟩
  have hname : Path.trouble? name = none := by decide +kernel
  obtain ⟨-, hsame, -⟩ := option_and_property_for_trace_file hparse hwithout hname {}
  exact ⟨hparse, hwithout, hname, hsame.2 (.inl (by decide)), by decide +kernel⟩

/-- An empty text is a trace file as an option and none as a property. -/
theorem empty_trace_file_on_one_route :
    Path.trouble? [] = none ∧
    ∃ i j first others,
      Invocation.parse [] ["--trace-file".toText, [], "settings".toText] = .ok i ∧
      Invocation.parse [] ["-p".toText, "tracer.file=".toText, "settings".toText] = .ok j ∧
      settingsOf { home := some "/root".toText } [] i {} =
        .ok { trace := { file := ⟨[], []⟩ } } ∧
      settingsOf { home := some "/root".toText } [] j {} = .error (.invalid first others) ∧
      first.fault = .blankPath :=
  ⟨rfl, _, _, _, _, rfl, rfl, rfl, rfl, rfl⟩

end CommandLine

end WorkloadTrace
