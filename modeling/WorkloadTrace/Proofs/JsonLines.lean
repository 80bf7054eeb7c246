import Mathlib.Data.List.Nodup
import WorkloadTrace.Proofs.JsonReading
import WorkloadTrace.Proofs.LogBlocks
import WorkloadTrace.Proofs.OperationEntries
import WorkloadTrace.Proofs.Overlays
import WorkloadTrace.Proofs.PrintedLines

/-!
# JSON lines of a log

The JSON form of a log record is one line of printable ASCII, whatever characters its message, its
fields and its exception have, and it is read back as one object. The names of the object are the
four that every record has, then the other bound fields in the order of their binding, then
`exception` if there was one and no field has that name; each name stands once. The report of an
exception goes before a bound field of that name, and a bound field before what the record has
itself. What is read back is what was written, except that two surrogates which look like the halves
of a pair come back as the character that they mean.
-/

namespace WorkloadTrace

namespace Fields

variable {κ α : Type} [DecidableEq κ]

/-- Setting pairs adds the names that are new, in the order of the pairs. -/
theorem names_setAll (m : List (κ × α)) {pairs : List (κ × α)} (h : (names pairs).Nodup) :
    names (setAll m pairs) = names m ++ (names pairs).filter fun n => n ∉ names m := by
  induction pairs generalizing m with
  | nil => exact (List.append_nil _).symm
  | cons p rest ih =>
    obtain ⟨hp, hrest⟩ := List.nodup_cons.1 h
    have hset : setAll m (p :: rest) = setAll (set p.1 p.2 m) rest := rfl
    have hcons : names (p :: rest) = p.1 :: names rest := rfl
    rw [hset, ih _ hrest, names_set, hcons]
    split
    · next hm => rw [List.filter_cons_of_neg (by simpa using hm)]
    · next hm =>
      have hkept : (names rest).filter (fun n => n ∉ names m ++ [p.1]) =
          (names rest).filter fun n => n ∉ names m := by
        apply List.filter_congr
        intro n hn
        have hne : n ≠ p.1 := fun heq => hp (heq ▸ hn)
        simp [hne]
      rw [hkept, List.filter_cons_of_pos (by simpa using hm), List.append_assoc,
        List.singleton_append]

/-- Dropping names keeps the others distinct. -/
theorem nodup_names_eraseAll {m : List (κ × α)} (h : (names m).Nodup) (gone : List κ) :
    (names (eraseAll gone m)).Nodup :=
  h.sublist (List.filter_sublist.map Prod.fst)

end Fields

namespace Log

section Maps

/-- The bound fields are a map, and so are the fields that open blocks have saved. -/
structure BindsMaps (l : Log) : Prop where
  /-- No name is bound twice. -/
  context : (Fields.names l.context).Nodup
  /-- Nor was one when an open block was entered. -/
  saved : ∀ fields ∈ l.saved, (Fields.names fields).Nodup

variable {l : Log}

/-- Binding fields keeps names apart. -/
theorem BindsMaps.bind (h : l.BindsMaps) (values : Fields Value) : (bind values l).BindsMaps :=
  ⟨Fields.nodup_names_setAll h.context _, h.saved⟩

/-- Entering a block keeps the fields around it. -/
theorem BindsMaps.enter (h : l.BindsMaps) (values : Fields Value) : (enter values l).BindsMaps :=
  have hsaved : ∀ fields ∈ l.context :: l.saved, (Fields.names fields).Nodup :=
    List.forall_mem_cons.2 ⟨h.context, h.saved⟩
  BindsMaps.bind (l := { l with saved := l.context :: l.saved }) ⟨h.context, hsaved⟩ values

/-- Nothing changes when what binds fields raises. -/
theorem BindsMaps.bound (h : l.BindsMaps) (values : Fields Value) :
    (bound values l).1.BindsMaps := by
  unfold Log.bound
  split
  · exact h
  · exact h.bind values

/-- Nor does it when an entry raises. -/
theorem BindsMaps.entered (h : l.BindsMaps) (values : Fields Value) :
    (entered values l).1.BindsMaps := by
  unfold Log.entered
  split
  · exact h
  · exact h.enter values

/-- Leaving a block takes back fields that were saved. -/
theorem BindsMaps.exit (h : l.BindsMaps) : l.exit.BindsMaps := by
  obtain ⟨format, threshold, context, saved, levels⟩ := l
  cases saved with
  | nil => exact h
  | cons fields saved =>
    obtain ⟨hfields, hsaved⟩ := List.forall_mem_cons.1 h.saved
    exact ⟨hfields, hsaved⟩

/-- Every step keeps names apart. -/
theorem BindsMaps.step (h : l.BindsMaps) (time : Text) (s : Step) :
    (Log.step time l s).1.BindsMaps := by
  cases s with
  | configure level format service environment =>
    simp only [Log.step, configure]
    split
    · exact ⟨h.context, h.saved⟩
    · next threshold _ =>
      exact BindsMaps.bound (l := { l with threshold := threshold, format := some format })
        ⟨h.context, h.saved⟩ _
  | bind values => exact h.bound values
  | clear names =>
    refine ⟨?_, h.saved⟩
    simp only [Log.step, clear]
    split
    · exact List.nodup_nil
    · exact Fields.nodup_names_eraseAll h.context names
  | enter values => exact h.entered values
  | enterSession session file => exact h.entered _
  | exit => exact h.exit
  | log level logger template args => exact h
  | logException level logger message e => exact h

/-- Whatever steps lead to a state, no name is bound twice in it. -/
theorem bindsMaps_after (h : l.BindsMaps) (time : Text) (steps : List Step) :
    (after time l steps).BindsMaps := by
  induction steps generalizing l with
  | nil => exact h
  | cons s rest ih =>
    rw [after_cons]
    exact ih (h.step time s)

end Maps

namespace Record

/-- What a record has itself, in order. -/
def own (time : Text) (r : Record) : Fields Text :=
  [("timestamp".toText, time), ("level".toText, levelName r.level), ("logger".toText, r.logger),
    ("message".toText, r.message)]

/-- The names that every record has something for, in their order. -/
def ownNames : List Text :=
  ["timestamp".toText, "level".toText, "logger".toText, "message".toText]

/-- The name of the report of an exception. -/
def reportName : Text := "exception".toText

/-- The names of the JSON form in their order: those that every record has, the other bound ones,
and that of the report if there is one and no field has its name. -/
def lineNames (r : Record) : List Text :=
  ownNames ++ (Fields.names r.context).filter (fun n => n ∉ ownNames) ++
    if r.trouble.isSome ∧ reportName ∉ Fields.names r.context then [reportName] else []

/-- What the JSON form says for a name: the report of an exception goes first, then what is bound,
then what the record has itself. -/
def lineValue? (time : Text) (r : Record) (name : Text) : Option Text :=
  (if name = reportName then r.trouble else none).or
    ((Fields.get? name r.context).or (Fields.get? name (r.own time)))

variable {r : Record}

/-- The entries are those of the record and the bound ones, and then the report. -/
theorem entries_eq (time : Text) (r : Record) :
    r.entries time =
      match r.trouble with
      | some report => Fields.set reportName report (Fields.setAll (r.own time) r.context)
      | none => Fields.setAll (r.own time) r.context := rfl

theorem names_own (time : Text) (r : Record) : Fields.names (r.own time) = ownNames := rfl

/-- The names that every record has are distinct. -/
theorem nodup_ownNames : ownNames.Nodup := by decide

/-- The report has a name of its own. -/
theorem reportName_not_mem_ownNames : reportName ∉ ownNames := by decide

/-- The names of the entries are those of the line. -/
theorem names_entries (h : (Fields.names r.context).Nodup) (time : Text) :
    Fields.names (r.entries time) = r.lineNames := by
  have hbound : Fields.names (Fields.setAll (r.own time) r.context) =
      ownNames ++ (Fields.names r.context).filter (fun n => n ∉ ownNames) := by
    rw [Fields.names_setAll _ h, names_own]
    exact congrArg _ (List.filter_congr fun n _ => decide_eq_decide.2 Iff.rfl)
  have hreport : reportName ∈ ownNames ++ (Fields.names r.context).filter (fun n => n ∉ ownNames) ↔
      reportName ∈ Fields.names r.context := by
    rw [List.mem_append, List.mem_filter]
    simp [reportName_not_mem_ownNames]
  rw [entries_eq, lineNames]
  cases r.trouble with
  | none => simpa using hbound
  | some report =>
    simp only [Fields.names_set, hbound, hreport, Option.isSome_some, true_and]
    split <;> simp

/-- What the entries have for a name is what the line says for it. -/
theorem get?_entries (h : (Fields.names r.context).Nodup) (time : Text) (name : Text) :
    Fields.get? name (r.entries time) = r.lineValue? time name := by
  have hbound : Fields.get? name (Fields.setAll (r.own time) r.context) =
      (Fields.get? name r.context).or (Fields.get? name (r.own time)) := by
    rw [Fields.get?_setAll, Fields.last?_of_nodup h]
  rw [entries_eq, lineValue?]
  cases r.trouble with
  | none => simpa using hbound
  | some report =>
    by_cases hname : name = reportName
    · simp [hname]
    · simp only [Fields.get?_set_of_ne (Ne.symm hname), hbound, hname, if_false, Option.none_or]

/-- The names of a line are distinct. -/
theorem nodup_lineNames (h : (Fields.names r.context).Nodup) : r.lineNames.Nodup := by
  rw [← names_entries h [], entries_eq]
  have hbound := Fields.nodup_names_setAll (m := r.own []) nodup_ownNames r.context
  cases r.trouble with
  | none => exact hbound
  | some report => exact Fields.nodup_names_set hbound _ _

/-- Every entry is what the line says for its name. -/
theorem lineValue?_of_mem (h : (Fields.names r.context).Nodup) {time : Text} {e : Text × Text}
    (he : e ∈ r.entries time) : r.lineValue? time e.1 = some e.2 := by
  have hnodup : (Fields.names (r.entries time)).Nodup := by
    rw [names_entries h]
    exact nodup_lineNames h
  rw [← get?_entries h]
  exact (Fields.get?_eq_some_iff hnodup).2 he

/-- A JSON line is printable ASCII. -/
theorem ascii_json (time : Text) (r : Record) : Text.Ascii (r.json time) :=
  Json.ascii_write (by decide) (by decide)
    (.object (List.forall_mem_map.2 fun e _ => .text e.2))

/-- A JSON line stands alone on its line, which ends only where the line feed behind it is. -/
theorem linesBy_render_json {ends : CodePoint → Bool} (h : Text.EndsLines ends) (time : Text)
    (r : Record) : Text.linesBy ends (r.render .json time) = [r.json time] := by
  have hprintable : Text.Printable (r.json time) := (ascii_json time r).printable
  have hline : Text.OneLine ends (r.json time) := h.oneLine_of_printable hprintable
  exact Text.linesBy_append_cons hline h.lineFeed []

/-- The names that are read back are distinct when no two names of the line mean the same. -/
theorem nodup_joined_names_iff {entries : Fields Text} (hnames : Fields.names entries = r.lineNames)
    (hnodup : r.lineNames.Nodup) : (Fields.names (Json.joinedTexts entries)).Nodup ↔
      ∀ m ∈ r.lineNames, ∀ n ∈ r.lineNames, Json.joined m = Json.joined n → m = n := by
  have hjoined : Fields.names (Json.joinedTexts entries) = r.lineNames.map Json.joined := by
    rw [← hnames, Json.joinedTexts, Fields.names, Fields.names, List.map_map, List.map_map]
    rfl
  rw [hjoined]
  exact List.nodup_map_iff_inj_on hnodup

/-- A JSON line is printable ASCII on one line, and it is written of entries that have the names of
the line once each in their order, each with what the line says for it. Every reader reads it as the
object with these entries, in whose names and texts pairs of surrogates are joined. The names that
are read are distinct exactly when no two names of the line are joined to the same, and where no two
surrogates look like a pair the entries are read as they are. -/
theorem json_line_is_one_object (time : Text) {r : Record}
    (hcontext : (Fields.names r.context).Nodup) :
    Text.Ascii (r.json time) ∧
    (∀ ends, Text.EndsLines ends → Text.linesBy ends (r.render .json time) = [r.json time]) ∧
    ∃ entries : Fields Text,
      Fields.names entries = r.lineNames ∧ r.lineNames.Nodup ∧
      (∀ e ∈ entries, r.lineValue? time e.1 = some e.2) ∧
      (∀ rules : Json.Rules, 0 < rules.maxDepth →
        (rules.pairedSurrogates = true →
          ∀ e ∈ entries, Text.hasSurrogate e.1 = false ∧ Text.hasSurrogate e.2 = false) →
        Json.read rules (r.json time) =
          .ok (.object ((Json.joinedTexts entries).map fun e => (e.1, .text e.2)))) ∧
      ((Fields.names (Json.joinedTexts entries)).Nodup ↔
        ∀ m ∈ r.lineNames, ∀ n ∈ r.lineNames, Json.joined m = Json.joined n → m = n) ∧
      ((∀ e ∈ entries, Json.Legible false e.1 ∧ Json.Legible false e.2) →
        Json.joinedTexts entries = entries) := by
  have hlines : ∀ ends, Text.EndsLines ends →
      Text.linesBy ends (r.render .json time) = [r.json time] :=
    fun _ hends => r.linesBy_render_json hends time
  have hnames : Fields.names (r.entries time) = r.lineNames := names_entries hcontext time
  have hnodup : r.lineNames.Nodup := nodup_lineNames hcontext
  refine ⟨ascii_json time r, hlines, r.entries time, hnames, hnodup, ?_, ?_, ?_, ?_⟩
  · intro e he
    exact lineValue?_of_mem hcontext he
  · intro rules hdepth hwhole
    exact Json.read_write_texts hdepth Json.Separators.isBlank_compact hwhole
  · exact nodup_joined_names_iff hnames hnodup
  · exact Json.joinedTexts_eq_self

/-- A record in a state in which fields with the names of the level and of the report are bound,
with line breaks, quotes and characters of every width in its names and texts. -/
theorem json_line_of_bound_level :
    let bound : Fields Value :=
      [("exception".toText, .text "none\r".toText), ("level".toText, .int (-5)),
        ("a\x22\\\n".toText, .text "\t\x7f".toText)]
    let l := after "T".toText {} [.bind bound, .enter [("😀".toText, .bool true)]]
    let r : Record := ⟨30, "é".toText, "one\ntwo\x00".toText, l.context, some "KeyError: 1".toText⟩
    r.lineNames = ["timestamp".toText, "level".toText, "logger".toText, "message".toText,
      "exception".toText, "a\x22\\\n".toText, "😀".toText] ∧
    r.lineValue? "T".toText "exception".toText = some "KeyError: 1".toText ∧
    r.lineValue? "T".toText "level".toText = some "-5".toText ∧
    ∃ entries : Fields Text,
      Json.read .tolerant (r.json "T".toText) =
        .ok (.object ((Json.joinedTexts entries).map fun e => (e.1, .text e.2))) ∧
      Fields.names entries = r.lineNames := by
  intro bound l r
  have hempty : BindsMaps {} := ⟨List.nodup_nil, List.forall_mem_nil _⟩
  have hcontext : (Fields.names r.context).Nodup := (bindsMaps_after hempty _ _).context
  obtain ⟨-, -, entries, hnames, -, -, hread, -⟩ := json_line_is_one_object "T".toText hcontext
  exact ⟨by decide, by decide, by decide, entries, hread .tolerant (by decide) nofun, hnames⟩

/-- Two surrogates that look like the halves of a pair, one argument each, come back as the
character that they mean, and a bound name made of them comes back as the name that is this
character. -/
theorem halves_read_as_character :
    let halves : Text := [.surrogate 0x3d, .surrogate 0x600]
    let bound : Fields Text := [(halves, "1".toText), ("😀".toText, "2".toText)]
    let l : Log := { format := some .json, threshold := 20, context := bound }
    let r : Record := ⟨20, "tracer".toText, halves, bound, none⟩
    l.record? 20 "tracer".toText "%s%s".toText
      [.text [.surrogate 0x3d], .text [.surrogate 0x600]] none = some r ∧
    (Fields.names r.context).Nodup ∧ r.lineValue? "T".toText "message".toText = some halves ∧
    halves ≠ "😀".toText ∧
    Json.read .tolerant (r.json "T".toText) = .ok (.object [("timestamp".toText, .text "T".toText),
      ("level".toText, .text "INFO".toText), ("logger".toText, .text "tracer".toText),
      ("message".toText, .text "😀".toText), ("😀".toText, .text "1".toText),
      ("😀".toText, .text "2".toText)]) := by
  intro halves bound l r
  have hjoined : Json.joinedTexts (r.entries "T".toText) = [("timestamp".toText, "T".toText),
      ("level".toText, "INFO".toText), ("logger".toText, "tracer".toText),
      ("message".toText, "😀".toText), ("😀".toText, "1".toText), ("😀".toText, "2".toText)] := by
    decide +kernel
  have hlone : Json.Rules.tolerant.pairedSurrogates = true → ∀ e ∈ r.entries "T".toText,
      Text.hasSurrogate e.1 = false ∧ Text.hasSurrogate e.2 = false := nofun
  have hread := Json.read_write_texts (by decide : 0 < Json.Rules.tolerant.maxDepth)
    Json.Separators.isBlank_compact hlone
  rw [hjoined] at hread
  exact ⟨by decide +kernel, by decide, by decide, by decide, hread⟩

end Record

end Log

end WorkloadTrace
