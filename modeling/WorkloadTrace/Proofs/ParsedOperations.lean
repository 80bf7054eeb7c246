import WorkloadTrace.Proofs.JsonGrammar
import WorkloadTrace.Proofs.Overlays
import WorkloadTrace.Proofs.RecordedCalls
import WorkloadTrace.Proofs.RejectionMessages

/-!
# Parsed operations

A text is parsed as an operation exactly when it is a JSON object in which each entry of the
operation is given or has a default, and which has no other entry. Written back with all its
entries, the operation is parsed again from whatever form is chosen; a text that is not parsed has
a first issue, which is the one that a replayed line is rejected for.
-/

namespace WorkloadTrace

namespace Tag

/-- A tag is read from its word only. -/
theorem parse?_eq_some_iff {s : Text} {t : Tag} : parse? s = some t ↔ s = t.word := by
  constructor
  · intro h
    have hword : decide (t.word = s) = true := List.find?_some (p := fun t : Tag => t.word = s) h
    exact (of_decide_eq_true hword).symm
  · rintro rfl
    exact parse?_word t

end Tag

namespace Lenient

variable {v : Value}

/-- Only texts are read as texts. -/
theorem text_eq_ok_iff {s : Text} : text v = .ok s ↔ v = .text s := by
  cases v <;> simp [text]

/-- Where a text must not be empty, only the others are. -/
theorem someText_eq_ok_iff {s : Text} : someText v = .ok s ↔ v = .text s ∧ s ≠ [] := by
  unfold someText
  rw [bind_eq_ok_iff]
  simp only [text_eq_ok_iff]
  constructor
  · rintro ⟨s', rfl, h⟩
    cases s' with
    | nil => cases h
    | cons c cs =>
      obtain rfl := Except.ok.inj h
      exact ⟨rfl, by simp⟩
  · rintro ⟨rfl, hs⟩
    obtain ⟨c, cs, rfl⟩ := List.exists_cons_of_ne_nil hs
    exact ⟨_, rfl, rfl⟩

/-- A natural number is read where an integer is that is not negative. -/
theorem natural_eq_ok_iff {n : Nat} : natural v = .ok n ↔ integer v = .ok (n : Int) := by
  unfold natural
  rw [bind_eq_ok_iff]
  constructor
  · rintro ⟨m, hm, h⟩
    split at h
    · cases h
    · next hnot =>
      obtain rfl := Except.ok.inj h
      rw [hm, Int.toNat_of_nonneg (Int.not_lt.1 hnot)]
  · intro h
    refine ⟨n, h, ?_⟩
    rw [if_neg (Int.not_lt.2 (Int.natCast_nonneg n))]
    rfl

end Lenient

namespace Checked

variable {α β : Type}

/-- What is read is valid when it is read without fault. -/
theorem ofExcept_eq_valid_iff {path : List Text} {x : Except Fault α} {a : α} :
    ofExcept path x = .valid a ↔ x = .ok a := by
  cases x <;> simp [ofExcept, fail]

/-- There is a result exactly when it is valid. -/
theorem toOption_eq_some_iff {x : Checked α} {a : α} : x.toOption = some a ↔ x = valid a := by
  cases x <;> simp [toOption]

/-- What holds of a function's values holds of the checked ones. -/
theorem forall_map {f : α → β} {x : Checked α} {P : β → Prop} (h : ∀ a, P (f a)) :
    ∀ b, f <$> x = valid b → P b := by
  intro b hb
  obtain ⟨a, -, rfl⟩ := map_eq_valid_iff.1 hb
  exact h a

/-- What holds of all that a function gives holds of all that an application gives. -/
theorem forall_seq {f : Checked (α → β)} {x : Checked α} {P : β → Prop}
    (h : ∀ g, f = valid g → ∀ a, P (g a)) : ∀ b, f <*> x = valid b → P b := by
  intro b hb
  obtain ⟨g, hg, a, -, rfl⟩ := seq_eq_valid_iff.1 hb
  exact h g hg a

end Checked

namespace Operation

open Fields (names last? ofPairs get?_ofPairs mem_names_iff mem_names_ofPairs)

/-- What gives an entry of an operation, the last entry of each name: a text is given as it stands,
a number by anything that is read as it, and field values by texts, of which again the last counts
for each name. The table and the field values have defaults. -/
inductive Gives (es : List (Text × Value)) : Text × Value → Prop where
  /-- A text is given. -/
  | text {name s : Text} (h : last? name es = some (.text s)) : Gives es (name, .text s)
  /-- No table is given. -/
  | noTable (h : last? tableName es = none) : Gives es (tableName, .text defaultTable)
  /-- Something is given that is read as a number which is not negative. -/
  | number {name : Text} {v : Value} {n : Int} (h : last? name es = some v)
    (hv : Lenient.integer v = .ok n) (hn : 0 ≤ n) : Gives es (name, .int n)
  /-- Field values are given. -/
  | values {pairs : Fields Text} (h : last? valuesName es = some (.object (valuesOf pairs))) :
    Gives es (valuesName, .object (valuesOf (ofPairs pairs)))
  /-- No field values are given. -/
  | noValues (h : last? valuesName es = none) : Gives es (valuesName, .object [])

/-- Whether the entries of an object hold an operation: they give each of its entries and have no
others, and its arguments are what reading asks for. -/
structure Held (es : List (Text × Value)) (o : Operation) : Prop where
  /-- Each entry of the operation is given. -/
  gives : ∀ e ∈ o.entries, Gives es e
  /-- No other entry is given. -/
  closed : ∀ name ∈ names es, name ∈ names o.entries
  /-- The arguments are acceptable. -/
  acceptable : o.IsAcceptable

/-- Whether no number of an operation has more digits than an integer of a document can have. -/
def NumeralsFit (o : Operation) : Prop :=
  ∀ e ∈ o.entries, ∀ n : Nat, e.2 = .int n → (Decimal.ofNat n).length ≤ Json.maxIntegerDigits

section Entries

variable {es : List (Text × Value)} {path : List Text} {name s : Text}

/-- A text is given to an entry when the last value under its name is that text. -/
theorem gives_text_iff (h : name ≠ tableName) :
    Gives es (name, .text s) ↔ last? name es = some (.text s) := by
  constructor
  · intro hgives
    cases hgives with
    | text hlast => exact hlast
    | noTable => exact absurd rfl h
  · exact .text

/-- The table may be left out, which gives the usual one. -/
theorem gives_table_iff : Gives es (tableName, .text s) ↔
    last? tableName es = some (.text s) ∨ last? tableName es = none ∧ s = defaultTable := by
  constructor
  · intro hgives
    cases hgives with
    | text hlast => exact .inl hlast
    | noTable hlast => exact .inr ⟨hlast, rfl⟩
  · rintro (hlast | ⟨hlast, rfl⟩)
    · exact .text hlast
    · exact .noTable hlast

/-- A number is given when the last value can be read as it and it is not negative. -/
theorem gives_number_iff {n : Int} : Gives es (name, .int n) ↔
    ∃ v, last? name es = some v ∧ Lenient.integer v = .ok n ∧ 0 ≤ n := by
  constructor
  · intro hgives
    cases hgives with
    | number hlast hv hn => exact ⟨_, hlast, hv, hn⟩
  · rintro ⟨v, hlast, hv, hn⟩
    exact .number hlast hv hn

/-- Values are given by the last object under their name, or are none if there is none. -/
theorem gives_values_iff {vs : Fields Value} : Gives es (valuesName, .object vs) ↔
    (∃ pairs, last? valuesName es = some (.object (valuesOf pairs)) ∧
      vs = valuesOf (ofPairs pairs)) ∨ last? valuesName es = none ∧ vs = [] := by
  constructor
  · intro hgives
    cases hgives with
    | values hlast => exact .inl ⟨_, hlast, rfl⟩
    | noValues hlast => exact .inr ⟨hlast, rfl⟩
  · rintro (⟨pairs, hlast, rfl⟩ | ⟨hlast, rfl⟩)
    · exact .values hlast
    · exact .noValues hlast

/-- A required entry is valid when the last value under its name can be read. -/
theorem required_eq_valid_iff {α : Type} {read : Value → Except Fault α} {a : α} :
    Entries.required path (ofPairs es) name read = .valid a ↔
      ∃ v, last? name es = some v ∧ read v = .ok a := by
  rw [Entries.required, get?_ofPairs]
  cases last? name es with
  | none => simp [Checked.fail]
  | some v => simp [Checked.ofExcept_eq_valid_iff]

/-- A required text is valid as what is given. -/
theorem required_text_iff (h : name ≠ tableName) :
    Entries.required path (ofPairs es) name Lenient.text = .valid s ↔
      Gives es (name, .text s) := by
  rw [required_eq_valid_iff, gives_text_iff h]
  simp [Lenient.text_eq_ok_iff]

/-- So is one that must not be empty. -/
theorem required_someText_iff (h : name ≠ tableName) :
    Entries.required path (ofPairs es) name Lenient.someText = .valid s ↔
      Gives es (name, .text s) ∧ s ≠ [] := by
  rw [required_eq_valid_iff, gives_text_iff h]
  simp [Lenient.someText_eq_ok_iff]

/-- So is a required natural number. -/
theorem required_natural_iff {n : Nat} :
    Entries.required path (ofPairs es) name Lenient.natural = .valid n ↔
      Gives es (name, .int n) := by
  rw [required_eq_valid_iff, gives_number_iff]
  simp [Lenient.natural_eq_ok_iff]

/-- So is the table, which is not required. -/
theorem optional_table_iff :
    Entries.optional path (ofPairs es) tableName defaultTable Lenient.text = .valid s ↔
      Gives es (tableName, .text s) := by
  rw [gives_table_iff]
  rw [Entries.optional, get?_ofPairs]
  cases last? tableName es with
  | none => simp [eq_comm]
  | some v => simp [Checked.ofExcept_eq_valid_iff, Lenient.text_eq_ok_iff]

/-- Field values are read when all of them are texts. -/
theorem all_checkValue_eq_valid_iff {es : List (Text × Value)} {pairs : Fields Text} :
    Checked.all (checkValue path) es = .valid pairs ↔ es = valuesOf pairs := by
  constructor
  · intro h
    induction es generalizing pairs with
    | nil =>
      obtain rfl := Checked.valid.inj h
      rfl
    | cons e es ih =>
      obtain ⟨append, hfirst, rest, hrest, rfl⟩ := Checked.seq_eq_valid_iff.1 h
      obtain ⟨pair, hpair, rfl⟩ := Checked.map_eq_valid_iff.1 hfirst
      obtain ⟨s, hs, rfl⟩ := Checked.map_eq_valid_iff.1 hpair
      have he : e.2 = .text s := Lenient.text_eq_ok_iff.1 (Checked.ofExcept_eq_valid_iff.1 hs)
      rw [ih hrest, ← Prod.eta e, he]
      rfl
  · rintro rfl
    exact all_checkValue_valuesOf path pairs

/-- Texts under names are determined by their values. -/
theorem valuesOf_injective : Function.Injective valuesOf := by
  intro values values' h
  have hvalid := all_checkValue_valuesOf [] values
  rw [h, all_checkValue_valuesOf] at hvalid
  exact (Checked.valid.inj hvalid).symm

/-- Values are valid when all of them are texts, and then no name is there twice. -/
theorem checkValues_eq_valid_iff {values : Fields Text} :
    checkValues path (ofPairs es) = .valid values ↔
      Gives es (valuesName, .object (valuesOf values)) ∧ (names values).Nodup := by
  rw [gives_values_iff, checkValues, get?_ofPairs]
  constructor
  · intro h
    split at h
    · next hlast =>
      obtain rfl := Checked.valid.inj h
      exact ⟨.inr ⟨hlast, rfl⟩, List.nodup_nil⟩
    · next es hlast =>
      obtain ⟨pairs, hpairs, rfl⟩ := Checked.map_eq_valid_iff.1 h
      obtain rfl := all_checkValue_eq_valid_iff.1 hpairs
      exact ⟨.inl ⟨pairs, hlast, rfl⟩, Fields.nodup_names_ofPairs pairs⟩
    · cases h
  · rintro ⟨⟨pairs, hlast, hvalues⟩ | ⟨hlast, hvalues⟩, -⟩
    · rw [hlast, valuesOf_injective hvalues]
      exact Checked.map_eq_valid_iff.2 ⟨pairs, all_checkValue_valuesOf _ pairs, rfl⟩
    · rw [hlast, List.map_eq_nil_iff.1 hvalues]

end Entries

section Operations

variable {es : List (Text × Value)} {o : Operation}

/-- A tag is valid when the last value for it is the word of the tag. -/
theorem checkTag_eq_valid_iff {tag : Tag} :
    checkTag (ofPairs es) = .valid tag ↔ last? opName es = some (.text tag.word) := by
  rw [checkTag, get?_ofPairs]
  split
  · next hlast => simp [hlast, Checked.fail]
  · next s hlast =>
    rw [hlast, Option.some.injEq, Value.text.injEq, ← Tag.parse?_eq_some_iff]
    cases Tag.parse? s <;> simp [Checked.fail]
  · next v hnot hlast => simpa [hlast, Checked.fail] using hnot tag.word

/-- What is read for a tag is an operation with that tag. -/
theorem tag_of_checkEntries {tag : Tag} :
    ∀ o, checkEntries tag (ofPairs es) = .valid o → o.tag = tag := by
  cases tag
  all_goals
    unfold checkEntries
    repeat refine Checked.forall_seq ?_
    refine Checked.forall_map ?_
    intros
    rfl

/-- The names of an operation are those of the table, of the tag and of its own entries. -/
theorem mem_names_entries {name : Text} :
    name ∈ names o.entries ↔ name ∈ tableName :: opName :: entryNames o.tag := by
  cases o <;>
    simp [entries, entriesAround, entriesAround.conditionEntries, entryNames, tag, names,
      valuesName] <;>
    grind

/-- The entries of an operation, the tag apart, are read from those that give them. -/
theorem checkEntries_eq_valid_iff : checkEntries o.tag (ofPairs es) = .valid o ↔
    (Gives es (tableName, .text o.table) ∧
      ∀ e ∈ o.entriesAround.1 ++ o.entriesAround.2, Gives es e) ∧ o.IsAcceptable := by
  cases o <;>
    simp (disch := decide) [checkEntries, Checked.seq_eq_valid_iff, Checked.map_eq_valid_iff, tag,
      IsAcceptable, optional_table_iff, required_text_iff, required_someText_iff,
      required_natural_iff, checkValues_eq_valid_iff, entriesAround,
      entriesAround.conditionEntries, table, valuesName] <;>
    grind

/-- The entries of an object hold an operation exactly when it is read from them. -/
theorem ofEntries_eq_valid_iff_held : ofEntries (ofPairs es) = .valid o ↔ Held es o := by
  have hentries : (∀ e ∈ o.entries, Gives es e) ↔ last? opName es = some (.text o.tag.word) ∧
      Gives es (tableName, .text o.table) ∧
        ∀ e ∈ o.entriesAround.1 ++ o.entriesAround.2, Gives es e := by
    rw [← gives_text_iff (by decide)]
    simp only [entries, List.cons_append, List.forall_mem_cons, List.forall_mem_append]
    grind
  rw [ofEntries_eq_valid_iff]
  constructor
  · rintro ⟨tag, htag, hread, hclosed⟩
    obtain rfl := tag_of_checkEntries o hread
    obtain ⟨hgives, hacceptable⟩ := checkEntries_eq_valid_iff.1 hread
    exact ⟨hentries.2 ⟨checkTag_eq_valid_iff.1 htag, hgives⟩,
      fun name hname => mem_names_entries.2 (hclosed name (mem_names_ofPairs.2 hname)), hacceptable⟩
  · rintro ⟨hgives, hclosed, hacceptable⟩
    obtain ⟨htag, hgives⟩ := hentries.1 hgives
    exact ⟨o.tag, checkTag_eq_valid_iff.2 htag, checkEntries_eq_valid_iff.2 ⟨hgives, hacceptable⟩,
      fun name hname => mem_names_entries.1 (hclosed name (mem_names_ofPairs.1 hname))⟩

/-- The names of entries are declared, so they have no surrogates. -/
theorem legible_names (o : Operation) : ∀ e ∈ o.entries, Json.Legible true e.1 := by
  cases o <;>
    simp [entries, entriesAround, entriesAround.conditionEntries, tableName, opName,
      Json.legible_toText]

/-- The text of an entry that is written has no surrogate. -/
theorem legible_of_last? {t name s : Text} (hform : Json.ObjectForm true Json.Written es t)
    (hlast : last? name es = some (.text s)) : Json.Legible true s := by
  obtain ⟨-, u, hu⟩ := hform.forall_mem (name, .text s) (Fields.mem_of_last? hlast)
  exact Json.legible_of_hasSurrogate true hu.hasSurrogate_text

/-- Neither have the field values that are written. -/
theorem legible_values {t : Text} {pairs : Fields Text}
    (hform : Json.ObjectForm true Json.Written es t)
    (hlast : last? valuesName es = some (.object (valuesOf pairs))) :
    ∀ f ∈ ofPairs pairs, Json.Legible true f.1 ∧ Json.Legible true f.2 := by
  intro f hf
  obtain ⟨-, u, hu⟩ := hform.forall_mem (valuesName, .object _) (Fields.mem_of_last? hlast)
  have hmem : (f.1, Value.text f.2) ∈ valuesOf pairs :=
    List.mem_map.2 ⟨f, (Fields.mem_setAll hf).resolve_left List.not_mem_nil, rfl⟩
  obtain ⟨hname, u', hvalue⟩ := hu.objectForm.forall_mem _ hmem
  exact ⟨Json.legible_of_hasSurrogate true hname,
    Json.legible_of_hasSurrogate true hvalue.hasSurrogate_text⟩

/-- The values of an operation that written entries hold are texts without surrogates, natural
numbers and field values. -/
theorem Held.plain (h : Held es o) {t : Text} (hform : Json.ObjectForm true Json.Written es t)
    (hnumerals : o.NumeralsFit) (depth : Nat) :
    Json.Plain true (depth + 2) (.object o.entries) := by
  refine .object o.legible_names fun e he => ?_
  cases h.gives e he with
  | text hlast => exact .text _ (legible_of_last? hform hlast)
  | noTable hlast => exact .text _ (Json.legible_toText true _)
  | number hlast hv hn =>
    obtain ⟨n, rfl⟩ := Int.eq_ofNat_of_zero_le hn
    exact .natural _ (hnumerals _ he n rfl)
  | values hlast => exact Json.plain_texts depth (legible_values hform hlast)
  | noValues hlast => exact Json.plain_texts depth (List.forall_mem_nil _)

/-- An operation whose numbers are not too long is written in a form of its entries. -/
theorem Held.form_encode (h : Held es o) {t : Text}
    (hform : Json.ObjectForm true Json.Written es t) (hnumerals : o.NumeralsFit) :
    Json.Form true Json.Rules.strict.maxDepth (.object o.entries) o.encode :=
  Json.form_write Json.Separators.isBlank_spaced (h.plain hform hnumerals 198)

/-- The word of an operation is what its entries have for the tag. -/
theorem Held.tag_given (h : Held es o) : last? opName es = some (.text o.tag.word) :=
  (gives_text_iff (by decide)).1 (h.gives _ (by simp [entries]))

/-- No tag has the table among its own entries. -/
theorem tableName_not_mem_entryNames (tag : Tag) : tableName ∉ entryNames tag := by
  cases tag <;> decide

/-- Only the table and the field values need not be given. -/
theorem Held.required (h : Held es o) {name : Text} (hname : name ∈ entryNames o.tag)
    (hvalues : name ≠ valuesName) : name ∈ names es := by
  have htable : name ≠ tableName := by
    rintro rfl
    exact tableName_not_mem_entryNames o.tag hname
  have hentry : name ∈ names o.entries :=
    mem_names_entries.2 (List.mem_cons_of_mem _ (List.mem_cons_of_mem _ hname))
  obtain ⟨e, he, rfl⟩ := List.mem_map.1 hentry
  cases h.gives e he with
  | text hlast => exact mem_names_iff.2 ⟨_, hlast⟩
  | noTable hlast => exact absurd rfl htable
  | number hlast hv hn => exact mem_names_iff.2 ⟨_, hlast⟩
  | values hlast => exact absurd rfl hvalues
  | noValues hlast => exact absurd rfl hvalues

/-- No number of an operation is negative. -/
theorem Held.nonneg (h : Held es o) {e : Text × Value} (he : e ∈ o.entries) {n : Int}
    (hn : e.2 = .int n) : 0 ≤ n := by
  cases h.gives e he with
  | number hlast hv hnonneg => rwa [Value.int.inj hn] at hnonneg
  | _ => cases hn

end Operations

/-- A text without surrogates is parsed as an operation exactly when it is read as an object that
holds it. -/
theorem parse_eq_valid_iff {raw : Text} {o : Operation} : parse raw = .valid o ↔
    Text.hasSurrogate raw = false ∧ ∃ es, Json.read .strict raw = .ok (.object es) ∧ Held es o := by
  unfold parse
  cases hraw : Text.hasSurrogate raw with
  | true => simp [Checked.fail]
  | false =>
    cases Json.read .strict raw with
    | error r => simp [Checked.fail]
    | ok v =>
      cases v with
      | object es => simp [ofValue, ofEntries_eq_valid_iff_held]
      | _ => simp [ofValue, Checked.fail]

end Operation

/-- A line is rejected for the first issue of what is between its blanks. -/
theorem Replay.classify_of_invalid {line : Text} (hskipped : isSkipped line = false) {first : Issue}
    {others : List Issue} (h : Operation.parse (Text.strip line) = .invalid first others) :
    classify line = .rejected first := by
  rcases classify_cases line with ⟨-, hskip, -⟩ | ⟨o, -, -, ho⟩ | ⟨issue, hclass, -, -⟩
  · exact absurd hskip (by simp [hskipped])
  · simp [operation?, hskipped, h, Checked.toOption] at ho
  · obtain ⟨others', hparse⟩ := parse_of_classify hclass
    rw [hclass, (Checked.invalid.inj (hparse.symm.trans h)).1]

namespace Operation

open Fields (names last?)

/-- What is parsed as an operation is a JSON object between blanks that names the operation and
gives its entries and no others; keys, patterns of keys and starting keys are not empty, and numbers
are not negative. The words `NaN` and `Infinity` count as numbers of JSON, but give no entry. The
operation is parsed again from every form of its entries, one of which it is written in. What is
read as an object that holds an operation is parsed as it if it has no surrogate, and a text that is
not parsed has a first issue, for which a line with the text is rejected. -/
theorem parsing_sound_and_normalizing (raw : Text) :
    (∀ o, parse raw = .valid o →
      (∃ before es t behind, Json.Blanks before ∧ Json.ObjectForm true Json.Written es t ∧
        Json.Blanks behind ∧ raw = before ++ t ++ behind ∧
        last? opName es = some (.text o.tag.word) ∧
          (∀ name ∈ entryNames o.tag, name ≠ valuesName → name ∈ names es) ∧
          (∀ name ∈ names es, name ∈ tableName :: opName :: entryNames o.tag) ∧
          ∀ e ∈ o.entries, Gives es e) ∧
      o.IsAcceptable ∧ (∀ e ∈ o.entries, ∀ n : Int, e.2 = .int n → 0 ≤ n) ∧
      (∀ es t, o.entries.Perm es → Json.Form true Json.Rules.strict.maxDepth (.object es) t →
        parse t = .valid o) ∧
      (o.NumeralsFit → parse o.encode = .valid o)) ∧
    (∀ es o, Text.hasSurrogate raw = false → Json.read .strict raw = .ok (.object es) → Held es o →
      parse raw = .valid o) ∧
    ((∀ o, parse raw ≠ .valid o) → ∃ first others, (parse raw).issues = first :: others ∧
      ∀ line, Text.strip line = raw → Replay.isSkipped line = false →
        Replay.classify line = .rejected first) := by
  refine ⟨fun o h => ?_, fun es o hraw hread hheld => parse_eq_valid_iff.2 ⟨hraw, es, hread, hheld⟩,
    fun hnone => ?_⟩
  · obtain ⟨-, es, hread, hheld⟩ := parse_eq_valid_iff.1 h
    obtain ⟨before, t, behind, hbefore, ht, hbehind, rfl⟩ := Json.written_of_read rfl hread
    exact ⟨⟨before, es, t, behind, hbefore, ht.objectForm, hbehind, rfl, hheld.tag_given,
      fun name hname hvalues => hheld.required hname hvalues,
      fun name hname => mem_names_entries.1 (hheld.closed name hname), hheld.gives⟩,
      hheld.acceptable, fun e he n => hheld.nonneg he,
      fun es' u hperm hu => parse_of_form hheld.acceptable hperm hu,
      fun hnumerals => 
        parse_of_form hheld.acceptable (.refl _) (hheld.form_encode ht.objectForm hnumerals)⟩
  · cases hparse : parse raw with
    | valid o => exact absurd hparse (hnone o)
    | invalid first others =>
      refine ⟨first, others, rfl, fun line hline hskipped => ?_⟩
      exact Replay.classify_of_invalid hskipped (hline ▸ hparse)

/-- An expiring insertion without a table, its expiry a number in a text and one of its values given
twice, is parsed again as it is written; a line whose starting key is empty and whose count is
negative is rejected for the key. -/
theorem insertion_parsed_and_empty_startkey_rejected :
    let raw :=
      "\x7b\"ttl\": \" 7.0\", \"op\": \"insert_ttl\", \"key\": \"key42\", ".toText ++
      "\"values\": \x7b\"PUR\": \"a\", \"Data\": \"x\", \"PUR\": \"purpose1\"\x7d\x7d".toText
    let o := Operation.insertTtl defaultTable "key42".toText
      [("PUR".toText, "purpose1".toText), ("Data".toText, "x".toText)] 7
    let bad := "\x7b\"op\": \"scan\", \"startkey\": \"\", \"recordcount\": -1\x7d".toText
    parse raw = .valid o ∧ o.NumeralsFit ∧ parse o.encode = .valid o ∧
      (∀ o, parse bad ≠ .valid o) ∧
        Replay.classify (char ' ' :: bad) =
          .rejected ⟨["scan".toText, "startkey".toText], .emptyText⟩ := by
  intro raw o bad
  have hparse : parse raw = .valid o := Checked.toOption_eq_some_iff.1 (by decide +kernel)
  have hnumerals : o.NumeralsFit := by
    intro e he n hn
    obtain rfl : n = 7 := by
      simp only [o, entries, entriesAround, List.cons_append, List.nil_append, List.mem_cons,
        List.not_mem_nil, or_false] at he
      rcases he with rfl | rfl | rfl | rfl | rfl
      all_goals simp_all
      omega
    decide
  obtain ⟨-, -, -, -, hencode⟩ := (parsing_sound_and_normalizing raw).1 o hparse
  have hbad : (parse bad).issues.head? = some ⟨["scan".toText, "startkey".toText], .emptyText⟩ := by
    decide +kernel
  have hnone : ∀ o, parse bad ≠ .valid o := by
    intro o ho
    rw [ho] at hbad
    cases hbad
  obtain ⟨first, others, hissues, hline⟩ := (parsing_sound_and_normalizing bad).2.2 hnone
  obtain rfl : first = ⟨["scan".toText, "startkey".toText], .emptyText⟩ := by
    rw [hissues] at hbad
    exact Option.some.inj hbad
  exact ⟨hparse, hnumerals, hencode hnumerals, hnone,
    hline (char ' ' :: bad) (by decide +kernel) (by decide +kernel)⟩

end Operation

end WorkloadTrace
