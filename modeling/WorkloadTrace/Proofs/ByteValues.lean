import Mathlib.Data.List.Forall2
import WorkloadTrace.Proofs.CallArguments
import WorkloadTrace.Proofs.SessionTrail
import WorkloadTrace.Proofs.Utf8Reading

/-!
# Values given as bytes

A line contains the texts of values and nothing else of them: it stays the same when every value is
replaced by its text. The text of the UTF-8 bytes of a text is that text, so bytes may stand for
texts among the fields of a record, among the arguments of a line and in a clause. A text with a
surrogate has no UTF-8 bytes.
-/

namespace WorkloadTrace

namespace Value

/-- A value as it is, or the UTF-8 bytes of a text in its place. -/
inductive Encodes : Value → Value → Prop where
  /-- Any value stands for itself. -/
  | same (v : Value) : Encodes v v
  /-- Bytes stand for the text that they encode. -/
  | utf8 {s : Text} (h : Text.hasSurrogate s = false) : Encodes (.text s) (.bytes (Text.utf8 s))

/-- Bytes have the text that they encode. -/
theorem Encodes.traceText_eq {v w : Value} (h : Encodes v w) : w.traceText = v.traceText := by
  cases h with
  | same v => rfl
  | utf8 hlegible => rw [traceText_bytes, Text.ofUtf8Lossy_utf8 hlegible, traceText_text]

/-- Bytes have a text, as the text that they encode has. -/
theorem Encodes.trouble?_eq {v w : Value} (h : Encodes v w) (levels : Nat) :
    w.trouble? levels = v.trouble? levels := by
  cases h <;> rfl

@[simp] theorem escaped_text_traceText (v : Value) : escaped (.text v.traceText) = v.escaped := rfl

/-- The same names with the same values, or with bytes in place of texts. -/
def EncodesNamed {κ : Type} (f g : κ × Value) : Prop := f.1 = g.1 ∧ Encodes f.2 g.2

/-- Named values with their texts in place of the values. -/
def asTexts {κ : Type} (fields : List (κ × Value)) : List (κ × Value) :=
  fields.map fun f => (f.1, .text f.2.traceText)

theorem asTexts_eq_of_encodes {κ : Type} {fields fields' : List (κ × Value)}
    (h : List.Forall₂ EncodesNamed fields fields') : asTexts fields' = asTexts fields := by
  induction h with
  | nil => rfl
  | @cons f g _ _ hfield _ ih =>
    have hhead : (g.1, text g.2.traceText) = (f.1, text f.2.traceText) := by
      rw [← hfield.1, hfield.2.traceText_eq]
    exact congrArg₂ List.cons hhead ih

end Value

open Value (Encodes EncodesNamed asTexts)

/-- A clause contains the texts of the values of its fields. -/
theorem Predicate.clause_asTexts (flavor : Flavor) (fields : List (Value × Value)) :
    clause flavor (asTexts fields) = clause flavor fields := by
  have hfield (f : Value × Value) :
      ofField flavor f.1 (.text f.2.traceText) = ofField flavor f.1 f.2 := by
    simp only [ofField, ofKind, Value.escaped_text_traceText]
  simp only [clause, asTexts, List.map_map, Function.comp_def, hfield]

/-- A line contains the texts of its arguments. -/
theorem QueryLine.ofValues_eq_of_encodes {args args' : List Value}
    (h : List.Forall₂ Encodes args args') (verb : Verb) (clause : Text) :
    ofValues verb args' clause = ofValues verb args clause := by
  have htexts : args'.map Value.traceText = args.map Value.traceText := by
    induction h with
    | nil => rfl
    | cons hvalue _ ih => rw [List.map_cons, List.map_cons, hvalue.traceText_eq, ih]
  rw [ofValues, ofValues, htexts]

namespace Call

/-- The content of a plain record consists of the texts of its values. -/
theorem plainContent_asTexts (p : Profile) (values : Fields Value) :
    plainContent p (asTexts values) = plainContent p values := by
  simp only [plainContent, asTexts, List.flatMap_map, Value.traceText_text]

/-- The content of a record with metadata is the text of a value. -/
theorem metadataContent_asTexts (p : Profile) (values : Fields Value) :
    metadataContent p (asTexts values) = metadataContent p values := by
  simp only [metadataContent, asTexts, List.find?_map, Function.comp_def]
  cases values.find? fun f => FieldKind.parse? f.1 == some .data <;> rfl

theorem hasKind_asTexts (kind : FieldKind) (values : Fields Value) :
    hasKind kind (asTexts values) = hasKind kind values := by
  simp only [hasKind, asTexts, List.any_map, Function.comp_def]

theorem fieldsClause_asTexts (values : Fields Value) (ttl : Value) :
    fieldsClause (asTexts values) ttl = fieldsClause values ttl := by
  have hclause : Predicate.clause .set ((asTexts values).map fun f => (.text f.1, f.2)) =
      Predicate.clause .set (values.map fun f => (.text f.1, f.2)) := by
    rw [← Predicate.clause_asTexts, ← Predicate.clause_asTexts .set (values.map _)]
    simp only [asTexts, List.map_map, Function.comp_def, Value.traceText_text]
  simp only [fieldsClause, hclause, hasKind_asTexts]

/-- A record is written by its names and the texts of its values. -/
theorem putLine_asTexts (p : Profile) (key : Text) (values : Fields Value) (ttl : Value) :
    putLine p key (asTexts values) ttl = putLine p key values ttl := by
  simp only [putLine, plainContent_asTexts, metadataContent_asTexts, fieldsClause_asTexts]

theorem putLine_eq_of_encodes {values values' : Fields Value}
    (h : List.Forall₂ EncodesNamed values values') (p : Profile) (key : Text) (ttl : Value) :
    putLine p key values' ttl = putLine p key values ttl := by
  rw [← putLine_asTexts, Value.asTexts_eq_of_encodes h, putLine_asTexts]

/-- Fields are looked at alike when bytes stand for texts, whatever is looked for. -/
theorem findSome?_eq_of_encodes {values values' : Fields Value}
    (h : List.Forall₂ EncodesNamed values values') (look : Text × Value → Option Trouble)
    (hlook : ∀ {f g}, EncodesNamed f g → look g = look f) :
    values'.findSome? look = values.findSome? look := by
  induction h with
  | nil => rfl
  | cons hfield _ ih => rw [List.findSome?_cons, List.findSome?_cons, hlook hfield, ih]

/-- A record whose values are given as bytes raises what it raises for the texts. -/
theorem putTrouble?_eq_of_encodes {values values' : Fields Value}
    (h : List.Forall₂ EncodesNamed values values') (p : Profile) (key ttl : Value) :
    putTrouble? p key values' ttl = putTrouble? p key values ttl := by
  have hpredicates := findSome?_eq_of_encodes h
    (fun f => Predicate.trouble? p.levels (FieldKind.parse? f.1) f.2) fun hfield => by
      simp only [Predicate.trouble?, hfield.1, hfield.2.trouble?_eq]
  have hcontents := findSome?_eq_of_encodes h (fun f => f.2.trouble? p.levels)
    fun hfield => hfield.2.trouble?_eq p.levels
  have hkind : hasKind .ttl values' = hasKind .ttl values := by
    rw [← hasKind_asTexts, Value.asTexts_eq_of_encodes h, hasKind_asTexts]
  simp only [putTrouble?, hpredicates, hcontents, hkind]

end Call

namespace Session

variable {σ : Type}

/-- Whatever values of a record are given as the UTF-8 bytes of texts, an insertion, an update and
an insertion with an expiry write the line that they write for the texts, which they do if all
values have texts. So does a verb with such arguments, and the clause of such fields is the same. -/
theorem bytes_written_as_texts {s : Session σ} {client : Int}
    (hclient : s.hasClient client = true) {values values' : Fields Value}
    (hvalues : List.Forall₂ EncodesNamed values values') {args args' : List Value}
    (hargs : List.Forall₂ Encodes args args') {fields fields' : List (Value × Value)}
    (hfields : List.Forall₂ EncodesNamed fields fields') :
    (∀ key ttl c c', Call.Puts key values ttl c → Call.Puts key values' ttl c' →
      s.WriteAlike client c s client c' ∧
        ((∀ f ∈ values, f.2.trouble? s.levels = none) → ttl.trouble? s.levels = none →
          ∃ line, s.lineOf (.call client c) = some line)) ∧
    (∀ verb clause, (QueryLine.ofValues verb args' clause).render =
      (QueryLine.ofValues verb args clause).render) ∧
    ∀ flavor, Predicate.clause flavor fields' = Predicate.clause flavor fields := by
  refine ⟨fun key ttl c c' hc hc' => ⟨?_, fun hshown httl => ?_⟩, fun verb clause => ?_,
    fun flavor => ?_⟩
  · refine writeAlike_of_line?_eq hclient hclient ?_
    rw [Call.line?, Call.line?, hc.trouble?_eq, hc'.trouble?_eq, hc.wording_eq, hc'.wording_eq,
      Call.putTrouble?_eq_of_encodes hvalues, Call.putLine_eq_of_encodes hvalues]
  · exact ⟨_, lineOf_call hclient (hc.line?_eq hshown httl)⟩
  · rw [QueryLine.ofValues_eq_of_encodes hargs]
  · rw [← Predicate.clause_asTexts, Value.asTexts_eq_of_encodes hfields, Predicate.clause_asTexts]

/-- Characters of one to four bytes at the ends of their ranges, one value of a record given as
bytes and the other one as text. -/
theorem byte_value_of_key7 :
    let wide : Text :=
      [0x7F, 0x80, 0x7FF, 0x800, 0xD7FF, 0xE000, 0xFFFF, 0x10000, 0x10FFFF].map CodePoint.ofNat
    let values : Fields Value := [("SRC".toText, .text wide), ("Data".toText, .text "é".toText)]
    let values' : Fields Value :=
      [("SRC".toText, .bytes (Text.utf8 wide)), ("Data".toText, .text "é".toText)]
    let fields : List (Value × Value) := [(.text "USR".toText, .text wide)]
    let fields' : List (Value × Value) := [(.text "USR".toText, .bytes (Text.utf8 wide))]
    (withOneClient.hasClient 0 = true ∧ List.Forall₂ EncodesNamed values values' ∧
      List.Forall₂ Encodes [.text wide, .null] [.bytes (Text.utf8 wide), .null] ∧
      List.Forall₂ EncodesNamed fields fields' ∧ (Text.utf8 wide).length = 25) ∧
    (withOneClient.WriteAlike 0 (.insert .null (.text "key7".toText) values) withOneClient 0
        (.insert .null (.text "key7".toText) values') ∧
      ∃ line, withOneClient.lineOf (.call 0 (.insert .null (.text "key7".toText) values)) =
        some line) ∧
    (QueryLine.ofValues .scan [.bytes (Text.utf8 wide), .null] []).render =
      (QueryLine.ofValues .scan [.text wide, .null] []).render ∧
    Predicate.clause .condition fields' = Predicate.clause .condition fields := by
  intro wide values values' fields fields'
  have hclient : withOneClient.hasClient 0 = true := by decide
  have hlegible : Text.hasSurrogate wide = false := by decide
  have hvalues : List.Forall₂ EncodesNamed values values' :=
    .cons ⟨rfl, .utf8 hlegible⟩ (.cons ⟨rfl, .same _⟩ .nil)
  have hargs : List.Forall₂ Encodes [.text wide, .null] [.bytes (Text.utf8 wide), .null] :=
    .cons (.utf8 hlegible) (.cons (.same _) .nil)
  have hfields : List.Forall₂ EncodesNamed fields fields' := .cons ⟨rfl, .utf8 hlegible⟩ .nil
  obtain ⟨hputs, hline, hclause⟩ := bytes_written_as_texts hclient hvalues hargs hfields
  obtain ⟨halike, hwrites⟩ := hputs "key7".toText .null _ _ (.insert .null) (.insert .null)
  exact ⟨⟨hclient, hvalues, hargs, hfields, by decide⟩, ⟨halike, hwrites (by decide) rfl⟩,
    hline .scan [], hclause .condition⟩

end Session

end WorkloadTrace
