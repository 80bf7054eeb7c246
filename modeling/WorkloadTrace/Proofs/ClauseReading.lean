import Mathlib.Data.List.Forall2
import WorkloadTrace.Proofs.RecordContext

/-!
# Reading clauses back

When no value contains the separator, the pieces of a clause are the predicates of its fields, one
for each field that is not content, in their order. A predicate with a value is read without
knowing the field: its name ends at the first opening parenthesis, and what stands from there to the
last closing one is the escaped value, whatever parentheses that has itself. The other predicates
are words of their own. So each piece tells which kind of field it comes from, and with which value.
-/

namespace WorkloadTrace

namespace Text

/-- Cuts at the last occurrence of a separator, if there is one. -/
def cutAtLast? (sep : CodePoint) (s : Text) : Option (Text × Text) :=
  (cutAt? sep s.reverse).map fun (rear, front) => (front.reverse, rear.reverse)

/-- The two sides of the last separator: the right one does not contain it. -/
theorem cutAtLast?_eq_some_iff {sep : CodePoint} {s a b : Text} :
    cutAtLast? sep s = some (a, b) ↔ sep ∉ b ∧ s = a ++ sep :: b := by
  simp only [cutAtLast?, Option.map_eq_some_iff, Prod.exists, cutAt?_eq_some_iff, Prod.mk.injEq]
  constructor
  · rintro ⟨rear, front, ⟨hrear, hs⟩, rfl, rfl⟩
    refine ⟨by simpa using hrear, ?_⟩
    rw [← List.reverse_reverse s, hs]
    simp
  · rintro ⟨hb, rfl⟩
    exact ⟨b.reverse, a.reverse, ⟨by simpa using hb, by simp⟩, by simp, by simp⟩

end Text

namespace FieldKind

/-- Whether the predicates of a kind show the value. -/
def showsValue : FieldKind → Bool
  | .declaration | .accessControl | .data => false
  | _ => true

/-- The kind whose predicates have a name in front of the value. -/
def ofPredicateName? (flavor : Flavor) (name : Text) : Option FieldKind :=
  all.find? fun k => k.shape flavor = .call name

/-- The names are found one by one, since no two kinds have the same. -/
theorem ofPredicateName?_eq_some_iff {flavor : Flavor} {name : Text} {k : FieldKind} :
    ofPredicateName? flavor name = some k ↔ k.shape flavor = .call name := by
  constructor
  · intro h
    have hfound := List.find?_some h
    exact of_decide_eq_true hfound
  · intro h
    cases flavor <;> cases k <;> cases h <;> decide

end FieldKind

namespace Predicate

variable {flavor : Flavor} {kind : Option FieldKind} {value : Value}

/-- Reads a predicate with a value: the kind that has the name in front of the first opening
parenthesis, and the text of which the escaped form stands between it and the last closing one. -/
def read? (flavor : Flavor) (piece : Text) : Option (FieldKind × Text) := do
  let (name, rest) ← Text.cutAt? (char '(') piece
  let (content, rear) ← Text.cutAtLast? (char ')') rest
  let kind ← FieldKind.ofPredicateName? flavor name
  let text ← Text.unescape? content
  if rear = [] then some (kind, text) else none

/-- A name with a value between parentheses is read as the kind with the name and the value. -/
theorem read?_render_call {name : Text} (hname : char '(' ∉ name) (s : Text) :
    read? flavor ((Shape.call name).render (Text.escape s)) =
      (FieldKind.ofPredicateName? flavor name).map fun k => (k, s) := by
  have hopen : Text.cutAt? (char '(') ((Shape.call name).render (Text.escape s)) =
      some (name, Text.escape s ++ [char ')']) :=
    Text.cutAt?_eq_some_iff.2 ⟨hname, by simp [Shape.render]⟩
  have hclose : Text.cutAtLast? (char ')') (Text.escape s ++ [char ')']) =
      some (Text.escape s, []) :=
    Text.cutAtLast?_eq_some_iff.2 ⟨List.not_mem_nil, rfl⟩
  simp only [read?, bind, hopen, hclose, Option.bind_some, Text.unescape?_escape, if_true]
  cases FieldKind.ofPredicateName? flavor name <;> rfl

theorem read?_of_not_mem {piece : Text} (h : char '(' ∉ piece) : read? flavor piece = none := by
  have hcut : Text.cutAt? (char '(') piece = none := by
    refine Option.eq_none_iff_forall_ne_some.2 fun (a, b) hab => h ?_
    rw [(Text.cutAt?_eq_some_iff.1 hab).2]
    simp
  simp only [read?, bind, hcut, Option.bind_none]

/-- A kind whose predicates show the value has a name for them, and the other kinds have none. -/
theorem showsValue_iff (flavor : Flavor) (k : FieldKind) :
    k.showsValue = true ↔ ∃ name, char '(' ∉ name ∧ k.shape flavor = .call name := by
  cases flavor <;> cases k <;>
    simp [FieldKind.showsValue, FieldKind.shape, String.toText]

theorem opening_not_mem_ofKind {k : FieldKind} (h : k.showsValue = false) :
    char '(' ∉ ofKind flavor (some k) value := by
  cases k with
  | declaration | accessControl | data =>
    cases flavor <;> simp [ofKind, FieldKind.shape, Shape.render, String.toText]
  | _ => exact absurd h (by decide)

/-- A predicate is read as the kind and the text of the value exactly when it shows the value. -/
theorem read?_ofKind_eq_some_iff {k : FieldKind} {s : Text} :
    read? flavor (ofKind flavor kind value) = some (k, s) ↔
      kind = some k ∧ k.showsValue = true ∧ value.traceText = s := by
  cases kind with
  | none => simp [ofKind, read?_of_not_mem, unknown, String.toText]
  | some k' =>
    cases hshows : k'.showsValue with
    | true =>
      obtain ⟨name, hname, hshape⟩ := (showsValue_iff flavor k').1 hshows
      rw [ofKind, hshape, Value.escaped, read?_render_call hname,
        FieldKind.ofPredicateName?_eq_some_iff.2 hshape]
      simp only [Option.map_some, Option.some.injEq, Prod.mk.injEq]
      constructor
      · rintro ⟨rfl, rfl⟩
        exact ⟨rfl, hshows, rfl⟩
      · rintro ⟨rfl, -, rfl⟩
        exact ⟨rfl, rfl⟩
    | false =>
      rw [read?_of_not_mem (opening_not_mem_ofKind hshows)]
      simp only [reduceCtorEq, Option.some.injEq, false_iff]
      rintro ⟨rfl, hshows', -⟩
      exact absurd (hshows.symm.trans hshows') (by simp)

theorem ofKind_eq_nil_iff : ofKind flavor kind value = [] ↔ kind = some .data := by
  cases kind with
  | none => simp [ofKind, unknown, String.toText]
  | some k =>
    cases flavor <;> cases k <;> simp [ofKind, FieldKind.shape, Shape.render, String.toText]

/-- The words that are no names of values belong to one kind each, or to no kind. -/
theorem ofKind_eq_word_iff (flavor : Flavor) (kind : Option FieldKind) (value : Value) :
    (ofKind flavor kind value = "DEC".toText ↔ kind = some .declaration) ∧
    (ofKind flavor kind value = "ACL".toText ↔ kind = some .accessControl) ∧
    (ofKind flavor kind value = "error".toText ↔ kind = none) := by
  cases kind with
  | none => simp [ofKind, unknown, String.toText]
  | some k =>
    cases flavor <;> cases k <;> simp [ofKind, FieldKind.shape, Shape.render, String.toText]

/-- A field that is not content. -/
def isWritten (field : Value × Value) : Bool := FieldKind.ofName? field.1 ≠ some .data

/-- A piece of a clause tells which field it comes from: the kind and the text of the value, or else
one of three words. -/
structure Tells (flavor : Flavor) (field : Value × Value) (piece : Text) : Prop where
  /-- What is read is the kind of the field and the text of its value. -/
  read_iff : ∀ kind s, read? flavor piece = some (kind, s) ↔
    FieldKind.ofName? field.1 = some kind ∧ kind.showsValue = true ∧ field.2.traceText = s
  /-- The field is a declaration. -/
  declaration_iff : piece = "DEC".toText ↔ FieldKind.ofName? field.1 = some .declaration
  /-- The field says who may access. -/
  accessControl_iff : piece = "ACL".toText ↔ FieldKind.ofName? field.1 = some .accessControl
  /-- The name of the field is unknown. -/
  unknown_iff : piece = "error".toText ↔ FieldKind.ofName? field.1 = none

theorem tells_ofField (flavor : Flavor) (field : Value × Value) :
    Tells flavor field (ofField flavor field.1 field.2) := by
  obtain ⟨hdeclaration, haccess, hunknown⟩ :=
    ofKind_eq_word_iff flavor (FieldKind.ofName? field.1) field.2
  exact ⟨fun _ _ => read?_ofKind_eq_some_iff, hdeclaration, haccess, hunknown⟩

/-- Without the separator in the values, the pieces of a clause are the predicates of its fields. -/
theorem tokens_clause {fields : List (Value × Value)}
    (hvalues : ∀ f ∈ fields, separator ∉ f.2.traceText) :
    Identity.tokens (clause flavor fields) =
      (fields.filter isWritten).map fun f => ofField flavor f.1 f.2 := by
  have hwhole : ∀ t ∈ fields.map (fun f => ofField flavor f.1 f.2), separator ∉ t := by
    intro t ht
    obtain ⟨f, hf, rfl⟩ := List.mem_map.1 ht
    exact fun h => hvalues f hf (separator_mem_ofKind h)
  have hshown (f : Value × Value) : (!(ofField flavor f.1 f.2).isEmpty) = isWritten f := by
    rw [Bool.eq_iff_iff]
    simpa [isWritten, ofField] using not_congr ofKind_eq_nil_iff
  rw [clause, Identity.tokens_join_of_whole hwhole, List.filter_map]
  exact congrArg _ (List.filter_congr fun f _ => hshown f)

/-- The pieces of a clause whose values do not contain the separator are one for each field that is
not content, in the order of the fields, and each tells which field it comes from. -/
theorem pieces_tell_fields {fields : List (Value × Value)}
    (hvalues : ∀ f ∈ fields, char '&' ∉ f.2.traceText) :
    List.Forall₂ (Tells flavor) (fields.filter isWritten)
      (Identity.tokens (clause flavor fields)) := by
  rw [tokens_clause hvalues, List.forall₂_map_right_iff]
  exact List.forall₂_same.2 fun f _ => tells_ofField flavor f

/-- A purpose that has the characters of a predicate itself, content, an unknown name, a label and
an expiry. -/
theorem pieces_of_purpose_with_parentheses :
    let fields : List (Value × Value) :=
      [(.text "PUR".toText, .text ")origin(\"\x7d\n".toText),
        (.text "Data".toText, .text "x".toText), (.text "ZZZ".toText, .null),
        (.text " Access-Control ".toText, .int 1), (.text "TTL".toText, .int 30)]
    (∀ f ∈ fields, char '&' ∉ f.2.traceText) ∧
    List.Forall₂ (Tells .set) (fields.filter isWritten) (Identity.tokens (clause .set fields)) ∧
    Identity.tokens (clause .set fields) =
      ["purpose()origin(\\\"\x7d\\n)".toText, "error".toText, "ACL".toText, "expiry(30)".toText] ∧
    read? .set "purpose()origin(\\\"\x7d\\n)".toText =
      some (.purpose, ")origin(\"\x7d\n".toText) := by
  intro fields
  have hvalues : ∀ f ∈ fields, char '&' ∉ f.2.traceText := by decide
  exact ⟨hvalues, pieces_tell_fields hvalues, by decide, by decide⟩

end Predicate

end WorkloadTrace
