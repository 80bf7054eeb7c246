import Mathlib.Data.List.Nodup
import WorkloadTrace.Proofs.ConditionContext
import WorkloadTrace.Proofs.RecordContext

/-!
# The clause of a call on metadata

A call on metadata says which records it is about, which metadata it assigns, and who asks and why.
Without the separator in the condition and in the assigned value, the pieces of its clause are the
predicate of the condition, the assignment, and the two predicates of the context without the one
that the condition is already. An assignment never looks like a predicate of the context, so both of
them stand in the clause exactly once whatever is assigned.
-/

namespace WorkloadTrace

namespace Identity

variable {i : Identity}

/-- Every identity for a condition without the separator is whole. -/
theorem isWhole_ofCondition (w : Workload) {condition : Text}
    (h : Predicate.separator ∉ condition) (kind : Option FieldKind) (selector : Int) :
    (ofCondition w (.text condition) kind selector).IsWhole := by
  have hanonymous : anonymous.IsWhole := ⟨by decide, by decide⟩
  have hnumeral := Decimal.separator_not_mem_ofNat
  cases kind with
  | none => exact hanonymous
  | some k =>
    cases k with
    | purpose => exact ⟨hnumeral _, h⟩
    | objection => exact ⟨hnumeral _, hnumeral _⟩
    | user => exact ⟨h, hnumeral _⟩
    | _ => exact hanonymous

/-- A predicate of the context that is at most once among the pieces is exactly once among them and
the missing ones. -/
theorem count_append_missing {pieces : List Text} {t : Text}
    (ht : t = i.userPredicate ∨ t = i.purposePredicate) (h : pieces.count t ≤ 1) :
    (pieces ++ i.missing pieces).count t = 1 := by
  have hnodup : (i.missing pieces).Nodup := by
    refine List.Nodup.filter _ ?_
    simpa using userPredicate_ne_purposePredicate i i
  rw [List.count_append]
  by_cases hmem : t ∈ pieces
  · have hpresent := List.count_pos_iff.2 hmem
    have hmissing : (i.missing pieces).count t = 0 :=
      List.count_eq_zero.2 fun hm => (mem_missing_iff.1 hm).2 hmem
    omega
  · have habsent := List.count_eq_zero.2 hmem
    have hmissing : (i.missing pieces).count t = 1 :=
      List.count_eq_one_of_mem hnodup (mem_missing_iff.2 ⟨ht, hmem⟩)
    omega

/-- Of the pieces of a condition and an assignment, only the former can be a predicate of the
context. -/
theorem missing_pair (own : Text) {assignment : Text} (huser : assignment ≠ i.userPredicate)
    (hpurpose : assignment ≠ i.purposePredicate) :
    i.missing ([own, assignment].filter fun t => !t.isEmpty) =
      [i.userPredicate, i.purposePredicate].filter fun t => t ≠ own := by
  refine List.filter_congr fun t ht => ?_
  have hne : t ≠ [] ∧ t ≠ assignment := by
    rcases List.mem_pair.1 ht with rfl | rfl
    · exact ⟨i.userPredicate_ne_nil, huser.symm⟩
    · exact ⟨i.purposePredicate_ne_nil, hpurpose.symm⟩
  simp [hne]

theorem count_pair_le_one {own assignment t : Text} (h : assignment ≠ t) :
    ([own, assignment].filter fun t => !t.isEmpty).count t ≤ 1 := by
  have hassignment : [assignment].count t = 0 := List.count_eq_zero.2 (by simpa using h.symm)
  calc ([own, assignment].filter fun t => !t.isEmpty).count t
      ≤ [own, assignment].count t := List.filter_sublist.count_le t
    _ ≤ 1 := by rw [List.count_cons, hassignment]; split <;> omega

end Identity

namespace Call

/-- A call on metadata for a condition on the field at an index, with the name and the value that it
assigns, if it assigns one. -/
inductive Addresses (fieldnum condition : Value) : Option (Value × Value) → Call → Prop where
  /-- A reading. -/
  | readMeta (table keymatch : Value) :
    Addresses fieldnum condition none (.readMeta table fieldnum condition keymatch)
  /-- A deletion. -/
  | deleteMeta (table keymatch : Value) :
    Addresses fieldnum condition none (.deleteMeta table fieldnum condition keymatch)
  /-- An update. -/
  | updateMeta (table keymatch fieldName fieldValue : Value) :
    Addresses fieldnum condition (some (fieldName, fieldValue))
      (.updateMeta table fieldnum condition keymatch fieldName fieldValue)

/-- The predicate of what a call assigns; it is empty when nothing is assigned. -/
def assignment (assigned : Option (Value × Value)) : Text :=
  assigned.elim [] fun a => Predicate.ofField .set a.1 a.2

variable {assigned : Option (Value × Value)}

theorem separator_not_mem_assignment
    (h : ∀ a ∈ assigned, Predicate.separator ∉ a.2.traceText) :
    Predicate.separator ∉ assignment assigned := by
  cases assigned with
  | none => exact List.not_mem_nil
  | some a => exact fun hmem => h a rfl (Predicate.separator_mem_ofKind hmem)

/-- What is assigned is never the predicate that names who asks or why. -/
theorem assignment_not_context (assigned : Option (Value × Value)) (i : Identity) :
    assignment assigned ≠ i.userPredicate ∧ assignment assigned ≠ i.purposePredicate := by
  cases assigned with
  | none => exact ⟨i.userPredicate_ne_nil.symm, i.purposePredicate_ne_nil.symm⟩
  | some a => exact Predicate.ofKind_set_not_context _ _ i

section Addresses

variable {p : Profile} {issued : Nat} {fieldnum condition : Value} {c : Call}
  {kind : Option FieldKind} (h : Addresses fieldnum condition assigned c)
  (hkind : kindAt fieldnum = .ok kind)

include h hkind

/-- A call on metadata whose arguments have texts comes to take a selector. -/
theorem Addresses.takes (hfits : c.Fits p) : c.takes p = true := by
  cases h with
  | updateMeta table keymatch fieldName fieldValue =>
    have hvalue := hfits.arguments fieldValue (by simp [arguments])
    rw [Call.takes, hkind, Predicate.trouble?, hvalue, ite_self]
    rfl
  | _ => rw [Call.takes, hkind]; rfl

/-- A call on metadata whose arguments have texts has a line. -/
theorem Addresses.exists_line (issued : Nat) (hfits : c.Fits p) :
    ∃ q, c.line? p issued = .ok (some q) := by
  rw [line?_of_trouble?_eq_none (trouble?_eq_none_of_takes issued (h.takes hkind hfits) hfits)]
  cases h <;> exact ⟨_, rfl⟩

/-- The clause of a call on metadata. -/
theorem Addresses.clause_eq {q : QueryLine} (hline : c.line? p issued = .ok (some q)) :
    q.clause = conditionClause p (issued + 1) kind condition (assignment assigned) := by
  have hwording := (line?_eq_ok_iff.1 hline).2
  have hkindOf : kindOf fieldnum = kind := by rw [kindOf, hkind]; rfl
  cases h <;>
  · simp only [wording, hkindOf] at hwording
    exact Option.some.inj hwording ▸ rfl

end Addresses

/-- The pieces of the clause: the condition, the assignment, and the context without what the
condition is. -/
theorem tokens_conditionClause (p : Profile) (selector : Nat) (kind : Option FieldKind)
    {condition : Text} (hcondition : Predicate.separator ∉ condition)
    (hvalue : ∀ a ∈ assigned, Predicate.separator ∉ a.2.traceText) :
    let i := Identity.ofCondition p.workload (.text condition) kind selector
    let own := Predicate.ofKind .condition kind (.text condition)
    Identity.tokens (conditionClause p selector kind (.text condition) (assignment assigned)) =
      ([own, assignment assigned].filter fun t => !t.isEmpty) ++
        [i.userPredicate, i.purposePredicate].filter fun t => t ≠ own := by
  intro i own
  have hwhole : i.IsWhole := Identity.isWhole_ofCondition p.workload hcondition kind selector
  have hparts : ∀ t ∈ [own, assignment assigned], Predicate.separator ∉ t := by
    intro t ht
    rcases List.mem_pair.1 ht with rfl | rfl
    · exact fun hmem => hcondition (Predicate.separator_mem_ofKind hmem)
    · exact separator_not_mem_assignment hvalue
  obtain ⟨huser, hpurpose⟩ := assignment_not_context assigned i
  have hclause := Identity.tokens_join_context hwhole (Predicate.join [own, assignment assigned])
  rw [Identity.tokens_join_of_whole hparts, Identity.missing_pair own huser hpurpose] at hclause
  exact hclause

end Call

namespace Session

variable {σ : Type}

/-- A call of a client that has a line takes its selector, whatever the sink does with the line. -/
theorem issued_step_call {s : Session σ} {client : Int} {c : Call} {q : QueryLine}
    (hclient : s.hasClient client = true)
    (hline : c.line? s.profile s.issued = .ok (some q)) (ops : Sink σ) (j : Journal) :
    (s.step ops j (.call client c)).2.1.issued = s.issued + if c.isMetadata then 1 else 0 := by
  rw [← Call.issuedAfter_of_line?_eq_ok hline]
  simp only [step, hclient, if_true, call, hline, emit]

/-- What the line of a call on metadata consists of: the pieces of its clause are the predicate of
the condition and the assignment, unless they are empty, and then the two predicates of an identity
without the one that the condition is. -/
structure Pieces (q : QueryLine) (i : Identity) (own assignment : Text) : Prop where
  /-- The pieces in order. -/
  tokens_eq : Identity.tokens q.clause = ([own, assignment].filter fun t => !t.isEmpty) ++
    ([i.userPredicate, i.purposePredicate].filter fun t => t ≠ own)
  /-- Who asks stands there once. -/
  user_once : (Identity.tokens q.clause).count i.userPredicate = 1
  /-- And why. -/
  purpose_once : (Identity.tokens q.clause).count i.purposePredicate = 1
  /-- The assignment is none of both. -/
  assignment_ne : assignment ≠ i.userPredicate ∧ assignment ≠ i.purposePredicate

/-- The clause of a call on metadata, with a condition and an assigned value without the separator,
has as its pieces the predicate of the condition and the assignment, unless they are empty, and then
the two predicates of the identity for the selector that this call takes, without the one that the
condition is. So each of the two stands there exactly once, and no assignment is one of them. The
call writes its line unless something in it has no text. -/
theorem metadata_line_pieces {s : Session σ} {client index : Int} {condition : Text}
    {assigned : Option (Value × Value)} {c : Call} (ops : Sink σ) (j : Journal)
    (hclient : s.hasClient client = true)
    (hc : Call.Addresses (.int index) (.text condition) assigned c)
    (hcondition : char '&' ∉ condition) (hvalue : ∀ a ∈ assigned, char '&' ∉ a.2.traceText) :
    let kind := FieldKind.ofIndex? index
    let after := (s.step ops j (.call client c)).2.1
    let i := Identity.ofCondition s.settings.workload (.text condition) kind after.issued
    let own := Predicate.ofKind .condition kind (.text condition)
    i.userPredicate = "session-key-is(".toText ++ Text.escape i.user ++ [char ')'] ∧
    i.purposePredicate = "purpose-is(".toText ++ Text.escape i.purpose ++ [char ')'] ∧
    (c.Fits s.profile → ∃ q, s.queryFor c = some q) ∧
    ∀ q, s.queryFor c = some q → after.issued = s.issued + 1 ∧
      s.lineOf (.call client c) = some q.render ∧ Pieces q i own (Call.assignment assigned) := by
  intro kind after i own
  refine ⟨i.userPredicate_eq, i.purposePredicate_eq, fun hfits => ?_, fun q hq => ?_⟩
  · obtain ⟨q, hline⟩ := hc.exists_line rfl s.issued hfits
    exact ⟨q, queryFor_eq_some_iff.2 hline⟩
  have hline := queryFor_eq_some_iff.1 hq
  have hmetadata : c.isMetadata = true := by cases hc <;> rfl
  have hissued : after.issued = s.issued + 1 := by
    rw [issued_step_call hclient hline, hmetadata]
    rfl
  have hidentity : i = Identity.ofCondition s.profile.workload (.text condition) kind
      (s.issued + 1 : Nat) := by
    rw [← hissued]
    rfl
  have hclause : q.clause = Call.conditionClause s.profile (s.issued + 1) kind (.text condition)
      (Call.assignment assigned) := hc.clause_eq rfl hline
  obtain ⟨huser, hpurpose⟩ := Call.assignment_not_context assigned i
  have hpieces := Call.tokens_conditionClause s.profile (s.issued + 1) kind hcondition hvalue
  rw [← hclause, ← hidentity] at hpieces
  have hmissing := Identity.missing_pair own huser hpurpose
  have honce {t : Text} (ht : t = i.userPredicate ∨ t = i.purposePredicate)
      (hne : Call.assignment assigned ≠ t) : (Identity.tokens q.clause).count t = 1 := by
    rw [hpieces, ← hmissing]
    exact Identity.count_append_missing ht (Identity.count_pair_le_one hne)
  exact ⟨hissued, lineOf_call hclient hline, hpieces, honce (.inl rfl) huser,
    honce (.inr rfl) hpurpose, huser, hpurpose⟩

/-- A purpose as the condition, and a user assigned whose name is made to look like the context. -/
theorem pieces_of_purpose7_with_user_assigned :
    let name : Value := .text " User".toText
    let value : Value := .text "x)session-key-is(7".toText
    let c : Call := .updateMeta .null (.int 0) (.text "purpose7".toText) (.text "key*".toText) name
      value
    (withOneClient.hasClient 0 = true ∧
      Call.Addresses (.int 0) (.text "purpose7".toText) (some (name, value)) c ∧
      char '&' ∉ "purpose7".toText ∧ ∀ a ∈ some (name, value), char '&' ∉ a.2.traceText) ∧
    ∃ q : QueryLine, withOneClient.lineOf (.call 0 c) = some q.render ∧
      Identity.tokens q.clause = ["purpose-is(purpose7)".toText,
        "session-key(x)session-key-is(7)".toText, "session-key-is(7)".toText] := by
  intro name value c
  have hclient : withOneClient.hasClient 0 = true := by decide
  have hc : Call.Addresses (.int 0) (.text "purpose7".toText) (some (name, value)) c :=
    .updateMeta _ _ _ _
  have hcondition : char '&' ∉ "purpose7".toText := by decide
  have hvalue : ∀ a ∈ some (name, value), char '&' ∉ a.2.traceText := by
    intro a ha
    obtain rfl := Option.mem_some_iff.1 ha
    decide
  obtain ⟨-, -, hwrites, hpieces⟩ :=
    metadata_line_pieces Sink.memory {} hclient hc hcondition hvalue
  obtain ⟨q, hq⟩ := hwrites ⟨by decide, fun _ => records_withOneClient⟩
  obtain ⟨-, hline, hq⟩ := hpieces q hq
  exact ⟨⟨hclient, hc, hcondition, hvalue⟩, q, hline, hq.tokens_eq.trans (by decide +kernel)⟩

end Session

end WorkloadTrace
