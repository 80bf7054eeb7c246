import WorkloadTrace.Proofs.AccessContext
import WorkloadTrace.Proofs.CallArguments

/-!
# The access context of a condition

A condition on purposes or on users is its own side of the identity, so its predicate is one of the
two predicates of the context. It is left out there when it is found among the pieces of the clause.
A condition with the separator in it falls into pieces and is not found: its predicate is then
written twice.
-/

namespace WorkloadTrace

namespace Text

/-- Every part is found in what the parts are joined to. -/
theorem infix_joinWith_of_mem {sep p : Text} {parts : List Text} (h : p ∈ parts) :
    p <:+: joinWith sep parts := by
  obtain ⟨front, rear, rfl⟩ := List.append_of_mem h
  have hhead : p <+: joinWith sep (p :: rear) := by
    by_cases hrear : rear = []
    · simp [hrear]
    · rw [joinWith_cons_of_ne_nil sep p hrear, List.append_assoc]
      exact List.prefix_append _ _
  by_cases hfront : front = []
  · rw [hfront, List.nil_append]
    exact hhead.isInfix
  · rw [joinWith_append sep hfront (by simp)]
    exact hhead.isInfix.trans (List.suffix_append _ _).isInfix

end Text

namespace Identity

/-- One of the two predicates of an identity, and the other one. -/
inductive Sides (i : Identity) : Text → Text → Prop where
  /-- Why the user asks. -/
  | purpose : Sides i i.purposePredicate i.userPredicate
  /-- Who asks for the purpose. -/
  | user : Sides i i.userPredicate i.purposePredicate

variable {i : Identity} {own other : Text}

/-- Its own side of an identity is not empty. -/
theorem Sides.own_ne_nil (h : i.Sides own other) : own ≠ [] := by
  cases h with
  | purpose => exact i.purposePredicate_ne_nil
  | user => exact i.userPredicate_ne_nil

/-- Nor is the other one. -/
theorem Sides.other_ne_nil (h : i.Sides own other) : other ≠ [] := by
  cases h with
  | purpose => exact i.userPredicate_ne_nil
  | user => exact i.purposePredicate_ne_nil

/-- Beside its own side only the other one is missing. -/
theorem Sides.missing_own (h : i.Sides own other) : i.missing [own] = [other] := by
  have hne := userPredicate_ne_purposePredicate i i
  cases h with
  | purpose => simp [missing, hne]
  | user => simp [missing, hne.symm]

/-- Its own side is missing where it is not a piece. -/
theorem Sides.own_mem_missing (h : i.Sides own other) {pieces : List Text} (hown : own ∉ pieces) :
    own ∈ i.missing pieces := by
  cases h with
  | purpose => exact mem_missing_iff.2 ⟨Or.inr rfl, hown⟩
  | user => exact mem_missing_iff.2 ⟨Or.inl rfl, hown⟩

/-- A clause of one side without the separator is followed by the other side alone. -/
theorem Sides.join_context_of_whole (h : i.Sides own other) (hown : Predicate.separator ∉ own) :
    Predicate.join [own, i.context own] = own ++ Predicate.separator :: other := by
  have hcontext : i.context own = other := by
    rw [context_eq_join_missing, tokens_eq_singleton h.own_ne_nil hown, h.missing_own,
      Predicate.join_singleton]
  rw [hcontext]
  simp [Predicate.join, h.own_ne_nil, h.other_ne_nil, Text.joinWith_cons_of_ne_nil]

/-- A clause of one side with the separator in it is followed by the same side once more. -/
theorem Sides.join_context_of_cut (h : i.Sides own other) (hown : Predicate.separator ∈ own) :
    ∃ rest, Predicate.join [own, i.context own] = own ++ Predicate.separator :: rest ∧
      own <:+: rest := by
  have hmem : own ∈ i.missing (tokens own) :=
    h.own_mem_missing fun hpiece => separator_not_mem_of_mem_tokens hpiece hown
  have hinfix : own <:+: i.context own :=
    Text.infix_joinWith_of_mem (List.mem_filter.2 ⟨hmem, by simpa using h.own_ne_nil⟩)
  have hcontext : i.context own ≠ [] := by
    intro hnil
    rw [hnil, List.infix_nil] at hinfix
    exact h.own_ne_nil hinfix
  refine ⟨i.context own, ?_, hinfix⟩
  simp [Predicate.join, h.own_ne_nil, hcontext, Text.joinWith_cons_of_ne_nil]

/-- The context of a clause of one side is the other side alone exactly when the clause does not
contain the separator. -/
theorem Sides.join_context_eq_iff (h : i.Sides own other) (hother : Predicate.separator ∉ other) :
    Predicate.join [own, i.context own] = own ++ Predicate.separator :: other ↔
      Predicate.separator ∉ own := by
  constructor
  · intro hjoin hown
    obtain ⟨rest, hrest, hinfix⟩ := h.join_context_of_cut hown
    rw [hjoin, List.append_cancel_left_eq, List.cons.injEq] at hrest
    exact hother (hrest.2 ▸ hinfix.subset hown)
  · exact h.join_context_of_whole

end Identity

namespace Call

/-- A call that reads or deletes the records that a condition selects. -/
inductive Selects (fieldnum condition keymatch : Value) : Call → Prop where
  /-- A reading. -/
  | readMeta (table : Value) :
    Selects fieldnum condition keymatch (.readMeta table fieldnum condition keymatch)
  /-- A deletion. -/
  | deleteMeta (table : Value) :
    Selects fieldnum condition keymatch (.deleteMeta table fieldnum condition keymatch)

section Selects

variable {p : Profile} {issued : Nat} {fieldnum condition keymatch : Value} {c : Call}
  {kind : Option FieldKind} (h : Selects fieldnum condition keymatch c)
  (hkind : kindAt fieldnum = .ok kind)

include h hkind

/-- A selection whose arguments have texts has a line. -/
theorem Selects.exists_line (issued : Nat) (hfits : c.Fits p) :
    ∃ q, c.line? p issued = .ok (some q) := by
  have htakes : c.takes p = true := by
    cases h <;> rw [takes, hkind] <;> rfl
  rw [line?_of_trouble?_eq_none (trouble?_eq_none_of_takes issued htakes hfits)]
  cases h <;> exact ⟨_, rfl⟩

/-- The clause of a selection. -/
theorem Selects.clause_eq {q : QueryLine} (hline : c.line? p issued = .ok (some q)) :
    q.clause = conditionClause p (issued + 1) kind condition [] := by
  have hwording := (line?_eq_ok_iff.1 hline).2
  have hkindOf : kindOf fieldnum = kind := by rw [kindOf, hkind]; rfl
  cases h <;>
  · simp only [wording, hkindOf] at hwording
    exact Option.some.inj hwording ▸ rfl

end Selects

/-- Without an assignment, a metadata clause is the condition with its access context. -/
theorem conditionClause_nil (p : Profile) (selector : Nat) (kind : Option FieldKind)
    (condition : Value) :
    conditionClause p selector kind condition [] =
      Predicate.join [Predicate.ofKind .condition kind condition,
        (Identity.ofCondition p.workload condition kind selector).context
          (Predicate.ofKind .condition kind condition)] := by
  have hclause : Predicate.join [Predicate.ofKind .condition kind condition, []] =
      Predicate.ofKind .condition kind condition := Predicate.join_singleton _
  simp only [conditionClause, hclause]

end Call

/-- A line states a condition by one predicate and the other side of its identity by another, each
once, exactly when the condition does not contain the separator. -/
structure QueryLine.StatesCondition (q : QueryLine) (condition own other : Text) : Prop where
  /-- The clause consists of the two predicates. -/
  once_iff : q.clause = own ++ char '&' :: other ↔ char '&' ∉ condition
  /-- Otherwise the predicate of the condition is written again. -/
  again : char '&' ∈ condition → ∃ rest, q.clause = own ++ char '&' :: rest ∧ own <:+: rest

namespace Identity

/-- The sides of an identity for a purpose. -/
theorem sides_purpose {i : Identity} (huser : Text.escape i.user = i.user) :
    i.Sides ("purpose-is(".toText ++ Text.escape i.purpose ++ [char ')'])
      ("session-key-is(".toText ++ i.user ++ [char ')']) := by
  have hsides := Sides.purpose (i := i)
  rwa [purposePredicate_eq, userPredicate_eq, huser] at hsides

/-- The sides of an identity for a user. -/
theorem sides_user {i : Identity} (hpurpose : Text.escape i.purpose = i.purpose) :
    i.Sides ("session-key-is(".toText ++ Text.escape i.user ++ [char ')'])
      ("purpose-is(".toText ++ i.purpose ++ [char ')']) := by
  have hsides := Sides.user (i := i)
  rwa [userPredicate_eq, purposePredicate_eq, hpurpose] at hsides

/-- The clause of a condition that is one side of its identity. -/
theorem Sides.statesCondition {i : Identity} {q : QueryLine} {condition own other : Text}
    (h : i.Sides own other) (hq : q.clause = Predicate.join [own, i.context own])
    (hown : Predicate.separator ∈ own ↔ Predicate.separator ∈ condition)
    (hother : Predicate.separator ∉ other) : q.StatesCondition condition own other := by
  constructor
  · rw [hq]
    exact (h.join_context_eq_iff hother).trans (not_congr hown)
  · intro hcut
    rw [hq]
    exact h.join_context_of_cut (hown.2 hcut)

end Identity

namespace Session

variable {σ : Type}

/-- A condition that is one side of its identity, where the other side is a number. -/
theorem states_condition {s : Session σ} {fieldnum keymatch : Value}
    {kind : FieldKind} {c : Call} {q : QueryLine} {name otherName condition : Text} {n : Nat}
    (hc : Call.Selects fieldnum (.text condition) keymatch c)
    (hq : s.queryFor c = some q) (hkind : Call.kindAt fieldnum = .ok (some kind))
    (hname : Predicate.separator ∉ name) (hotherName : Predicate.separator ∉ otherName)
    (hsides : (Identity.ofCondition s.settings.workload (.text condition) (some kind)
      (s.issued + 1 : Nat)).Sides (name ++ Text.escape condition ++ [char ')'])
        (otherName ++ Decimal.ofNat n ++ [char ')']))
    (hown : Predicate.ofKind .condition (some kind) (.text condition) =
      name ++ Text.escape condition ++ [char ')']) :
    q.StatesCondition condition (name ++ Text.escape condition ++ [char ')'])
      (otherName ++ Decimal.ofNat n ++ [char ')']) := by
  have hclause := hc.clause_eq hkind (queryFor_eq_some_iff.1 hq)
  have hprofile : s.profile.workload = s.settings.workload := rfl
  rw [Call.conditionClause_nil, hown, hprofile] at hclause
  have hcondition : Predicate.separator ∈ name ++ Text.escape condition ++ [char ')'] ↔
      Predicate.separator ∈ condition :=
    (Identity.separator_mem_enclosed_iff hname).trans Text.separator_mem_escape_iff
  have hother : Predicate.separator ∉ otherName ++ Decimal.ofNat n ++ [char ')'] := by
    rw [Identity.separator_mem_enclosed_iff hotherName]
    exact Decimal.separator_not_mem_ofNat n
  exact hsides.statesCondition hclause hcondition hother

/-- A call that reads or deletes the records of a purpose or of a user states the condition and the
other side of its identity, each once, exactly when the condition does not contain the separator;
otherwise the predicate of the condition is written again in the context. The call writes its line
unless something in it has no text. -/
theorem selecting_line_states_condition {s : Session σ} {client : Int} {fieldnum keymatch : Value}
    {condition : Text} {c : Call} (hclient : s.hasClient client = true)
    (hc : Call.Selects fieldnum (.text condition) keymatch c) :
    let identity := fun kind => Identity.ofCondition s.settings.workload (.text condition)
      (some kind) (s.issued + 1 : Nat)
    (c.Fits s.profile → ∀ kind, Call.kindAt fieldnum = .ok kind → ∃ q, s.queryFor c = some q) ∧
    ∀ q, s.queryFor c = some q → s.lineOf (.call client c) = some q.render ∧
      (Call.kindAt fieldnum = .ok (some .purpose) →
        q.StatesCondition condition ("purpose-is(".toText ++ Text.escape condition ++ [char ')'])
          ("session-key-is(".toText ++ (identity .purpose).user ++ [char ')'])) ∧
      (Call.kindAt fieldnum = .ok (some .user) →
        q.StatesCondition condition
          ("session-key-is(".toText ++ Text.escape condition ++ [char ')'])
          ("purpose-is(".toText ++ (identity .user).purpose ++ [char ')'])) := by
  intro identity
  refine ⟨fun hfits kind hkind => ?_, fun q hq => ⟨?_, fun hkind => ?_, fun hkind => ?_⟩⟩
  · obtain ⟨q, hline⟩ := hc.exists_line hkind s.issued hfits
    exact ⟨q, queryFor_eq_some_iff.2 hline⟩
  · exact lineOf_call hclient (queryFor_eq_some_iff.1 hq)
  · have hsides : (identity .purpose).Sides _ _ := Identity.sides_purpose (Decimal.escape_ofNat _)
    exact states_condition hc hq hkind (by decide) (by decide) hsides rfl
  · have hsides : (identity .user).Sides _ _ := Identity.sides_user (Decimal.escape_ofNat _)
    exact states_condition hc hq hkind (by decide) (by decide) hsides rfl

/-- A purpose condition without the separator is stated once. -/
theorem selecting_line_states_purpose7 :
    withOneClient.hasClient 0 = true ∧ Call.kindAt (.int 0) = .ok (some .purpose) ∧
      ∃ q : QueryLine,
        withOneClient.lineOf (.call 0 (.readMeta .null (.int 0) (.text "purpose7".toText)
          (.text "key*".toText))) = some q.render ∧
        q.clause = "purpose-is(purpose7)&session-key-is(7)".toText := by
  have hclient : withOneClient.hasClient 0 = true := by decide
  have hcall : Call.Selects (.int 0) (.text "purpose7".toText) (.text "key*".toText)
      (.readMeta .null (.int 0) (.text "purpose7".toText) (.text "key*".toText)) := .readMeta .null
  obtain ⟨hwrites, hstates⟩ := selecting_line_states_condition hclient hcall
  obtain ⟨q, hq⟩ := hwrites ⟨by decide, fun _ => records_withOneClient⟩ _ rfl
  obtain ⟨hline, hpurpose, -⟩ := hstates q hq
  have hclause := (hpurpose rfl).once_iff.2 (by decide)
  exact ⟨hclient, rfl, q, hline, hclause.trans (by decide)⟩

/-- A purpose condition with the separator in it is written twice. -/
theorem condition_with_separator_written_twice :
    withOneClient.lineOf (.call 0 (.readMeta .null (.int 0) (.text "a&b".toText)
        (.text "key*".toText))) =
      some "query(GETM(\"key*\"))&purpose-is(a&b)&session-key-is(0)&purpose-is(a&b)\n".toText ∧
    "purpose-is(a&b)&session-key-is(0)&purpose-is(a&b)".toText ≠
      "purpose-is(".toText ++ Text.escape "a&b".toText ++ ")&session-key-is(".toText ++
        (Identity.ofCondition .standard (.text "a&b".toText) (some .purpose) 1).user ++
        [char ')'] := by
  decide

end Session

end WorkloadTrace
