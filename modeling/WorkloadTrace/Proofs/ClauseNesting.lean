import WorkloadTrace.Proofs.AccessContext
import WorkloadTrace.Proofs.ClauseReading

/-!
# Clauses joined in any nesting

Joining leaves empty clauses out and puts one separator between the others, so it is associative
with the empty clause as its unit, and whatever is joined in several steps is what its leaves are
joined to at once. The clause of fields is therefore joined from the clauses of its sections, and
the clause of a call from its parts in any nesting. No predicate begins or ends with the separator,
whatever its value, so no clause does.
-/

namespace WorkloadTrace

namespace Predicate

section Join

/-- The clauses that a join keeps: those that are not empty. -/
def kept (clauses : List Text) : List Text := clauses.filter fun c => !c.isEmpty

/-- A join has separators between the clauses that are not empty. -/
theorem join_eq_joinWith_kept (clauses : List Text) :
    join clauses = Text.joinWith [separator] (kept clauses) := rfl

/-- Joins of the same clauses are the same, whatever empty ones stand between them. -/
theorem join_congr {clauses others : List Text} (h : kept clauses = kept others) :
    join clauses = join others := by
  rw [join_eq_joinWith_kept, h, join_eq_joinWith_kept]

/-- The first clause can be joined last. -/
theorem join_cons (c : Text) (clauses : List Text) :
    join (c :: clauses) = join [c, join clauses] := by
  have happend := join_append [c] clauses
  rwa [join_singleton, List.singleton_append] at happend

/-- Nothing is joined to a clause by an empty one. -/
theorem join_pair_nil (c : Text) : join [c, []] = c := by
  have hkept : kept [c, []] = kept [c] := by simp [kept, List.filter_cons]
  rw [join_congr hkept, join_singleton]

/-- Two clauses have one separator between them. -/
theorem join_pair {a b : Text} (ha : a ≠ []) (hb : b ≠ []) : join [a, b] = a ++ separator :: b := by
  have hkept : kept [a, b] = [a, b] := by simp [kept, ha, hb]
  rw [join_eq_joinWith_kept, hkept, Text.joinWith_cons_of_ne_nil _ _ (by simp),
    Text.joinWith_singleton, List.append_assoc, List.singleton_append]

/-- Clauses can be joined from either side. -/
theorem join_assoc (a b c : Text) : join [join [a, b], c] = join [a, join [b, c]] := by
  have hfront := join_append [a, b] [c]
  rw [join_singleton] at hfront
  rw [← hfront, ← join_cons]
  rfl

/-- A join is empty when all its clauses are. -/
theorem join_eq_nil_iff {clauses : List Text} : join clauses = [] ↔ ∀ c ∈ clauses, c = [] := by
  have hkept : kept clauses = [] ↔ ∀ c ∈ clauses, c = [] := by
    simp [kept, List.filter_eq_nil_iff]
  rw [← hkept, join_eq_joinWith_kept]
  constructor
  · intro h
    by_contra hne
    refine Text.joinWith_ne_nil hne (fun c hc => ?_) h
    simpa using (List.mem_filter.1 hc).2
  · intro h
    rw [h, Text.joinWith_nil]

end Join

section Edges

/-- A text that neither begins nor ends with the separator. -/
def CleanEdged (s : Text) : Prop := s.head? ≠ some separator ∧ s.getLast? ≠ some separator

/-- The empty clause has clean edges. -/
theorem cleanEdged_nil : CleanEdged [] := by simp [CleanEdged]

/-- Two clauses with clean edges have a join with clean edges. -/
theorem CleanEdged.pair {a b : Text} (ha : CleanEdged a) (hb : CleanEdged b) :
    CleanEdged (join [a, b]) := by
  by_cases hanil : a = []
  · rwa [hanil, join_nil_cons, join_singleton]
  by_cases hbnil : b = []
  · rwa [hbnil, join_pair_nil]
  rw [join_pair hanil hbnil]
  constructor
  · rw [List.head?_append_of_ne_nil _ hanil]
    exact ha.1
  · rw [List.getLast?_append_of_ne_nil _ (by simp), List.getLast?_cons_of_ne_nil hbnil]
    exact hb.2

/-- So have any number of them. -/
theorem cleanEdged_join {clauses : List Text} (h : ∀ c ∈ clauses, CleanEdged c) :
    CleanEdged (join clauses) := by
  induction clauses with
  | nil => exact cleanEdged_nil
  | cons c rest ih =>
    obtain ⟨hc, hrest⟩ := List.forall_mem_cons.1 h
    rw [join_cons]
    exact hc.pair (ih hrest)

/-- A name before a value between parentheses keeps the edges clean, whatever the value is. -/
theorem cleanEdged_call {name : Text} (hne : name ≠ []) (hname : name.head? ≠ some separator)
    (content : Text) : CleanEdged ((Shape.call name).render content) := by
  have hrender : (Shape.call name).render content =
      name ++ (char '(' :: content ++ [char ')']) := by
    simp [Shape.render]
  rw [hrender]
  constructor
  · rwa [List.head?_append_of_ne_nil _ hne]
  · rw [List.getLast?_append_of_ne_nil _ (by simp), List.getLast?_concat]
    decide

/-- A predicate begins with its name and ends with its mark, so its edges are clean. -/
theorem cleanEdged_ofKind (flavor : Flavor) (kind : Option FieldKind) (value : Value) :
    CleanEdged (ofKind flavor kind value) := by
  have hword : CleanEdged unknown ∧ CleanEdged "DEC".toText ∧ CleanEdged "ACL".toText := by
    simp only [CleanEdged]
    decide
  cases kind with
  | none => exact hword.1
  | some k =>
    cases k with
    | declaration => cases flavor <;> exact hword.2.1
    | accessControl => cases flavor <;> exact hword.2.2
    | data => cases flavor <;> exact cleanEdged_nil
    | _ => cases flavor <;> exact cleanEdged_call (by decide) (by decide) _

end Edges

section Clause

variable (flavor : Flavor)

/-- The clause of two sections of fields is joined from their clauses. -/
theorem clause_append (front rear : List (Value × Value)) :
    clause flavor (front ++ rear) = join [clause flavor front, clause flavor rear] := by
  rw [clause, List.map_append, join_append]
  rfl

/-- A clause of predicates has clean edges. -/
theorem cleanEdged_clause (fields : List (Value × Value)) : CleanEdged (clause flavor fields) := by
  apply cleanEdged_join
  intro c hc
  obtain ⟨f, -, rfl⟩ := List.mem_map.1 hc
  exact cleanEdged_ofKind _ _ _

/-- Only content leaves a clause empty. -/
theorem clause_eq_nil_iff (fields : List (Value × Value)) :
    clause flavor fields = [] ↔ ∀ f ∈ fields, FieldKind.ofName? f.1 = some .data := by
  rw [clause, join_eq_nil_iff, List.forall_mem_map]
  exact forall₂_congr fun f _ => ofKind_eq_nil_iff

end Clause

/-- Clauses that are joined in several steps. -/
inductive Nesting where
  /-- A clause as it is. -/
  | clause (c : Text)
  /-- A join of what is joined before it. -/
  | join (parts : List Nesting)

namespace Nesting

mutual

/-- What a nesting of joins gives. -/
def joined : Nesting → Text
  | .clause c => c
  | .join parts => Predicate.join (joinedAll parts)

/-- What each of several nestings gives. -/
def joinedAll : List Nesting → List Text
  | [] => []
  | t :: ts => t.joined :: joinedAll ts

end

mutual

/-- The clauses that a nesting joins, in their order. -/
def leaves : Nesting → List Text
  | .clause c => [c]
  | .join parts => leavesAll parts

/-- The clauses that several nestings join. -/
def leavesAll : List Nesting → List Text
  | [] => []
  | t :: ts => t.leaves ++ leavesAll ts

end

mutual

/-- A nesting of joins gives what its clauses are joined to at once. -/
theorem joined_eq_join_leaves (t : Nesting) : t.joined = Predicate.join t.leaves := by
  cases t with
  | clause c => exact (join_singleton c).symm
  | join parts => exact join_joinedAll parts

/-- Joining the joins is joining what they are made of. -/
theorem join_joinedAll (ts : List Nesting) :
    Predicate.join (joinedAll ts) = Predicate.join (leavesAll ts) := by
  cases ts with
  | nil => rfl
  | cons t ts =>
    rw [joinedAll, leavesAll, join_append, ← joined_eq_join_leaves t, ← join_joinedAll ts,
      ← join_cons]

end

end Nesting

end Predicate

namespace Call

/-- The predicates of a record's fields, and of the expiry of the call unless a field gives one. -/
def recordParts (values : Fields Value) (ttl : Value) : List Text :=
  (values.map fun f => Predicate.ofField .set (.text f.1) f.2) ++
    match ttl with
    | .null => []
    | ttl => if hasKind .ttl values then [] else [Predicate.ofKind .set (some .ttl) ttl]

/-- The predicates that a call says of records: its condition and its assignment, or the fields and
the expiry of the record that it writes. -/
def said : Call → List Text
  | .readMeta _ fieldnum condition _ | .deleteMeta _ fieldnum condition _ =>
    [Predicate.ofKind .condition (kindOf fieldnum) condition]
  | .updateMeta _ fieldnum condition _ fieldName fieldValue =>
    [Predicate.ofKind .condition (kindOf fieldnum) condition,
      Predicate.ofField .set fieldName fieldValue]
  | .insert _ _ values | .update _ _ values => recordParts values .null
  | .insertTtl _ _ values ttl => recordParts values ttl
  | _ => []

/-- Whose access context the line of a call has, if it has one. -/
def asker? (p : Profile) (issued : Nat) : Call → Option Identity
  | .read _ key | .delete _ key => some (Identity.ofKey p.workload key)
  | .readMeta _ fieldnum condition _ | .deleteMeta _ fieldnum condition _
  | .updateMeta _ fieldnum condition _ _ _ =>
    some (Identity.ofCondition p.workload condition (kindOf fieldnum) (issued + 1 : Nat))
  | .insert _ (.text key) _ | .update _ (.text key) _ | .insertTtl _ (.text key) _ _ =>
    if Text.startsWith metadataHead key then some (Identity.ofKey p.workload (.text key)) else none
  | _ => none

/-- The parts of the clause of a call in their order: what it says of records, then the predicates
of the access context that this does not say already. -/
def parts (p : Profile) (issued : Nat) (c : Call) : List Text :=
  match c.asker? p issued with
  | none => []
  | some i => c.said ++ i.missing (Identity.tokens (Predicate.join c.said))

section Parts

variable {p : Profile} {issued : Nat}

/-- The key of a record that raises nothing is a text. -/
theorem isText_of_putTrouble?_eq_none {key ttl : Value} {values : Fields Value}
    (h : (putTrouble? p key values ttl).map (·, issued) = none) : key.IsText := by
  cases key with
  | text s => exact Value.isText_text s
  | _ => simp [putTrouble?, keyText] at h

/-- A clause with the access context after it is joined from the parts of both. -/
theorem join_context (i : Identity) (said : List Text) :
    Predicate.join [Predicate.join said, i.context (Predicate.join said)] =
      Predicate.join (said ++ i.missing (Identity.tokens (Predicate.join said))) :=
  (Predicate.join_append said _).symm

/-- The clause of a record joins its fields first and the expiry after them. -/
theorem fieldsClause_eq_join (values : Fields Value) (ttl : Value) :
    fieldsClause values ttl = Predicate.join (recordParts values ttl) := by
  have hfields : Predicate.clause .set (values.map fun f => (.text f.1, f.2)) =
      Predicate.join (values.map fun f => Predicate.ofField .set (.text f.1) f.2) := by
    rw [Predicate.clause, List.map_map]
    rfl
  have hnone : fieldsClause values .null = Predicate.join (recordParts values .null) := by
    rw [recordParts, List.append_nil, ← hfields]
    rfl
  cases ttl with
  | null => exact hnone
  | _ =>
    simp only [fieldsClause, recordParts]
    split
    · rw [List.append_nil, hfields]
    · rw [Predicate.join_append, hfields, Predicate.join_singleton]

/-- The clause of a call on metadata joins the condition and the assignment first. -/
theorem conditionClause_eq_join {c : Call} {fieldnum condition : Value} {assignment : Text}
    (hasker : c.asker? p issued = some
      (Identity.ofCondition p.workload condition (kindOf fieldnum) (issued + 1 : Nat)))
    (hsaid : Predicate.join [Predicate.ofKind .condition (kindOf fieldnum) condition, assignment] =
      Predicate.join c.said) :
    conditionClause p (issued + 1) (kindOf fieldnum) condition assignment =
      Predicate.join (c.parts p issued) := by
  rw [parts, hasker, conditionClause, hsaid]
  exact join_context _ _

/-- The clause of a record has the access context of its key after it if the key is one of metadata,
and is empty if it is plain. -/
theorem clause_putLine {c : Call} {key : Text} {values : Fields Value} {ttl : Value}
    (hasker : c.asker? p issued = if Text.startsWith metadataHead key then
      some (Identity.ofKey p.workload (.text key)) else none)
    (hsaid : c.said = recordParts values ttl) :
    (putLine p key values ttl).clause = Predicate.join (c.parts p issued) := by
  rw [parts, hasker, putLine]
  split
  · simp only [fieldsClause_eq_join, hsaid]
    exact join_context _ _
  · rfl

/-- The clause of the line that a call writes is what its parts are joined to at once. -/
theorem clause_eq_join_parts {c : Call} {q : QueryLine} (h : c.line? p issued = .ok (some q)) :
    q.clause = Predicate.join (c.parts p issued) := by
  obtain ⟨htrouble, hwording⟩ := line?_eq_ok_iff.1 h
  cases c with
  | read table key | delete table key =>
    obtain rfl := Option.some.inj hwording
    exact Identity.context_eq_join_missing _ _
  | readMeta table fieldnum condition keymatch | deleteMeta table fieldnum condition keymatch =>
    obtain rfl := Option.some.inj hwording
    refine conditionClause_eq_join rfl ?_
    rw [Predicate.join_pair_nil, said, Predicate.join_singleton]
  | updateMeta table fieldnum condition keymatch fieldName fieldValue =>
    obtain rfl := Option.some.inj hwording
    exact conditionClause_eq_join rfl rfl
  | insert table key values | update table key values =>
    obtain ⟨text, rfl⟩ := isText_of_putTrouble?_eq_none htrouble
    obtain rfl := Option.some.inj hwording
    exact clause_putLine rfl rfl
  | insertTtl table key values ttl =>
    obtain ⟨text, rfl⟩ := isText_of_putTrouble?_eq_none htrouble
    obtain rfl := Option.some.inj hwording
    exact clause_putLine rfl rfl
  | verifyTtl table recordcount => exact absurd hwording (by simp [wording])
  | scan table startkey recordcount | readLog table logcount =>
    obtain rfl := Option.some.inj hwording
    rfl

end Parts

/-- Clauses of fields are joined section by section, have no separator at their edges, and are empty
exactly when the names of all fields are those of content. Joining is associative with the empty
clause as its unit, so the clause of a call is what its parts give when they are joined in any
nesting, with empty clauses among them or without. -/
theorem clauses_join_in_any_nesting (flavor : Flavor) :
    (∀ front rear, Predicate.clause flavor (front ++ rear) =
      Predicate.join [Predicate.clause flavor front, Predicate.clause flavor rear]) ∧
    (∀ fields, (Predicate.clause flavor fields).head? ≠ some Predicate.separator ∧
      (Predicate.clause flavor fields).getLast? ≠ some Predicate.separator) ∧
    (∀ fields, Predicate.clause flavor fields = [] ↔
      ∀ f ∈ fields, FieldKind.ofName? f.1 = some .data) ∧
    (∀ a b c, Predicate.join [Predicate.join [a, b], c] =
      Predicate.join [a, Predicate.join [b, c]]) ∧
    (∀ c, Predicate.join [[], c] = c ∧ Predicate.join [c, []] = c) ∧
    ∀ {p : Profile} {issued : Nat} {c : Call} {q : QueryLine}, c.line? p issued = .ok (some q) →
      ∀ t : Predicate.Nesting, Predicate.kept t.leaves = Predicate.kept (c.parts p issued) →
        q.clause = t.joined := by
  have hunit (c : Text) : Predicate.join [[], c] = c ∧ Predicate.join [c, []] = c :=
    ⟨Predicate.join_singleton c, Predicate.join_pair_nil c⟩
  refine ⟨Predicate.clause_append flavor, Predicate.cleanEdged_clause flavor,
    Predicate.clause_eq_nil_iff flavor, Predicate.join_assoc, hunit, ?_⟩
  intro p issued c q hline t hleaves
  rw [clause_eq_join_parts hline, t.joined_eq_join_leaves]
  exact Predicate.join_congr hleaves.symm

/-- A record whose source is the separator and whose content says nothing, with its source joined
last and an empty clause among the rest. -/
theorem clause_of_key7_with_fields_joined_last :
    let values : Fields Value :=
      [("Data".toText, .text "&".toText), ("SRC".toText, .text "&".toText)]
    let c : Call := .insertTtl .null (.text "key7".toText) values (.int 30)
    let i := Identity.ofKey Workload.standard (.text "key7".toText)
    let t : Predicate.Nesting := .join [.clause "origin(&)".toText, .join [.join [.clause [],
      .clause "expiry(30)".toText], .join [.clause i.userPredicate, .clause i.purposePredicate]]]
    ∃ q, c.line? {} 0 = .ok (some q) ∧ Predicate.kept t.leaves = Predicate.kept (c.parts {} 0) ∧
      q.clause = t.joined ∧
      q.clause = "origin(&)&expiry(30)&session-key-is(7)&purpose-is(7)".toText := by
  intro values c i t
  have hline : c.line? {} 0 = .ok (some (putLine {} "key7".toText values (.int 30))) := rfl
  have hleaves : Predicate.kept t.leaves = Predicate.kept (c.parts {} 0) := by decide +kernel
  obtain ⟨-, -, -, -, -, hnesting⟩ := clauses_join_in_any_nesting .set
  have hclause := hnesting hline t hleaves
  exact ⟨_, hline, hleaves, hclause, by decide +kernel⟩

end Call

end WorkloadTrace
