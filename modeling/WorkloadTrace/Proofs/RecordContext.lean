import WorkloadTrace.Proofs.AccessContext
import WorkloadTrace.Proofs.CallArguments

/-!
# The access context of a record

Calls on one key derive the identity from the key alone, so the lines that read and delete its
record end with one access context. A line that writes the record leaves out the predicates that it
finds among the pieces of its values. Since values may contain the separator, a value can stand in
for a predicate of the context.
-/

namespace WorkloadTrace

namespace Predicate

/-- An assignment is never the predicate that names who asks or why. -/
theorem ofKind_set_not_context (kind : Option FieldKind) (value : Value) (i : Identity) :
    ofKind .set kind value ≠ i.userPredicate ∧ ofKind .set kind value ≠ i.purposePredicate := by
  rw [Identity.userPredicate_eq, Identity.purposePredicate_eq]
  cases kind with
  | none => simp [ofKind, unknown, String.toText]
  | some k => cases k <;> simp [ofKind, FieldKind.shape, Shape.render, String.toText]

theorem mem_render {shape : Shape} {content : Text} {c : CodePoint} (h : c ∈ shape.render content) :
    c ∈ content ∨ c ∈ shape.render [] := by
  cases shape with
  | call name =>
    simp only [Shape.render, List.mem_append, List.mem_cons, List.not_mem_nil, or_false] at h ⊢
    rcases h with (h | h | h) | h
    · exact Or.inr (Or.inl (Or.inl h))
    · exact Or.inr (Or.inl (Or.inr h))
    · exact Or.inl h
    · exact Or.inr (Or.inr h)
  | word name => exact Or.inr h
  | silent => exact Or.inr h

theorem separator_not_mem_render_nil (flavor : Flavor) (kind : FieldKind) :
    separator ∉ (kind.shape flavor).render [] := by
  cases flavor <;> cases kind <;> decide

/-- A predicate contains the separator only if its value does. -/
theorem separator_mem_ofKind {flavor : Flavor} {kind : Option FieldKind} {value : Value}
    (h : separator ∈ ofKind flavor kind value) : separator ∈ value.traceText := by
  cases kind with
  | none => exact absurd h (by simp [ofKind, unknown, separator, String.toText])
  | some k =>
    rcases mem_render h with h | h
    · exact Text.separator_mem_escape_iff.1 h
    · exact absurd h (separator_not_mem_render_nil flavor k)

/-- A predicate whose value does not contain the separator has no piece but itself. -/
theorem eq_of_mem_tokens_ofKind {flavor : Flavor} {kind : Option FieldKind} {value : Value}
    (hvalue : separator ∉ value.traceText) {t : Text}
    (ht : t ∈ Identity.tokens (ofKind flavor kind value)) : t = ofKind flavor kind value := by
  by_cases hnil : ofKind flavor kind value = []
  · rw [hnil] at ht
    exact absurd ht List.not_mem_nil
  · rw [Identity.tokens_eq_singleton hnil fun h => hvalue (separator_mem_ofKind h)] at ht
    exact List.mem_singleton.1 ht

theorem ofKind_of_mem_tokens_clause {values : Fields Value}
    (hvalues : ∀ f ∈ values, separator ∉ f.2.traceText) {t : Text}
    (ht : t ∈ Identity.tokens (clause .set (values.map fun f => (.text f.1, f.2)))) :
    ∃ kind value, t = ofKind .set kind value := by
  rw [clause, Identity.tokens_join] at ht
  obtain ⟨p, hp, ht⟩ := List.mem_flatMap.1 ht
  obtain ⟨pair, hpair, rfl⟩ := List.mem_map.1 hp
  obtain ⟨f, hf, rfl⟩ := List.mem_map.1 hpair
  exact ⟨_, _, eq_of_mem_tokens_ofKind (hvalues f hf) ht⟩

end Predicate

namespace Call

/-- The pieces of a record's clause are assignments when no value contains the separator. -/
theorem ofKind_of_mem_tokens_fieldsClause {values : Fields Value} {ttl : Value}
    (hvalues : ∀ f ∈ values, Predicate.separator ∉ f.2.traceText)
    (httl : Predicate.separator ∉ ttl.traceText) {t : Text}
    (ht : t ∈ Identity.tokens (fieldsClause values ttl)) :
    ∃ kind value, t = Predicate.ofKind .set kind value := by
  simp only [fieldsClause] at ht
  split at ht
  · exact Predicate.ofKind_of_mem_tokens_clause hvalues ht
  · split at ht
    · exact Predicate.ofKind_of_mem_tokens_clause hvalues ht
    · rw [Identity.tokens_join] at ht
      obtain ⟨c, hc, ht⟩ := List.mem_flatMap.1 ht
      rcases List.mem_cons.1 hc with rfl | hc
      · exact Predicate.ofKind_of_mem_tokens_clause hvalues ht
      · obtain rfl := List.mem_singleton.1 hc
        exact ⟨_, _, Predicate.eq_of_mem_tokens_ofKind httl ht⟩

/-- No predicate of an identity is among the pieces of a record's clause when no value contains the
separator. -/
theorem context_not_mem_tokens_fieldsClause {values : Fields Value} {ttl : Value}
    (hvalues : ∀ f ∈ values, Predicate.separator ∉ f.2.traceText)
    (httl : Predicate.separator ∉ ttl.traceText) (i : Identity) :
    i.userPredicate ∉ Identity.tokens (fieldsClause values ttl) ∧
      i.purposePredicate ∉ Identity.tokens (fieldsClause values ttl) := by
  constructor
  · intro h
    obtain ⟨kind, value, heq⟩ := ofKind_of_mem_tokens_fieldsClause hvalues httl h
    exact (Predicate.ofKind_set_not_context kind value i).1 heq.symm
  · intro h
    obtain ⟨kind, value, heq⟩ := ofKind_of_mem_tokens_fieldsClause hvalues httl h
    exact (Predicate.ofKind_set_not_context kind value i).2 heq.symm

/-- A call that reads or deletes the record of a key. -/
inductive Asks (key : Text) : Call → Prop where
  /-- A reading. -/
  | read (table : Value) : Asks key (.read table (.text key))
  /-- A deletion. -/
  | delete (table : Value) : Asks key (.delete table (.text key))

theorem line?_of_asks {p : Profile} {issued : Nat} {key : Text} {c : Call} (h : Asks key c) :
    ∃ verb, c.line? p issued = .ok (some (keyLine p verb (.text key))) := by
  cases h with
  | read table => exact ⟨.get, rfl⟩
  | delete table => exact ⟨.delete, rfl⟩

theorem putLine_clause {p : Profile} {key : Text} (hkey : Text.startsWith metadataHead key = true)
    (values : Fields Value) (ttl : Value) :
    (putLine p key values ttl).clause = Predicate.join [fieldsClause values ttl,
      (Identity.ofKey p.workload (.text key)).context (fieldsClause values ttl)] := by
  rw [putLine, if_pos hkey]

/-- A line that reads or deletes a record ends with the access context of its key. -/
theorem contextEnding_suffix_keyLine (p : Profile) (verb : Verb) (key : Value) :
    (Identity.ofKey p.workload key).contextEnding <:+ (keyLine p verb key).render := by
  have htokens : Identity.tokens (keyLine p verb key).clause =
      [(Identity.ofKey p.workload key).userPredicate,
        (Identity.ofKey p.workload key).purposePredicate] := by
    have h := Identity.tokens_join_context (Identity.isWhole_ofKey p.workload key) []
    rw [Predicate.join_nil_cons, Predicate.join_singleton] at h
    exact h
  refine (QueryLine.contextEnding_suffix_render_iff ?_).2 ?_
  · simp [htokens]
  · exact htokens ▸ List.suffix_refl _

/-- A line that writes a record ends with the access context of its key unless the values stand in
for one of its predicates. -/
theorem contextEnding_suffix_putLine_iff {p : Profile} {key : Text}
    (hkey : Text.startsWith metadataHead key = true) (values : Fields Value) (ttl : Value) :
    (Identity.ofKey p.workload (.text key)).contextEnding <:+
        (putLine p key values ttl).render ↔
      [(Identity.ofKey p.workload (.text key)).userPredicate,
          (Identity.ofKey p.workload (.text key)).purposePredicate] <:+
        Identity.tokens (fieldsClause values ttl) ++
          (Identity.ofKey p.workload (.text key)).missing
            (Identity.tokens (fieldsClause values ttl)) := by
  have htokens := congrArg Identity.tokens (putLine_clause (p := p) hkey values ttl)
  rw [Identity.tokens_join_context (Identity.isWhole_ofKey p.workload (.text key))] at htokens
  rw [QueryLine.contextEnding_suffix_render_iff, htokens]
  rw [htokens]
  exact Identity.two_le_length_append_missing _ _

end Call

namespace Session

variable {σ : Type}

/-- At any points of runs with the same settings, a line that reads or deletes a record with
metadata ends with the access context of its key. A line that writes it does so exactly when none
of the two predicates is among the pieces of its values, or its values end with the first or with
both of them; so it does whenever no value contains the separator. -/
theorem lines_agree_on_context {s s' : Session σ} {client client' : Int} {put ask : Call}
    {key : Text} {values : Fields Value} {ttl : Value} (hsettings : s'.settings = s.settings)
    (hclient : s.hasClient client = true) (hclient' : s'.hasClient client' = true)
    (hput : Call.Puts key values ttl put) (hask : Call.Asks key ask)
    (hshown : ∀ f ∈ values, f.2.trouble? s.levels = none) (httl : ttl.trouble? s.levels = none)
    (hkey : Text.startsWith Call.metadataHead key = true) :
    let i := Identity.ofKey s.settings.workload (.text key)
    let pieces := Identity.tokens (Call.fieldsClause values ttl)
    ∃ line shown, s.lineOf (.call client put) = some line ∧
      s'.lineOf (.call client' ask) = some shown ∧
      i.contextEnding <:+ shown ∧
      (i.contextEnding <:+ line ↔
        i.userPredicate ∉ pieces ∧ i.purposePredicate ∉ pieces ∨
          i.purposePredicate ∉ pieces ∧ pieces.getLast? = some i.userPredicate ∨
          [i.userPredicate, i.purposePredicate] <:+ pieces) ∧
      ((∀ f ∈ values, Predicate.separator ∉ f.2.traceText) →
        Predicate.separator ∉ ttl.traceText → i.contextEnding <:+ line) := by
  intro i pieces
  have hprofile : s.profile.workload = s.settings.workload := rfl
  have hprofile' : s'.profile.workload = s.settings.workload := by
    rw [← hsettings]
    rfl
  obtain ⟨verb, hverb⟩ : ∃ verb, ask.line? s'.profile s'.issued =
      .ok (some (Call.keyLine s'.profile verb (.text key))) := Call.line?_of_asks hask
  have hput' := Call.contextEnding_suffix_putLine_iff (p := s.profile) hkey values ttl
  rw [hprofile, Identity.pair_suffix_append_missing_iff] at hput'
  refine ⟨(Call.putLine s.profile key values ttl).render,
    (Call.keyLine s'.profile verb (.text key)).render, ?_, ?_, ?_, hput', ?_⟩
  · exact lineOf_call hclient (hput.line?_eq hshown httl)
  · exact lineOf_call hclient' hverb
  · have hcontext := Call.contextEnding_suffix_keyLine s'.profile verb (.text key)
    rwa [hprofile'] at hcontext
  · intro hvalues httl
    exact hput'.2 (Or.inl (Call.context_not_mem_tokens_fieldsClause hvalues httl i))

/-- Values without the separator leave the context of a line as it is. -/
theorem lines_agree_on_key42 :
    withOneClient.hasClient 0 = true ∧ Text.startsWith Call.metadataHead "key42".toText = true ∧
      ∃ line shown,
        withOneClient.lineOf (.call 0 (.insertTtl .null (.text "key42".toText)
          [("SRC".toText, .text "a\nb".toText), ("x".toText, .null)] (.int 5))) = some line ∧
        withOneClient.lineOf (.call (-1) (.delete .null (.text "key42".toText))) = some shown ∧
        (Identity.ofKey .standard (.text "key42".toText)).contextEnding <:+ shown ∧
        (Identity.ofKey .standard (.text "key42".toText)).contextEnding <:+ line := by
  have hclient : withOneClient.hasClient 0 = true := by decide
  have hclient' : withOneClient.hasClient (-1) = true := by decide
  have hinsert : Call.Puts "key42".toText
      [("SRC".toText, .text "a\nb".toText), ("x".toText, .null)] (.int 5)
      (.insertTtl .null (.text "key42".toText)
        [("SRC".toText, .text "a\nb".toText), ("x".toText, .null)] (.int 5)) :=
    .insertTtl .null (.int 5)
  obtain ⟨line, shown, hline, hshown, hask, -, hput⟩ :=
    lines_agree_on_context rfl hclient hclient' hinsert (.delete .null) (by decide) (by decide)
      (by decide)
  exact ⟨by decide, by decide, line, shown, hline, hshown, hask, hput (by decide) (by decide)⟩

/-- A value that contains a predicate of the context between separators removes it from the end of
the line. -/
theorem value_hides_user_of_key42 :
    withOneClient.lineOf (.call 0 (.insert .null (.text "key42".toText)
        [("SRC".toText, .text "a&session-key-is(42)&b".toText)])) =
      some "query(PUT(\"key42\",\"\"))&origin(a&session-key-is(42)&b)&purpose-is(42)\n".toText ∧
    withOneClient.lineOf (.call 0 (.read .null (.text "key42".toText))) =
      some "query(GET(\"key42\"))&session-key-is(42)&purpose-is(42)\n".toText ∧
    ¬(Identity.ofKey .standard (.text "key42".toText)).contextEnding <:+
      "query(PUT(\"key42\",\"\"))&origin(a&session-key-is(42)&b)&purpose-is(42)\n".toText := by
  decide +kernel

end Session

end WorkloadTrace
