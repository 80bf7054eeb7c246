import WorkloadTrace.Proofs.CallArguments
import WorkloadTrace.Proofs.Clauses
import WorkloadTrace.Proofs.SessionTrail
import WorkloadTrace.Text.Lines

/-!
# The framing of trace lines

Every route by which text reaches a line escapes it: quoted arguments, the predicates of conditions
and fields, and the identity that echoes a condition. A line that a call writes therefore has the
form of a query with quoted arguments, ends with its only line feed, and the trace of a whole run
splits back into the lines of its calls.
-/

namespace WorkloadTrace

namespace Text

instance (s : Text) : Decidable (Unbroken s) := inferInstanceAs (Decidable (_ ∧ _))

@[simp] theorem unbroken_nil : Unbroken [] := by decide

/-- Two texts are unbroken together when each of them is. -/
@[simp] theorem unbroken_append {s t : Text} :
    Unbroken (s ++ t) ↔ Unbroken s ∧ Unbroken t := by
  simp only [Unbroken, List.mem_append, not_or]
  constructor
  · rintro ⟨⟨h1, h2⟩, h3, h4⟩
    exact ⟨⟨h1, h3⟩, h2, h4⟩
  · rintro ⟨⟨h1, h3⟩, h2, h4⟩
    exact ⟨⟨h1, h2⟩, h3, h4⟩

/-- A text is unbroken when its first character and the rest are. -/
theorem unbroken_cons {c : CodePoint} {s : Text} : Unbroken (c :: s) ↔ Unbroken [c] ∧ Unbroken s :=
  unbroken_append (s := [c])

/-- Unbroken parts are joined to an unbroken text. -/
theorem unbroken_joinWith {sep : Text} (hsep : Unbroken sep) {parts : List Text}
    (h : ∀ p ∈ parts, Unbroken p) : Unbroken (joinWith sep parts) := by
  constructor
  · intro hmem
    rcases mem_joinWith hmem with hmem | ⟨p, hp, hmem⟩
    · exact hsep.1 hmem
    · exact (h p hp).1 hmem
  · intro hmem
    rcases mem_joinWith hmem with hmem | ⟨p, hp, hmem⟩
    · exact hsep.2 hmem
    · exact (h p hp).2 hmem

/-- The first line of a text is what stands before its first line feed, with the line feed. -/
theorem lines_append_lineFeed {body : Text} (h : char '\n' ∉ body) (rest : Text) :
    lines (body ++ char '\n' :: rest) = (body ++ [char '\n']) :: lines rest := by
  induction body with
  | nil => simp [lines]
  | cons c cs ih =>
    simp only [List.mem_cons, not_or] at h
    rw [List.cons_append, lines, ih h.2]
    simp [Ne.symm h.1]

end Text

namespace Predicate

/-- A predicate with unbroken content is unbroken. -/
theorem unbroken_render (flavor : Flavor) (kind : FieldKind) {content : Text}
    (h : Text.Unbroken content) : Text.Unbroken ((kind.shape flavor).render content) := by
  obtain ⟨hn, hr⟩ := h
  cases flavor <;> cases kind <;>
    simp [FieldKind.shape, Shape.render, Text.Unbroken, String.toText, hn, hr]

/-- No value breaks the line of its predicate. -/
theorem unbroken_ofKind (flavor : Flavor) (kind : Option FieldKind) (value : Value) :
    Text.Unbroken (ofKind flavor kind value) := by
  cases kind with
  | none => simp only [ofKind]; decide
  | some k => exact unbroken_render flavor k (Text.unbroken_escape _)

/-- Clauses that are unbroken are joined to an unbroken one. -/
theorem unbroken_join {clauses : List Text} (h : ∀ c ∈ clauses, Text.Unbroken c) :
    Text.Unbroken (join clauses) :=
  Text.unbroken_joinWith (by decide) fun c hc => h c (List.mem_filter.1 hc).1

/-- No clause has a break, since values are escaped in it. -/
theorem unbroken_clause (flavor : Flavor) (fields : List (Value × Value)) :
    Text.Unbroken (clause flavor fields) := by
  apply unbroken_join
  intro c hc
  obtain ⟨f, -, rfl⟩ := List.mem_map.1 hc
  exact unbroken_ofKind _ _ _

end Predicate

namespace Identity

/-- Nor has a context. -/
theorem unbroken_context (i : Identity) (clause : Text) : Text.Unbroken (i.context clause) := by
  apply Predicate.unbroken_join
  intro c hc
  have hmem : c = i.userPredicate ∨ c = i.purposePredicate := by
    simpa using (List.mem_filter.1 hc).1
  rcases hmem with rfl | rfl <;> exact Predicate.unbroken_ofKind _ _ _

/-- A clause on one line stays so when the access context follows it. -/
theorem unbroken_join_context (i : Identity) {clause : Text} (h : Text.Unbroken clause) :
    Text.Unbroken (Predicate.join [clause, i.context clause]) := by
  apply Predicate.unbroken_join
  intro c hc
  rcases List.mem_cons.1 hc with rfl | hc
  · exact h
  · obtain rfl := List.mem_singleton.1 hc
    exact unbroken_context i clause

end Identity

namespace QueryLine

/-- The form of a trace line: a query with one or more quoted arguments, perhaps a clause that is
not empty, and a line feed, which is the only line break. -/
structure IsFramed (line : Text) : Prop where
  /-- The verb, the arguments as they stand between their quotes, and the clause; an empty clause
  means that there is none. -/
  form : ∃ (verb : Verb) (args : List Text) (clause : Text),
    args ≠ [] ∧ (∀ a ∈ args, (Text.unescape? a).isSome = true) ∧
    line = "query(".toText ++ verb.word ++
      char '(' :: Text.joinWith [char ','] (args.map fun a => char '\x22' :: a ++ [char '\x22']) ++
        "))".toText ++
      (if clause = [] then [] else char '&' :: clause) ++ [char '\n']
  /-- The line feed stands at the end and nowhere else. -/
  ended : ∃ body, line = body ++ [char '\n'] ∧ char '\n' ∉ body
  /-- There is no carriage return. -/
  no_return : char '\r' ∉ line

/-- Nor has a call, since its arguments are escaped. -/
theorem unbroken_renderCall (q : QueryLine) : Text.Unbroken q.renderCall := by
  have hverb : Text.Unbroken q.verb.word := by cases q.verb <;> decide
  have hargs : Text.Unbroken (Text.joinWith [char ','] (q.args.map quoteArg)) := by
    apply Text.unbroken_joinWith (by decide)
    intro a ha
    obtain ⟨arg, -, rfl⟩ := List.mem_map.1 ha
    rw [quoteArg, Text.unbroken_append, Text.unbroken_cons]
    exact ⟨⟨by decide, Text.unbroken_escape arg⟩, by decide⟩
  have hopen : Text.Unbroken (char '(' :: Text.joinWith [char ','] (q.args.map quoteArg)) :=
    Text.unbroken_cons.2 ⟨by decide, hargs⟩
  have hstart : Text.Unbroken ("query(".toText ++ q.verb.word) :=
    Text.unbroken_append.2 ⟨by decide, hverb⟩
  exact Text.unbroken_append.2 ⟨Text.unbroken_append.2 ⟨hstart, hopen⟩, by decide⟩

/-- A clause that is unbroken is written without a break. -/
theorem unbroken_renderClause {q : QueryLine} (h : Text.Unbroken q.clause) :
    Text.Unbroken q.renderClause := by
  rw [renderClause]
  split
  · exact Text.unbroken_nil
  · exact Text.unbroken_cons.2 ⟨by decide, h⟩

/-- A query line with an argument and a clause on one line is framed. -/
theorem isFramed_render {q : QueryLine} (hargs : q.args ≠ [])
    (hclause : Text.Unbroken q.clause) : IsFramed q.render := by
  have hbody : Text.Unbroken (q.renderCall ++ q.renderClause) :=
    Text.unbroken_append.2 ⟨q.unbroken_renderCall, unbroken_renderClause hclause⟩
  refine ⟨⟨q.verb, q.args.map Text.escape, q.clause, by simpa using hargs, ?_, ?_⟩,
    ⟨q.renderCall ++ q.renderClause, rfl, hbody.1⟩, ?_⟩
  · intro a ha
    obtain ⟨arg, -, rfl⟩ := List.mem_map.1 ha
    simp [Text.unescape?_escape]
  · have hquote : (q.args.map Text.escape).map (fun a => char '\x22' :: a ++ [char '\x22']) =
        q.args.map quoteArg := List.map_map
    have hrest : q.renderClause = if q.clause = [] then [] else char '&' :: q.clause := by
      simp only [renderClause, List.isEmpty_iff, Predicate.separator]
    rw [hquote, ← hrest]
    rfl
  · intro hmem
    rcases List.mem_append.1 hmem with h | h
    · exact hbody.2 h
    · exact absurd h (by decide)

end QueryLine

namespace Call

variable {p : Profile} {issued : Nat} {c : Call}

/-- The clause of a condition is unbroken when what it assigns is. -/
theorem unbroken_conditionClause (p : Profile) (selector : Nat) (kind : Option FieldKind)
    (condition : Value) {assignment : Text} (h : Text.Unbroken assignment) :
    Text.Unbroken (conditionClause p selector kind condition assignment) := by
  apply Identity.unbroken_join_context
  apply Predicate.unbroken_join
  intro c hc
  rcases List.mem_cons.1 hc with rfl | hc
  · exact Predicate.unbroken_ofKind _ _ _
  · obtain rfl := List.mem_singleton.1 hc
    exact h

/-- The clause of a record is unbroken. -/
theorem unbroken_fieldsClause (values : Fields Value) (ttl : Value) :
    Text.Unbroken (fieldsClause values ttl) := by
  have hfields : Text.Unbroken (Predicate.clause .set (values.map fun f => (.text f.1, f.2))) :=
    Predicate.unbroken_clause _ _
  simp only [fieldsClause]
  split
  · exact hfields
  · split
    · exact hfields
    · apply Predicate.unbroken_join
      intro c hc
      rcases List.mem_cons.1 hc with rfl | hc
      · exact hfields
      · obtain rfl := List.mem_singleton.1 hc
        exact Predicate.unbroken_ofKind _ _ _

/-- The line of a record has an argument and no break. -/
theorem putLine_framing (p : Profile) (key : Text) (values : Fields Value) (ttl : Value) :
    (putLine p key values ttl).args ≠ [] ∧ Text.Unbroken (putLine p key values ttl).clause := by
  rw [putLine]
  split
  · exact ⟨by simp, Identity.unbroken_join_context _ (unbroken_fieldsClause values ttl)⟩
  · exact ⟨by simp, Text.unbroken_nil⟩

/-- Every line that a call writes has an argument, and its clause has no line break. -/
theorem wording_framing {q : QueryLine} (h : c.wording p issued = some q) :
    q.args ≠ [] ∧ Text.Unbroken q.clause := by
  cases c with
  | read table key =>
    obtain rfl := Option.some.inj h
    exact ⟨by simp [keyLine, QueryLine.ofValues], Identity.unbroken_context _ _⟩
  | delete table key =>
    obtain rfl := Option.some.inj h
    exact ⟨by simp [keyLine, QueryLine.ofValues], Identity.unbroken_context _ _⟩
  | readMeta table fieldnum condition keymatch =>
    obtain rfl := Option.some.inj h
    exact ⟨by simp [QueryLine.ofValues], unbroken_conditionClause _ _ _ _ Text.unbroken_nil⟩
  | deleteMeta table fieldnum condition keymatch =>
    obtain rfl := Option.some.inj h
    exact ⟨by simp [QueryLine.ofValues], unbroken_conditionClause _ _ _ _ Text.unbroken_nil⟩
  | updateMeta table fieldnum condition keymatch fieldName fieldValue =>
    obtain rfl := Option.some.inj h
    exact ⟨by simp [QueryLine.ofValues],
      unbroken_conditionClause _ _ _ _ (Predicate.unbroken_ofKind _ _ _)⟩
  | insert table key values =>
    obtain rfl := Option.some.inj h
    exact putLine_framing p key.display values .null
  | update table key values =>
    obtain rfl := Option.some.inj h
    exact putLine_framing p key.display values .null
  | insertTtl table key values ttl =>
    obtain rfl := Option.some.inj h
    exact putLine_framing p key.display values ttl
  | scan table startkey recordcount =>
    obtain rfl := Option.some.inj h
    exact ⟨by simp [QueryLine.ofValues], Text.unbroken_nil⟩
  | verifyTtl table recordcount => cases h
  | readLog table logcount =>
    obtain rfl := Option.some.inj h
    exact ⟨by simp [QueryLine.ofValues], Text.unbroken_nil⟩

/-- Only a check of expiry writes no line. -/
theorem eq_verifyTtl_of_line?_none (h : c.line? p issued = .ok none) :
    ∃ table recordcount, c = .verifyTtl table recordcount := by
  have htraced : c.isTraced = false := (isSome_of_line?_eq_ok h).symm
  cases c with
  | verifyTtl table recordcount => exact ⟨table, recordcount, rfl⟩
  | _ => cases htraced

end Call

namespace QueryLine

/-- Framed lines one after the other are cut into themselves. -/
theorem lines_flatten {ls : List Text} (h : ∀ l ∈ ls, IsFramed l) :
    Text.lines ls.flatten = ls := by
  induction ls with
  | nil => rfl
  | cons l ls ih =>
    obtain ⟨body, hbody, hbreak⟩ := (h l List.mem_cons_self).ended
    have hrest := ih fun m hm => h m (List.mem_cons_of_mem _ hm)
    rw [List.flatten_cons, hbody, List.append_assoc, List.singleton_append,
      Text.lines_append_lineFeed hbreak, hrest]

/-- At their line feeds, framed lines one after the other fall into their bodies. -/
theorem splitOn_flatten {ls : List Text} (h : ∀ l ∈ ls, IsFramed l) :
    Text.splitOn (char '\n') ls.flatten = ls.map List.dropLast ++ [[]] := by
  induction ls with
  | nil => rfl
  | cons l ls ih =>
    obtain ⟨body, hbody, hbreak⟩ := (h l List.mem_cons_self).ended
    have hrest := ih fun m hm => h m (List.mem_cons_of_mem _ hm)
    rw [List.flatten_cons, hbody, List.append_assoc, List.singleton_append,
      Text.splitOn_append_cons hbreak, hrest]
    simp

end QueryLine

namespace Session

variable {σ : Type}

/-- Every line that a session writes is framed. -/
theorem isFramed_lineOf {s : Session σ} {action : Step} {line : Text}
    (h : s.lineOf action = some line) : QueryLine.IsFramed line := by
  cases action with
  | attach => exact absurd h (by simp [lineOf])
  | detach => exact absurd h (by simp [lineOf])
  | call client c =>
    simp only [lineOf] at h
    split at h
    · obtain ⟨q, hq, rfl⟩ := Option.map_eq_some_iff.1 h
      obtain ⟨-, hwording⟩ := Call.line?_eq_ok_iff.1 (queryFor_eq_some_iff.1 hq)
      obtain ⟨hargs, hclause⟩ := Call.wording_framing hwording
      exact QueryLine.isFramed_render hargs hclause
    · exact absurd h (by simp)

/-- A call that is performed writes a line unless it is a check of expiry. -/
theorem exists_lineOf_of_performed {ops : Sink σ} {s : Session σ} {j : Journal} {client : Int}
    {c : Call} (h : (s.step ops j (.call client c)).1 = .performed)
    (hc : ∀ table recordcount, c ≠ .verifyTtl table recordcount) :
    ∃ line, s.lineOf (.call client c) = some line := by
  obtain ⟨hclient, hline⟩ := performed_call h
  cases hq : s.queryFor c with
  | none =>
    obtain ⟨table, recordcount, he⟩ := Call.eq_verifyTtl_of_line?_none (hq ▸ hline)
    exact absurd he (hc table recordcount)
  | some q => exact ⟨q.render, by simp [lineOf, hclient, hq]⟩

/-- In every run on a sink in memory, each performed call but a check of expiry hands over exactly
one line, which is framed; a check of expiry hands over nothing; and the lines of the trace are
exactly those of the calls in order. -/
theorem trail_memory_framed (settings : Settings) (id : Text) (j : Journal)
    (steps : List Step) :
    let start : Session (List SinkEvent) := { settings := settings, id := id, sink := [] }
    let ts := trail Sink.memory start j steps
    let trace := SinkEvent.traceText (start.afterAll ts).sink
    let written := ts.filterMap fun t => t.before.lineOf t.action
    (∀ t ∈ ts, ∀ client c, t.action = .call client c → t.reply = .performed →
      (∀ table recordcount, c ≠ .verifyTtl table recordcount) →
      ∃ line, t.before.lineOf t.action = some line ∧
        t.after.sink = t.before.sink ++ [.received line] ∧ QueryLine.IsFramed line) ∧
    (∀ t ∈ ts, ∀ client table recordcount,
      t.action = .call client (.verifyTtl table recordcount) → t.after.sink = t.before.sink) ∧
    Text.lines trace = written ∧
    Text.splitOn (char '\n') trace = written.map List.dropLast ++ [[]] := by
  intro start ts trace written
  have hsink : ∀ t ∈ ts, t.after.sink = t.before.sink ++ t.before.eventsOf t.action := by
    intro t ht
    obtain ⟨j', -, hafter⟩ := step_of_mem_trail ht
    rw [hafter, sink_step_memory]
  have htrace : trace = written.flatten := by
    have hlines := lines_afterAll_memory start j steps
    rw [show start.sink = [] from rfl, List.filterMap_nil, List.nil_append] at hlines
    exact congrArg List.flatten hlines
  have hframed : ∀ l ∈ written, QueryLine.IsFramed l := by
    intro l hl
    obtain ⟨t, -, ht⟩ := List.mem_filterMap.1 hl
    exact isFramed_lineOf ht
  refine ⟨?_, ?_, ?_, ?_⟩
  · intro t ht client c haction hreply hc
    obtain ⟨j', hr, -⟩ := step_of_mem_trail ht
    rw [hr, haction] at hreply
    obtain ⟨line, hline⟩ := exists_lineOf_of_performed hreply hc
    refine ⟨line, by rw [haction, hline], ?_, isFramed_lineOf hline⟩
    rw [hsink t ht, haction, eventsOf, hline]
    rfl
  · intro t ht client table recordcount haction
    have hnone : t.before.queryFor (.verifyTtl table recordcount) = none := rfl
    rw [hsink t ht, haction]
    simp [eventsOf, lineOf, hnone]
  · rw [htrace, QueryLine.lines_flatten hframed]
  · rw [htrace, QueryLine.splitOn_flatten hframed]

/-- A run with a line break in a value and with a check of expiry. -/
def runWithLineBreak : List (Transition (List SinkEvent)) :=
  trail Sink.memory { settings := {}, id := [], sink := [] } {}
    [.attach,
      .call 0 (.insert .null (.text "user1".toText) [("field0".toText, .text "a\r\nb".toText)]),
      .call 0 (.verifyTtl .null (.int 1)), .detach]

/-- A line with a break in its condition is handed over, and the trace of the run is cut where its
lines end. -/
theorem runWithLineBreak_framed :
    (∃ t ∈ runWithLineBreak, t.reply = .performed ∧ ∃ line,
      t.after.sink = t.before.sink ++ [.received line] ∧ QueryLine.IsFramed line) ∧
    Text.lines (SinkEvent.traceText
      (afterAll { settings := {}, id := [], sink := [] } runWithLineBreak).sink) =
        ["query(PUT(\"user1\",\"a\\r\\nb\"))\n".toText] := by
  obtain ⟨hcalls, -, hlines, -⟩ := trail_memory_framed {} [] {}
    [.attach,
      .call 0 (.insert .null (.text "user1".toText) [("field0".toText, .text "a\r\nb".toText)]),
      .call 0 (.verifyTtl .null (.int 1)), .detach]
  have hmem : runWithLineBreak[1] ∈ runWithLineBreak := List.getElem_mem (by decide)
  obtain ⟨line, -, hsink, hframed⟩ := hcalls runWithLineBreak[1] hmem 0
    (.insert .null (.text "user1".toText) [("field0".toText, .text "a\r\nb".toText)]) rfl rfl
    (by simp)
  exact ⟨⟨runWithLineBreak[1], hmem, rfl, line, hsink, hframed⟩, hlines.trans (by decide)⟩

end Session

end WorkloadTrace
