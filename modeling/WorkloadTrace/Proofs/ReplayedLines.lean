import WorkloadTrace.Proofs.ParsedOperations
import WorkloadTrace.Proofs.SinkTrouble

/-!
# Replayed lines can be written

What a document holds can be traced: its texts have no surrogates, and no integer that is read from
it has too many digits. So the calls of a replay are written as lines that have no surrogates, and a
file that accepts its path takes them. Nothing is raised then, except for the numerals of a workload
with more records than a numeral can count.
-/

namespace WorkloadTrace

open Decimal (maxDigits)

namespace Text

/-- An escape has a surrogate when it is that of one. -/
theorem hasSurrogate_escapeChar (c : CodePoint) : hasSurrogate (escapeChar c) = c.isSurrogate := by
  simp only [escapeChar]
  split_ifs with hback hquote hfeed hreturn
  · rw [hback]
    decide
  · rw [hquote]
    decide
  · rw [hfeed]
    decide
  · rw [hreturn]
    decide
  · simp

/-- Escaping neither adds nor removes surrogates. -/
@[simp] theorem hasSurrogate_escape (s : Text) : hasSurrogate (escape s) = hasSurrogate s := by
  induction s with
  | nil => rfl
  | cons c s ih => simp [hasSurrogate_escapeChar, ih]

/-- Parts without surrogates are joined to a text without any. -/
theorem hasSurrogate_joinWith {sep : Text} {parts : List Text} (hsep : hasSurrogate sep = false)
    (h : ∀ part ∈ parts, hasSurrogate part = false) :
    hasSurrogate (joinWith sep parts) = false := by
  simp only [hasSurrogate_eq_false_iff] at hsep h ⊢
  exact forall_mem_joinWith hsep h

/-- A numeral has no surrogates. -/
@[simp] theorem hasSurrogate_ofNat (n : Nat) : hasSurrogate (Decimal.ofNat n) = false := by
  simp [hasSurrogate_eq_false_iff, Decimal.ofNat]

end Text

namespace Value

/-- Whether a value is a text without surrogates or a natural number whose numeral is not too
long. -/
def IsPlain (v : Value) : Prop := Json.Plain true 0 v

variable {v : Value}

/-- A plain value stands in a line without surrogates. -/
theorem IsPlain.hasSurrogate_traceText (h : v.IsPlain) : Text.hasSurrogate v.traceText = false := by
  cases h with
  | text depth h => exact Json.hasSurrogate_of_legible h
  | natural depth h => exact Text.hasSurrogate_ofNat _

/-- So does it where it is shown alone. -/
theorem IsPlain.hasSurrogate_display (h : v.IsPlain) : Text.hasSurrogate v.display = false := by
  cases h with
  | text depth h => exact Json.hasSurrogate_of_legible h
  | natural depth h => exact Text.hasSurrogate_ofNat _

/-- A plain value can be shown. -/
theorem IsPlain.trouble? (h : v.IsPlain) (levels : Nat) : v.trouble? levels = none := by
  cases h with
  | text depth h => rfl
  | natural depth h =>
    exact Decimal.trouble?_eq_none_iff.2 (decide_eq_true h)

end Value

namespace Predicate

variable {v : Value}

/-- A predicate shows no surrogates but those of its value. -/
theorem hasSurrogate_ofKind (flavor : Flavor) (kind : Option FieldKind)
    (h : Text.hasSurrogate v.traceText = false) :
    Text.hasSurrogate (ofKind flavor kind v) = false := by
  cases kind with
  | none => exact Text.hasSurrogate_toText _
  | some k =>
    have hescaped : Text.hasSurrogate v.escaped = false := by simpa [Value.escaped] using h
    cases flavor <;> cases k <;> simp [ofKind, FieldKind.shape, Shape.render, hescaped]

/-- Clauses without surrogates have a join without any. -/
theorem hasSurrogate_join {clauses : List Text}
    (h : ∀ c ∈ clauses, Text.hasSurrogate c = false) : Text.hasSurrogate (join clauses) = false :=
  Text.hasSurrogate_joinWith rfl fun c hc => h c (List.mem_of_mem_filter hc)

end Predicate

namespace Identity

/-- An identity without surrogates adds none to a clause. -/
theorem hasSurrogate_context {i : Identity} (huser : Text.hasSurrogate i.user = false)
    (hpurpose : Text.hasSurrogate i.purpose = false) (clause : Text) :
    Text.hasSurrogate (i.context clause) = false := by
  refine Predicate.hasSurrogate_join fun c hc => ?_
  have hmem : c = i.userPredicate ∨ c = i.purposePredicate := by
    simpa using (List.mem_filter.1 hc).1
  rcases hmem with rfl | rfl
  · exact Predicate.hasSurrogate_ofKind _ _ huser
  · exact Predicate.hasSurrogate_ofKind _ _ hpurpose

/-- So has a clause with the context of an identity without surrogates. -/
theorem hasSurrogate_join_context {i : Identity} (huser : Text.hasSurrogate i.user = false)
    (hpurpose : Text.hasSurrogate i.purpose = false) {clause : Text}
    (h : Text.hasSurrogate clause = false) :
    Text.hasSurrogate (Predicate.join [clause, i.context clause]) = false :=
  Predicate.hasSurrogate_join <| by simp [h, hasSurrogate_context huser hpurpose]

/-- The identity for a plain condition has no surrogates. -/
theorem hasSurrogate_ofCondition {condition : Value} (h : condition.IsPlain) (w : Workload)
    (kind : Option FieldKind) (selector : Int) :
    let i := ofCondition w condition kind selector
    Text.hasSurrogate i.user = false ∧ Text.hasSurrogate i.purpose = false := by
  have hside := h.hasSurrogate_display
  unfold ofCondition
  split <;> simp [hside, anonymous]

end Identity

/-- A line of texts without surrogates has none. -/
theorem QueryLine.hasSurrogate_render {q : QueryLine}
    (hargs : ∀ arg ∈ q.args, Text.hasSurrogate arg = false)
    (hclause : Text.hasSurrogate q.clause = false) : Text.hasSurrogate q.render = false := by
  have hverb : Text.hasSurrogate q.verb.word = false := by cases q.verb <;> decide
  have hquoted : Text.hasSurrogate (Text.joinWith [char ','] (q.args.map quoteArg)) = false := by
    refine Text.hasSurrogate_joinWith rfl fun part hpart => ?_
    obtain ⟨arg, harg, rfl⟩ := List.mem_map.1 hpart
    simp [quoteArg, hargs arg harg]
  have hrest : Text.hasSurrogate q.renderClause = false := by
    rw [renderClause]
    split
    · rfl
    · simpa [Predicate.separator] using hclause
  simp [render, renderCall, hverb, hquoted, hrest]

namespace Call

variable {p : Profile}

/-- The values that a call shows in its line. -/
def shown : Call → List Value
  | .insert _ key values | .update _ key values => key :: values.map Prod.snd
  | .insertTtl _ key values ttl => key :: ttl :: values.map Prod.snd
  | c => c.arguments

/-- The clause of a plain condition has no surrogates. -/
theorem hasSurrogate_conditionClause {condition : Value} (h : condition.IsPlain) (selector : Nat)
    (kind : Option FieldKind) {assignment : Text}
    (hassignment : Text.hasSurrogate assignment = false) :
    Text.hasSurrogate (conditionClause p selector kind condition assignment) = false := by
  obtain ⟨huser, hpurpose⟩ := Identity.hasSurrogate_ofCondition h p.workload kind selector
  refine Identity.hasSurrogate_join_context huser hpurpose (Predicate.hasSurrogate_join ?_)
  simp [hassignment, Predicate.hasSurrogate_ofKind _ _ h.hasSurrogate_traceText]

/-- Nor has that of a record with plain values. -/
theorem hasSurrogate_fieldsClause {values : Fields Value} {ttl : Value}
    (hvalues : ∀ f ∈ values, f.2.IsPlain) (httl : Text.hasSurrogate ttl.traceText = false) :
    Text.hasSurrogate (fieldsClause values ttl) = false := by
  have hfields : Text.hasSurrogate
      (Predicate.clause .set (values.map fun f => (.text f.1, f.2))) = false := by
    refine Predicate.hasSurrogate_join fun c hc => ?_
    obtain ⟨e, he, rfl⟩ := List.mem_map.1 hc
    obtain ⟨f, hf, rfl⟩ := List.mem_map.1 he
    exact Predicate.hasSurrogate_ofKind _ _ (hvalues f hf).hasSurrogate_traceText
  simp only [fieldsClause]
  split
  · exact hfields
  · split
    · exact hfields
    · refine Predicate.hasSurrogate_join ?_
      simp [hfields, Predicate.hasSurrogate_ofKind _ _ httl]

/-- So the line of such a record has none. -/
theorem hasSurrogate_putLine {key ttl : Value} {values : Fields Value} (hkey : key.IsPlain)
    (hvalues : ∀ f ∈ values, f.2.IsPlain) (httl : Text.hasSurrogate ttl.traceText = false) :
    Text.hasSurrogate (putLine p key.display values ttl).render = false := by
  have hname := hkey.hasSurrogate_display
  have hplain : Text.hasSurrogate (plainContent p values) = false := by
    rw [plainContent]
    split
    · exact Text.hasSurrogate_toText _
    · rw [Text.hasSurrogate_eq_false_iff]
      intro c hc
      obtain ⟨f, hf, hc⟩ := List.mem_flatMap.1 hc
      exact Text.hasSurrogate_eq_false_iff.1 (hvalues f hf).hasSurrogate_traceText c hc
  have hcontent : Text.hasSurrogate (metadataContent p values) = false := by
    rw [metadataContent]
    split
    · rfl
    · next f hf =>
      split
      · exact Text.hasSurrogate_toText _
      · exact (hvalues f (List.mem_of_find?_eq_some hf)).hasSurrogate_traceText
  rw [putLine]
  split
  · refine QueryLine.hasSurrogate_render (by simp [hname, hcontent]) ?_
    exact Identity.hasSurrogate_join_context (Text.hasSurrogate_ofNat _)
      (Text.hasSurrogate_ofNat _) (hasSurrogate_fieldsClause hvalues httl)
  · exact QueryLine.hasSurrogate_render (by simp [hname, hplain]) rfl

/-- A call that shows plain values writes a line without surrogates. -/
theorem hasSurrogate_wording {c : Call} (h : ∀ v ∈ c.shown, v.IsPlain) {issued : Nat}
    {q : QueryLine} (hq : c.wording p issued = some q) : Text.hasSurrogate q.render = false := by
  have hargs {verb : Verb} {args : List Value} {clause : Text} (hargs : ∀ v ∈ args, v.IsPlain)
      (hclause : Text.hasSurrogate clause = false) :
      Text.hasSurrogate (QueryLine.ofValues verb args clause).render = false := by
    refine QueryLine.hasSurrogate_render (fun arg harg => ?_) hclause
    obtain ⟨v, hv, rfl⟩ := List.mem_map.1 harg
    exact (hargs v hv).hasSurrogate_traceText
  cases c with
  | read table key | delete table key =>
    obtain rfl := Option.some.inj hq
    exact hargs h (Identity.hasSurrogate_context (Text.hasSurrogate_ofNat _)
      (Text.hasSurrogate_ofNat _) _)
  | readMeta table fieldnum condition keymatch | deleteMeta table fieldnum condition keymatch =>
    obtain rfl := Option.some.inj hq
    simp only [shown, arguments, List.forall_mem_cons] at h
    exact hargs (by simp [h.2]) (hasSurrogate_conditionClause h.1 _ _ rfl)
  | updateMeta table fieldnum condition keymatch fieldName fieldValue =>
    obtain rfl := Option.some.inj hq
    simp only [shown, arguments, List.forall_mem_cons] at h
    exact hargs (by simp [h.2.1]) (hasSurrogate_conditionClause h.1 _ _
      (Predicate.hasSurrogate_ofKind _ _ h.2.2.1.hasSurrogate_traceText))
  | insert table key values | update table key values =>
    obtain rfl := Option.some.inj hq
    simp only [shown, List.forall_mem_cons, List.forall_mem_map] at h
    exact hasSurrogate_putLine h.1 h.2 (Text.hasSurrogate_toText _)
  | insertTtl table key values ttl =>
    obtain rfl := Option.some.inj hq
    simp only [shown, List.forall_mem_cons, List.forall_mem_map] at h
    exact hasSurrogate_putLine h.1 h.2.2 h.2.1.hasSurrogate_traceText
  | scan table startkey recordcount =>
    obtain rfl := Option.some.inj hq
    exact hargs h rfl
  | verifyTtl table recordcount => cases hq
  | readLog table logcount =>
    obtain rfl := Option.some.inj hq
    exact hargs h rfl

/-- A call that shows plain values can be written, and its line has no surrogates, if no number of a
record is too long. -/
theorem writes_of_shown {c : Call} (htyped : c.IsTyped) (h : ∀ v ∈ c.shown, v.IsPlain)
    (hrecords : p.workload.recordCount ≤ 10 ^ maxDigits) :
    c.Writes (fun line => Text.hasSurrogate line = false) p := by
  have harguments : c.arguments ⊆ c.shown := by
    cases c with
    | insert | update => exact List.subset_cons_self _ _
    | insertTtl => exact List.subset_cons_self _ _
    | _ => exact List.Subset.refl _
  have hfits : c.Fits p :=
    ⟨fun v hv => (h v (harguments hv)).trouble? p.levels, fun _ => hrecords⟩
  exact fun issued => ⟨c.wording p issued, line?_of_isTyped htyped hfits,
    fun q hq => hasSurrogate_wording h hq⟩

end Call

namespace Lenient

/-- A magnitude that is read has no more digits than a numeral can have. -/
theorem magnitude_lt {s : Text} {n : Nat} (h : magnitude s = .ok n) : n < 10 ^ maxDigits := by
  unfold magnitude at h
  split at h
  · obtain rfl := Except.ok.inj h
    exact Nat.pow_pos (by decide)
  · cases h
  · split at h
    · cases h
    · next hlength =>
      split at h
      · next hdigits =>
        obtain rfl := Except.ok.inj h
        simp only [Bool.and_eq_true, List.all_eq_true] at hdigits
        rw [List.takeWhile_eq_self_iff.2 hdigits.2] at hlength
        exact Nat.lt_of_lt_of_le (Decimal.value_lt_pow_length hdigits.2)
          (Nat.pow_le_pow_right (by decide) (Nat.not_lt.1 hlength))
      · cases h

/-- An integer that is read from digits has no more of them than a numeral may have. -/
theorem plainInteger_lt {s : Text} {n : Nat} (h : plainInteger s = .ok (n : Int)) :
    n < 10 ^ maxDigits := by
  have hsize {s : Text} {f : Nat → Int} (hf : ∀ m, (f m).natAbs = m)
      (h : (magnitude s).map f = .ok (n : Int)) : n < 10 ^ maxDigits := by
    cases hm : magnitude s with
    | error e =>
      rw [hm] at h
      cases h
    | ok m =>
      rw [hm] at h
      have hn := hf m
      rw [Except.ok.inj h, Int.natAbs_natCast] at hn
      exact hn ▸ magnitude_lt hm
  unfold plainInteger at h
  split at h
  · exact hsize (fun m => by rw [Int.natAbs_neg, Int.natAbs_natCast]) h
  · exact hsize Int.natAbs_natCast h

/-- So has an integer that is read from a text. -/
theorem integerOfText_lt {s : Text} {n : Nat} (h : integerOfText s = .ok (n : Int)) :
    n < 10 ^ maxDigits := by
  unfold integerOfText at h
  split at h
  · next m hm =>
    obtain rfl := Except.ok.inj h
    exact plainInteger_lt hm
  · cases h
  · split at h
    · next m hm =>
      obtain rfl := Except.ok.inj h
      obtain ⟨t, -, ht⟩ := Option.map_eq_some_iff.1 hm
      exact plainInteger_lt ht
    · cases h

/-- An integer of a document has no more digits than a numeral can have. -/
theorem natAbs_lt_of_written {n : Int} {t : Text} (h : Json.Written (.int n) t) :
    n.natAbs < 10 ^ maxDigits := by
  have hnumber {negative : Bool} {t : Text} (h : Json.NumberForm negative (.int n) t) :
      n.natAbs < 10 ^ maxDigits := by
    cases h with
    | integer hwhole hlength =>
      have hlt : Decimal.value t < 10 ^ maxDigits :=
        Nat.lt_of_lt_of_le (Decimal.value_lt_pow_length hwhole.1.2)
          (Nat.pow_le_pow_right (by decide) hlength)
      cases negative <;> simpa using hlt
  cases h with
  | word h => simp [Json.words] at h
  | number h => exact hnumber h
  | negative h => exact hnumber h

/-- Sixty-four bits need fewer digits than a numeral can have. -/
theorem wordBound_le : wordBound ≤ ((10 ^ maxDigits : Nat) : Int) := by
  have hword : (9223372036854775808 : Nat) ≤ 10 ^ maxDigits :=
    Decimal.le_pow_maxDigits (by decide)
  exact Int.ofNat_le.2 hword

/-- And so has an integer that is read from a value of a document. -/
theorem integer_lt {v : Value} {t : Text} (hv : Json.Written v t) {n : Nat}
    (h : integer v = .ok (n : Int)) : n < 10 ^ maxDigits := by
  cases v with
  | text s =>
    simp only [integer] at h
    split at h
    · cases h
    · exact integerOfText_lt h
  | bytes bs =>
    simp only [integer] at h
    split at h
    · exact integerOfText_lt h
    · cases h
  | bool b =>
    have hone : 1 < 10 ^ maxDigits := Nat.one_lt_pow (by decide) (by decide)
    have hn : Value.ofBool b = n := Except.ok.inj h
    cases b <;> simp only [Value.ofBool, Bool.false_eq_true, if_false, if_true] at hn <;> omega
  | real x =>
    simp only [integer, integerOfReal] at h
    have hbound := wordBound_le
    split at h
    · cases h
    · split at h
      · cases h
      · split at h
        · next m _ hm =>
          obtain rfl := Except.ok.inj h
          omega
        · cases h
  | int m =>
    obtain rfl := Except.ok.inj h
    exact natAbs_lt_of_written hv
  | null => cases h
  | other kind shown => cases h
  | list items => cases h
  | object fields => cases h

end Lenient

namespace Operation

variable {es : List (Text × Value)} {o : Operation}

/-- No number of an operation that a document holds has too many digits. -/
theorem Held.numeralsFit (h : Held es o) {t : Text}
    (hform : Json.ObjectForm true Json.Written es t) : o.NumeralsFit := by
  intro e he n hn
  have hgives := h.gives e he
  rw [← Prod.eta e, hn] at hgives
  obtain ⟨v, hlast, hv, -⟩ := gives_number_iff.1 hgives
  obtain ⟨-, u, hu⟩ := hform.forall_mem _ (Fields.mem_of_last? hlast)
  exact of_decide_eq_true (Decimal.fits_iff.2 (Lenient.integer_lt hu hv))

/-- An operation that a document holds is performed as a call that shows plain values. -/
theorem Held.shown (h : Held es o) {t : Text} (hform : Json.ObjectForm true Json.Written es t) :
    ∀ v ∈ o.toCall.shown, v.IsPlain := by
  have hplain := h.plain hform (h.numeralsFit hform) 0
  have htext {depth : Nat} {s : Text} (h : Json.Plain true depth (.text s)) :
      (Value.text s).IsPlain := by
    cases h with
    | text depth h => exact .text 0 h
  have hnatural {depth n : Nat} (h : Json.Plain true depth (.int n)) : (Value.int n).IsPlain := by
    generalize hv : Value.int n = v at h
    cases h with
    | natural depth h => exact .natural 0 h
    | _ => cases hv
  have hvalues {values : Fields Text} (h : Json.Plain true 1 (.object (valuesOf values))) :
      ∀ v ∈ (valuesOf values).map Prod.snd, v.IsPlain := by
    cases h with
    | object hnames h => exact List.forall_mem_map.2 h
  cases hplain with
  | object hnames hentries =>
    cases o <;>
      simp only [entries, entriesAround, entriesAround.conditionEntries, List.cons_append,
        List.nil_append, List.forall_mem_cons] at hentries <;>
      simp only [toCall, Call.shown, Call.arguments, List.forall_mem_cons] <;>
      grind

end Operation

namespace Replay

/-- The call of a line can be written, and its line has no surrogates, if no number of a record is
too long. -/
theorem writes_of_operation? {raw : Text} {o : Operation} (h : operation? raw = some o)
    {p : Profile} (hrecords : p.workload.recordCount ≤ 10 ^ maxDigits) :
    o.toCall.Writes (fun line => Text.hasSurrogate line = false) p := by
  have hparse : Operation.parse (Text.strip raw) = .valid o := by
    rw [operation?] at h
    split at h
    · cases h
    · exact Checked.toOption_eq_some_iff.1 h
  obtain ⟨-, es, hread, hheld⟩ := Operation.parse_eq_valid_iff.1 hparse
  obtain ⟨before, t, behind, -, ht, -, -⟩ := Json.written_of_read rfl hread
  exact Call.writes_of_shown o.isTyped_toCall (hheld.shown ht.objectForm) hrecords

/-- So for all the calls of a replay. -/
theorem writes_of_mem_calls (lines : List Text) {p : Profile}
    (hrecords : p.workload.recordCount ≤ 10 ^ maxDigits) :
    ∀ c ∈ calls lines, c.Writes (fun line => Text.hasSurrogate line = false) p := by
  intro c hc
  obtain ⟨o, ho, rfl⟩ := List.mem_map.1 hc
  obtain ⟨raw, -, hraw⟩ := List.mem_filterMap.1 ho
  exact writes_of_operation? hraw hrecords

end Replay

section Serves

variable {σ : Type} {ops : Sink σ} {takes : Text → Prop} {good : σ → Prop}

/-- The first client to attach starts the sink, and is attached unless that raises; any other client
is attached at once. -/
theorem Session.attach_cases (ops : Sink σ) (s : Session σ) (j : Journal) :
    (s.attached = 0 ∧ ∃ j', let r := ops.start s.sink j'
      (s.attach ops j).1 = r.1 ∧ (s.attach ops j).2.1 =
        if r.1 = none then { s with sink := r.2.1 }.enlist else { s with sink := r.2.1 }) ∨
    s.attach ops j = (none, s.enlist, j) := by
  obtain ⟨start, receive, stop, failures⟩ := ops
  simp only [attach]
  split
  · next hnone =>
    refine .inl
      ⟨hnone, (j.enter s.fields).note .info .session "trace session starting".toText none, ?_⟩
    simp only [Journal.within, startSink]
    generalize start s.sink _ = r
    obtain ⟨trouble, sink, j'⟩ := r
    cases trouble with
    | none => exact ⟨rfl, rfl⟩
    | some t => exact ⟨rfl, rfl⟩
  · exact .inr rfl

/-- The last client to detach stops the sink, whose failures are then counted; any other client is
detached at once. -/
theorem Session.detach_cases (ops : Sink σ) (s : Session σ) (j : Journal) :
    (s.attached = 1 ∧ ∃ j', let r := ops.stop s.sink j'
      (s.detach ops j).1 = r.1.or (match ops.failures r.2.1 with
        | .error t => some t
        | .ok _ => none) ∧
      (s.detach ops j).2.1 = { s with sink := r.2.1, attached := 0 }) ∨
    (s.detach ops j).1 = none ∧
      (s.detach ops j).2.1 = { s with attached := s.attached - 1 } := by
  obtain ⟨start, receive, stop, failures⟩ := ops
  rcases s.attached_cases with hnone | hlast | ⟨n, hmore⟩
  · simp only [detach, hnone]
    have hsame : s = { s with attached := 0 } := by rw [← hnone]
    exact .inr ⟨trivial, hsame⟩
  · simp only [detach, hlast]
    refine .inl ⟨trivial, j.enter s.fields, ?_⟩
    simp only [Journal.within, stopSink]
    generalize stop s.sink _ = r
    obtain ⟨trouble, sink, j'⟩ := r
    cases trouble with
    | some t => exact ⟨rfl, rfl⟩
    | none => cases failures sink <;> exact ⟨rfl, rfl⟩
  · simp only [detach, hmore]
    exact .inr ⟨trivial, rfl⟩

/-- No client changes what decides how calls are written, or the count of selectors, when it
attaches; it is counted unless something is raised. -/
theorem Session.attach_keeps (ops : Sink σ) (s : Session σ) (j : Journal) :
    let r := s.attach ops j
    r.2.1.profile = s.profile ∧ r.2.1.issued = s.issued ∧
      (r.1 = none → r.2.1.attached = s.attached + 1) := by
  intro r
  rcases s.attach_cases ops j with ⟨-, j', htrouble, hafter⟩ | hjoined
  · simp only [r, htrouble, hafter]
    split
    · exact ⟨rfl, rfl, fun _ => rfl⟩
    · next hraised => exact ⟨rfl, rfl, fun hnone => absurd hnone hraised⟩
  · simp only [r, hjoined]
    exact ⟨rfl, rfl, fun _ => rfl⟩

/-- A client attaches to a session whose sink is in a good state. -/
theorem Session.attach_of_serves (h : ops.Serves takes good) {s : Session σ} (hs : good s.sink)
    (j : Journal) : (s.attach ops j).1 = none ∧ good (s.attach ops j).2.1.sink := by
  rcases s.attach_cases ops j with ⟨-, j', htrouble, hafter⟩ | hjoined
  · obtain ⟨hnone, hgood⟩ := h.start s.sink j' hs
    rw [htrouble, hafter, if_pos hnone]
    exact ⟨hnone, hgood⟩
  · rw [hjoined]
    exact ⟨rfl, hs⟩

/-- It is detached again without anything raised. -/
theorem Session.detach_of_serves (h : ops.Serves takes good) {s : Session σ} (hs : good s.sink)
    (j : Journal) : (s.detach ops j).1 = none ∧ good (s.detach ops j).2.1.sink := by
  rcases s.detach_cases ops j with ⟨-, j', htrouble, hafter⟩ | ⟨hnone, hafter⟩
  · obtain ⟨hstopped, hgood⟩ := h.stop s.sink j' hs
    obtain ⟨failures, hfailures⟩ := h.failures _ hgood
    rw [htrouble, hafter, hstopped, hfailures]
    exact ⟨rfl, hgood⟩
  · rw [hnone, hafter]
    exact ⟨rfl, hs⟩

/-- A batch that raises nothing attaches a client, takes the lines, and detaches the client. -/
theorem Replay.batch_eq_ok {lines : List Text} {s s' : Session σ} {j j' : Journal}
    {report : Report} (h : batch ops lines s j = (.ok report, s', j')) :
    ∃ s₁ j₁ st, s.attach ops j = (none, s₁, j₁) ∧ takeLines ops 1 lines ⟨{}, s₁, j₁⟩ = (none, st) ∧
      st.session.detach ops st.journal = (none, s', j') ∧ st.report = report := by
  simp only [batch] at h
  rcases hattach : s.attach ops j with ⟨trouble, s₁, j₁⟩
  rw [hattach] at h
  cases trouble with
  | some t => exact absurd (congrArg Prod.fst h) nofun
  | none =>
    rcases htaken : takeLines ops 1 lines ⟨{}, s₁, j₁⟩ with ⟨raised, st⟩
    rcases hdetach : st.session.detach ops st.journal with ⟨unreleased, s₂, j₂⟩
    simp only [htaken, hdetach] at h
    cases unreleased with
    | some t => exact absurd (congrArg Prod.fst h) nofun
    | none =>
      cases raised with
      | some t => exact absurd (congrArg Prod.fst h) nofun
      | none =>
        obtain ⟨hreport, hsession⟩ := Prod.mk.inj h
        exact ⟨s₁, j₁, st, rfl, htaken, hdetach.trans (congrArg _ hsession),
          Except.ok.inj hreport⟩

/-- A batch raises nothing, and leaves the sink in a good state, when its calls can be written and
the sink takes their lines. -/
theorem Replay.batch_of_serves (h : ops.Serves takes good) {lines : List Text} {s : Session σ}
    (hs : good s.sink) (hcalls : ∀ c ∈ calls lines, c.Writes takes s.profile) (j : Journal) :
    let r := batch ops lines s j
    (∃ report, r.1 = .ok report) ∧ good r.2.1.sink := by
  obtain ⟨hattach, hattached⟩ := Session.attach_of_serves h hs j
  obtain ⟨hprofile, -, -⟩ := Session.attach_keeps ops s j
  rcases hr : s.attach ops j with ⟨trouble, s₁, j₁⟩
  rw [hr] at hattach hattached hprofile
  obtain rfl : trouble = none := hattach
  have htakes : ∀ c ∈ calls lines, c.Writes takes s₁.profile := fun c hc => hprofile ▸ hcalls c hc
  obtain ⟨hnone, htaken⟩ := takeLines_of_serves h 1 ⟨{}, s₁, j₁⟩ hattached htakes
  rcases htakeLines : takeLines ops 1 lines ⟨{}, s₁, j₁⟩ with ⟨raised, st⟩
  rw [htakeLines] at hnone htaken
  obtain rfl : raised = none := hnone
  obtain ⟨hdetach, hdetached⟩ := Session.detach_of_serves h htaken st.journal
  rcases hdetached' : st.session.detach ops st.journal with ⟨unreleased, s₂, j₂⟩
  rw [hdetached'] at hdetach hdetached
  obtain rfl : unreleased = none := hdetach
  simp only [batch, hr, htakeLines, hdetached']
  exact ⟨⟨_, rfl⟩, hdetached⟩

end Serves

end WorkloadTrace
