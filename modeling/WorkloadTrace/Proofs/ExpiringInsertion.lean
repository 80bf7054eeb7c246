import WorkloadTrace.Proofs.CallArguments
import WorkloadTrace.Proofs.Clauses
import WorkloadTrace.Proofs.SessionTrail

/-!
# Insertions that expire

An insertion with an expiry writes the line of an insertion without one. A plain record has no
expiry, an absent one says nothing, and a field of the record that is an expiry goes before the one
of the call; otherwise the record is the same with one more field at its end, which is an expiry by
its tag. Whether contents are hidden makes no difference.
-/

namespace WorkloadTrace

namespace Call

variable {values : Fields Value} {ttl : Value}

theorem hasKind_iff {kind : FieldKind} :
    hasKind kind values = true ↔ ∃ f ∈ values, FieldKind.parse? f.1 = some kind := by
  simp [hasKind]

/-- A record has the clause of its fields when there is no expiry to add. -/
theorem fieldsClause_of_no_expiry
    (h : ttl = .null ∨ ∃ f ∈ values, FieldKind.parse? f.1 = some .ttl) :
    fieldsClause values ttl = fieldsClause values .null := by
  rcases h with rfl | h
  · rfl
  · cases ttl with
    | null => rfl
    | _ => simp only [fieldsClause, hasKind_iff.2 h, if_true]

/-- An expiry of the call is a field more at the end of the record. -/
theorem fieldsClause_of_expiry (httl : ttl ≠ .null)
    (h : ∀ f ∈ values, FieldKind.parse? f.1 ≠ some .ttl) :
    fieldsClause values ttl = fieldsClause (values ++ [("TTL".toText, ttl)]) .null := by
  have hnone : hasKind .ttl values = false := by
    rw [Bool.eq_false_iff, Ne, hasKind_iff]
    rintro ⟨f, hf, hkind⟩
    exact h f hf hkind
  have hexpiry : Predicate.ofField .set (.text "TTL".toText) ttl =
      Predicate.ofKind .set (some .ttl) ttl := rfl
  have hclause : fieldsClause (values ++ [("TTL".toText, ttl)]) .null =
      Predicate.join [fieldsClause values .null, Predicate.ofKind .set (some .ttl) ttl] := by
    simp only [fieldsClause, Predicate.clause, List.map_append, List.map_cons, List.map_nil,
      hexpiry, Predicate.join_append, Predicate.join_singleton]
  rw [hclause]
  cases ttl with
  | null => exact absurd rfl httl
  | _ => simp only [fieldsClause, hnone, Bool.false_eq_true, if_false]

/-- An expiry is no content. -/
theorem metadataContent_append_expiry (p : Profile) (values : Fields Value) (ttl : Value) :
    metadataContent p (values ++ [("TTL".toText, ttl)]) = metadataContent p values := by
  have hexpiry : (FieldKind.parse? "TTL".toText == some .data) = false := by decide
  simp only [metadataContent, List.find?_append, List.find?_singleton, hexpiry,
    Bool.false_eq_true, if_false, Option.or_none]

/-- A record is written as without the expiry of the call when there is none to add. -/
theorem putLine_of_no_expiry {key : Text}
    (h : Text.startsWith metadataHead key = false ∨ ttl = .null ∨
      ∃ f ∈ values, FieldKind.parse? f.1 = some .ttl) (p : Profile) :
    putLine p key values ttl = putLine p key values .null := by
  rcases h with hplain | h
  · simp only [putLine, hplain, Bool.false_eq_true, if_false]
  · simp only [putLine, fieldsClause_of_no_expiry h]

/-- Otherwise it is written as the record with the expiry at its end. -/
theorem putLine_of_expiry {key : Text} (hkey : Text.startsWith metadataHead key = true)
    (httl : ttl ≠ .null) (h : ∀ f ∈ values, FieldKind.parse? f.1 ≠ some .ttl) (p : Profile) :
    putLine p key values ttl = putLine p key (values ++ [("TTL".toText, ttl)]) .null := by
  simp only [putLine, hkey, if_true, fieldsClause_of_expiry httl h, metadataContent_append_expiry]

/-- A record raises what it raises without the expiry of the call when there is none to add. -/
theorem putTrouble?_of_no_expiry {key : Text}
    (h : Text.startsWith metadataHead key = false ∨ ttl = .null ∨
      ∃ f ∈ values, FieldKind.parse? f.1 = some .ttl) (p : Profile) :
    putTrouble? p (.text key) values ttl = putTrouble? p (.text key) values .null := by
  rcases h with hplain | rfl | h
  · simp only [putTrouble?, keyText, hplain, Bool.false_eq_true, if_false]
  · rfl
  · simp only [putTrouble?, hasKind_iff.2 h, if_true]

/-- Otherwise it raises what the record with the expiry at its end raises. -/
theorem putTrouble?_of_expiry {key : Text} (hkey : Text.startsWith metadataHead key = true)
    (h : ∀ f ∈ values, FieldKind.parse? f.1 ≠ some .ttl) (p : Profile) :
    putTrouble? p (.text key) values ttl =
      putTrouble? p (.text key) (values ++ [("TTL".toText, ttl)]) .null := by
  have hnone : hasKind .ttl values = false := by
    rw [Bool.eq_false_iff, Ne, hasKind_iff]
    rintro ⟨f, hf, hkind⟩
    exact h f hf hkind
  have hlast : Predicate.trouble? p.levels (FieldKind.parse? "TTL".toText) ttl =
      ttl.trouble? p.levels := rfl
  simp only [putTrouble?, keyText, hkey, if_true, hnone, Bool.false_eq_true, if_false,
    List.findSome?_append, List.findSome?_singleton, hlast, Value.trouble?, ite_self,
    Option.or_none]

end Call

namespace Session

variable {σ τ : Type}

/-- Two calls that write one record alike write the same line or raise the same. -/
theorem writeAlike_of_puts {s : Session σ} {s' : Session τ} {client client' : Int} {key : Text}
    {values values' : Fields Value} {ttl ttl' : Value} {c c' : Call}
    (hprofile : s'.profile = s.profile) (hclient : s.hasClient client = true)
    (hclient' : s'.hasClient client' = true) (hc : Call.Puts key values ttl c)
    (hc' : Call.Puts key values' ttl' c')
    (htrouble : Call.putTrouble? s.profile (.text key) values ttl =
      Call.putTrouble? s.profile (.text key) values' ttl')
    (hline : Call.putLine s.profile key values ttl = Call.putLine s.profile key values' ttl') :
    s.WriteAlike client c s' client' c' := by
  refine writeAlike_of_line?_eq hclient hclient' ?_
  rw [Call.line?, Call.line?, hc.trouble?_eq, hc'.trouble?_eq, hc.wording_eq, hc'.wording_eq,
    hprofile, htrouble, hline]
  cases Call.putTrouble? s.profile (.text key) values' ttl' <;> rfl

/-- At any points of sessions with the same settings, an insertion with an expiry writes the line of
the insertion of the same record if the key is plain, the expiry is absent or a field is an expiry,
and otherwise the line of the insertion of the record with the expiry as its last field. It writes
one if all values and the expiry have texts; otherwise the two calls raise alike. -/
theorem insertTtl_writes_line_of_insert {s : Session σ} {s' : Session τ} {client client' : Int}
    (hsettings : s'.settings = s.settings) (hlevels : s'.levels = s.levels)
    (hclient : s.hasClient client = true) (hclient' : s'.hasClient client' = true)
    (table table' : Value) (key : Text) (values : Fields Value) (ttl : Value) :
    let expiring : Call := .insertTtl table (.text key) values ttl
    ((∀ f ∈ values, f.2.trouble? s.levels = none) → ttl.trouble? s.levels = none →
      ∃ line, s.lineOf (.call client expiring) = some line) ∧
    (Text.startsWith "key".toText key = false ∨ ttl = .null ∨
        (∃ f ∈ values, FieldKind.parse? f.1 = some .ttl) →
      s.WriteAlike client expiring s' client' (.insert table' (.text key) values)) ∧
    (Text.startsWith "key".toText key = true → ttl ≠ .null →
        (∀ f ∈ values, FieldKind.parse? f.1 ≠ some .ttl) →
      Fields.set "TTL".toText ttl values = values ++ [("TTL".toText, ttl)] ∧
      s.WriteAlike client expiring s' client'
        (.insert table' (.text key) (values ++ [("TTL".toText, ttl)]))) := by
  intro expiring
  have hprofile : s'.profile = s.profile := by rw [profile, profile, hsettings, hlevels]
  have hputs : Call.Puts key values ttl expiring := .insertTtl table ttl
  refine ⟨fun hshown httl => ?_, fun h => ?_, fun hkey httl hnone => ⟨?_, ?_⟩⟩
  · exact ⟨_, lineOf_call hclient (hputs.line?_eq hshown httl)⟩
  · exact writeAlike_of_puts hprofile hclient hclient' hputs (.insert table')
      (Call.putTrouble?_of_no_expiry h s.profile) (Call.putLine_of_no_expiry h s.profile)
  · refine Fields.set_of_not_mem (fun hmem => ?_) ttl
    obtain ⟨f, hf, hname⟩ := List.mem_map.1 hmem
    exact hnone f hf (hname ▸ FieldKind.parse?_tag .ttl)
  · exact writeAlike_of_puts hprofile hclient hclient' hputs (.insert table')
      (Call.putTrouble?_of_expiry hkey hnone s.profile)
      (Call.putLine_of_expiry hkey httl hnone s.profile)

/-- With contents hidden, an expiry of the call, and one of a field that goes before it. -/
theorem expiry_of_key7_as_last_field :
    let s : Session (List SinkEvent) :=
      { settings := { trace := { mockValues := true } }, id := [], sink := [], attached := 1,
        clients := 1 }
    let values : Fields Value := [("SRC".toText, .text "web".toText), ("data".toText, .int 1)]
    let expiring : Fields Value := values ++ [(" Ttl ".toText, .text "60".toText)]
    let insertTtl (values : Fields Value) : Call :=
      .insertTtl .null (.text "key7".toText) values (.int 30)
    let insert (values : Fields Value) : Call := .insert .null (.text "key7".toText) values
    (s.hasClient 0 = true ∧ s.hasClient (-1) = true ∧
      Text.startsWith "key".toText "key7".toText = true ∧
      (∀ f ∈ values, FieldKind.parse? f.1 ≠ some .ttl) ∧
      ∃ f ∈ expiring, FieldKind.parse? f.1 = some .ttl) ∧
    s.lineOf (.call 0 (insertTtl values)) =
      s.lineOf (.call (-1) (insert (values ++ [("TTL".toText, .int 30)]))) ∧
    s.lineOf (.call 0 (insertTtl values)) =
      some ("query(PUT(\"key7\",\"VAL\"))&origin(web)&expiry(30)".toText ++
        "&session-key-is(7)&purpose-is(7)\n".toText) ∧
    s.lineOf (.call 0 (insertTtl expiring)) = s.lineOf (.call (-1) (insert expiring)) := by
  intro s values expiring insertTtl insert
  have hclient : s.hasClient 0 = true := by decide
  have hclient' : s.hasClient (-1) = true := by decide
  have hkey : Text.startsWith "key".toText "key7".toText = true := by decide
  have hnone : ∀ f ∈ values, FieldKind.parse? f.1 ≠ some .ttl := by decide
  have hsome : ∃ f ∈ expiring, FieldKind.parse? f.1 = some .ttl :=
    ⟨(" Ttl ".toText, .text "60".toText), by simp [expiring], by decide⟩
  obtain ⟨-, -, hextended⟩ := insertTtl_writes_line_of_insert rfl rfl hclient
    hclient' .null .null "key7".toText values (.int 30)
  obtain ⟨-, hsame, -⟩ := insertTtl_writes_line_of_insert rfl rfl hclient
    hclient' .null .null "key7".toText expiring (.int 30)
  have halike := (hextended hkey (by simp) hnone).2
  have halike' := hsame (.inr (.inr hsome))
  exact ⟨⟨hclient, hclient', hkey, hnone, hsome⟩, halike.lineOf_eq.symm, by decide,
    halike'.lineOf_eq.symm⟩

end Session

end WorkloadTrace
