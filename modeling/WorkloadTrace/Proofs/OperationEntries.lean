import WorkloadTrace.Operation.Reader

/-!
# Operations in any order of their entries

The entries of an object hold an operation when each entry that the operation has is there and no
other is, in whatever order they stand.
-/

namespace WorkloadTrace

/-- A computation succeeds when each of its two steps does. -/
theorem bind_eq_ok_iff {ε α β : Type} {x : Except ε α} {f : α → Except ε β} {b : β} :
    (x >>= f) = .ok b ↔ ∃ a, x = .ok a ∧ f a = .ok b := by
  cases x <;> simp [bind, Except.bind]

namespace Fields

variable {α : Type}

/-- A name has the value that stands beside it when no other pair has the name. -/
theorem get?_eq_some_iff {m : List (Text × α)} (h : (names m).Nodup) {name : Text} {a : α} :
    get? name m = some a ↔ (name, a) ∈ m := by
  induction m with
  | nil => simp [get?]
  | cons p rest ih =>
    obtain ⟨k, b⟩ := p
    obtain ⟨hk, hrest⟩ := List.nodup_cons.1 h
    by_cases hname : k = name
    · subst hname
      have hother : (k, a) ∉ rest := fun hmem => hk (List.mem_map.2 ⟨(k, a), hmem, rfl⟩)
      simp [get?, hother, eq_comm]
    · simp [get?, hname, ih hrest, Ne.symm hname]

/-- The order of pairs with distinct names does not matter to a name. -/
theorem get?_perm {m m' : List (Text × α)} (hperm : m.Perm m') (h : (names m).Nodup) (name : Text) :
    get? name m = get? name m' := by
  have h' : (names m').Nodup := (hperm.map Prod.fst).nodup_iff.1 h
  refine Option.ext fun a => ?_
  rw [get?_eq_some_iff h, get?_eq_some_iff h', hperm.mem_iff]

end Fields

namespace Checked

variable {α β : Type}

/-- A function is applied to a valid result. -/
@[simp] theorem map_valid (f : α → β) (a : α) : f <$> valid a = valid (f a) := rfl

/-- A function leaves the issues of an invalid result. -/
@[simp] theorem map_invalid (f : α → β) (issue : Issue) (others : List Issue) :
    f <$> (invalid issue others : Checked α) = invalid issue others := rfl

/-- A valid function is applied to a valid argument. -/
@[simp] theorem valid_seq_valid (f : α → β) (a : α) : valid f <*> valid a = valid (f a) := rfl

/-- A valid function leaves the issues of its argument. -/
@[simp] theorem valid_seq_invalid (f : α → β) (issue : Issue) (others : List Issue) :
    valid f <*> (invalid issue others : Checked α) = invalid issue others := rfl

/-- The issues of a function come before those of its argument. -/
@[simp] theorem invalid_seq (issue : Issue) (others : List Issue) (x : Checked α) :
    (invalid issue others : Checked (α → β)) <*> x = invalid issue (others ++ x.issues) := rfl

/-- What is read without fault is valid. -/
@[simp] theorem ofExcept_ok (path : List Text) (a : α) : ofExcept path (.ok a) = valid a := rfl

/-- The image of a result is valid when the result is. -/
theorem map_eq_valid_iff {f : α → β} {x : Checked α} {b : β} :
    f <$> x = valid b ↔ ∃ a, x = valid a ∧ f a = b := by
  cases x <;> simp

/-- An application is valid when the function and the argument are. -/
theorem seq_eq_valid_iff {f : Checked (α → β)} {x : Checked α} {b : β} :
    f <*> x = valid b ↔ ∃ g, f = valid g ∧ ∃ a, x = valid a ∧ g a = b := by
  cases f <;> cases x <;> simp

end Checked

namespace Lenient

/-- A text is read as itself. -/
theorem text_text (s : Text) : text (.text s) = .ok s := rfl

/-- So it is where it must not be empty, if it is not. -/
theorem someText_text {s : Text} (h : s ≠ []) : someText (.text s) = .ok s := by
  obtain ⟨c, cs, rfl⟩ := List.exists_cons_of_ne_nil h
  rfl

end Lenient

namespace Operation

/-- Entries hold an operation exactly when they name its tag, the entries that it has hold it, and
there are no others. -/
theorem ofEntries_eq_valid_iff {es : List (Text × Value)} {o : Operation} :
    ofEntries es = .valid o ↔ ∃ tag, checkTag es = .valid tag ∧ checkEntries tag es = .valid o ∧
      ∀ name ∈ Fields.names es, name ∈ tableName :: opName :: entryNames tag := by
  unfold ofEntries
  cases htag : checkTag es with
  | invalid issue others => simp
  | valid tag =>
    have hunknown : Entries.unknown [tag.word] (tableName :: opName :: entryNames tag) es = [] ↔
        ∀ name ∈ Fields.names es, name ∈ tableName :: opName :: entryNames tag :=
      Entries.unknown_eq_nil_iff
    simp only [Checked.valid.injEq, exists_eq_left', ← hunknown]
    cases checkEntries tag es with
    | invalid issue others => simp
    | valid o' =>
      cases Entries.unknown [tag.word] (tableName :: opName :: entryNames tag) es with
      | nil => simp [Checked.validUnless]
      | cons issue others => simp [Checked.validUnless]

/-- The order of entries with distinct names does not matter to the operation that they hold. -/
theorem ofEntries_perm {es es' : List (Text × Value)} (hperm : es.Perm es')
    (hnodup : (Fields.names es).Nodup) {o : Operation} (h : ofEntries es = .valid o) :
    ofEntries es' = .valid o := by
  have hget : ∀ name, Fields.get? name es' = Fields.get? name es := fun name =>
    (Fields.get?_perm hperm hnodup name).symm
  obtain ⟨tag, htag, hentries, hknown⟩ := ofEntries_eq_valid_iff.1 h
  refine ofEntries_eq_valid_iff.2 ⟨tag, ?_, ?_, ?_⟩
  · rw [← htag]
    simp only [checkTag, hget]
  · rw [← hentries]
    simp only [checkEntries, checkValues, Entries.required, Entries.optional, hget]
  · intro name hname
    exact hknown name ((hperm.map Prod.fst).mem_iff.2 hname)

/-- Field values that are texts are read as they are. -/
theorem all_checkValue_valuesOf (path : List Text) (values : Fields Text) :
    Checked.all (checkValue path) (valuesOf values) = .valid values := by
  induction values with
  | nil => rfl
  | cons f rest ih =>
    have hrest : valuesOf (f :: rest) = (f.1, .text f.2) :: valuesOf rest := rfl
    rw [hrest, Checked.all, ih]
    rfl

/-- What reading asks of the arguments of an operation: keys, patterns of keys and starting keys are
not empty, and the names of field values are distinct. -/
def IsAcceptable : Operation → Prop
  | .read _ key | .delete _ key => key ≠ []
  | .insert _ key values | .update _ key values | .insertTtl _ key values _ =>
    key ≠ [] ∧ (Fields.names values).Nodup
  | .readMeta _ _ _ keymatch | .deleteMeta _ _ _ keymatch | .updateMeta _ _ _ keymatch _ _ =>
    keymatch ≠ []
  | .scan _ startkey _ => startkey ≠ []
  | .verifyTtl _ _ | .readLog _ _ => True

/-- An operation has no entry twice. -/
theorem nodup_names_entries (o : Operation) : (Fields.names o.entries).Nodup := by
  cases o <;>
    simp [entries, entriesAround, entriesAround.conditionEntries, Fields.names, tableName, opName]

/-- The entries of an operation name it. -/
theorem checkTag_entries (o : Operation) : checkTag o.entries = .valid o.tag := by
  cases o <;> rfl

/-- The entries of an acceptable operation are accepted as the operation. -/
theorem checkEntries_entries {o : Operation} (h : o.IsAcceptable) :
    checkEntries o.tag o.entries = .valid o := by
  cases o <;>
    simp_all [IsAcceptable, checkEntries, checkValues, all_checkValue_valuesOf, Checked.map,
      Fields.ofPairs_of_nodup, entries, entriesAround, entriesAround.conditionEntries, tag,
      valuesName, tableName, opName, Entries.required, Entries.optional, Fields.get?, table,
      Lenient.text_text, Lenient.someText_text, Lenient.natural_ofNat]

/-- The entries that an operation is written with hold it. -/
theorem ofEntries_entries {o : Operation} (h : o.IsAcceptable) :
    ofEntries o.entries = .valid o := by
  refine ofEntries_eq_valid_iff.2 ⟨o.tag, checkTag_entries o, checkEntries_entries h, ?_⟩
  cases o <;>
    simp [entries, entriesAround, entriesAround.conditionEntries, entryNames, tag, Fields.names,
      tableName, opName, valuesName]

end Operation

end WorkloadTrace
