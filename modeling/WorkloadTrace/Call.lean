import WorkloadTrace.Identity
import WorkloadTrace.QueryLine
import WorkloadTrace.Selector

/-!
# Calls

The eleven operations of a benchmark harness, with arguments of any value, and the query line
that each of them writes. A call on metadata takes the next selector; every other call leaves the
selector alone. The parts of a line are made in a fixed order, and the first one that cannot be made
raises; a selector that is taken before is lost then.
-/

namespace WorkloadTrace

/-- An operation of the harness with its arguments. The table is never written. -/
inductive Call where
  /-- Reads one record. -/
  | read (table key : Value)
  /-- Reads the records that a condition selects. -/
  | readMeta (table fieldnum condition keymatch : Value)
  /-- Inserts a record. -/
  | insert (table key : Value) (values : Fields Value)
  /-- Inserts a record that expires; an absent expiry means none. -/
  | insertTtl (table key : Value) (values : Fields Value) (ttl : Value)
  /-- Deletes one record. -/
  | delete (table key : Value)
  /-- Deletes the records that a condition selects. -/
  | deleteMeta (table fieldnum condition keymatch : Value)
  /-- Updates a record. -/
  | update (table key : Value) (values : Fields Value)
  /-- Changes metadata of the records that a condition selects. -/
  | updateMeta (table fieldnum condition keymatch fieldName fieldValue : Value)
  /-- Reads a range of records. -/
  | scan (table startkey recordcount : Value)
  /-- Asks for a check of expiry, which is not traced. -/
  | verifyTtl (table recordcount : Value)
  /-- Reads the monitoring log. -/
  | readLog (table logcount : Value)

/-- What decides how calls are written, beside their arguments. -/
structure Profile where
  /-- The shape of the workload. -/
  workload : Workload := .standard
  /-- Whether a fixed word stands for the content of records. -/
  mockValues : Bool := false
  /-- How deep a value can be nested and still be shown. It depends on how deep the program is in
  calls of its own. -/
  levels : Nat := 900
deriving DecidableEq, Repr

namespace Identity

/-- The predicate for the user of an identity. -/
def userPredicate (i : Identity) : Text :=
  Predicate.ofKind .condition (some .user) (.text i.user)

/-- The predicate for the purpose of an identity. -/
def purposePredicate (i : Identity) : Text :=
  Predicate.ofKind .condition (some .purpose) (.text i.purpose)

/-- The predicates of a clause; an empty clause has none. -/
def tokens (clause : Text) : List Text :=
  if clause.isEmpty then [] else Text.splitOn Predicate.separator clause

/-- The access context of an identity after a clause: its two predicates without those that the
clause has already. -/
def context (i : Identity) (clause : Text) : Text :=
  Predicate.join
    ([i.userPredicate, i.purposePredicate].filter fun t => !(tokens clause).contains t)

end Identity

namespace Call

/-- Keys of records with metadata begin so. -/
def metadataHead : Text := "key".toText

/-- What stands for the content of a record when contents are hidden. -/
def mockContent : Text := "VAL".toText

/-- The kind of field at an index given as a value. -/
def kindAt : Value → Except Trouble (Option FieldKind)
  | .real x =>
    match x with
    | .finite negative significand _ =>
      if negative ∧ significand ≠ 0 then .ok none
      else if (x.truncate?.getD 0) < FieldKind.all.length then .error .realIndex
      else .ok none
    | _ => .ok none
  | v =>
    match v.asInt? with
    | some index => .ok (FieldKind.ofIndex? index)
    | none => .error (.unorderedIndex v.typeName)

/-- The kind of field at an index that can be looked up. -/
def kindOf (fieldnum : Value) : Option FieldKind := (kindAt fieldnum).toOption.join

/-- A key as text; a key of another kind is refused. -/
def keyText : Value → Except Trouble Text
  | .text key => .ok key
  | .bytes _ => .error .byteKey
  | v => .error (.noAttribute v.typeName "startswith".toText)

/-- The clause of a metadata operation: the condition, an assignment, and the access context. -/
def conditionClause (p : Profile) (selector : Nat) (kind : Option FieldKind) (condition : Value)
    (assignment : Text) : Text :=
  let identity := Identity.ofCondition p.workload condition kind selector
  let clause := Predicate.join [Predicate.ofKind .condition kind condition, assignment]
  Predicate.join [clause, identity.context clause]

/-- The content of a plain record: all its values together. -/
def plainContent (p : Profile) (values : Fields Value) : Text :=
  if p.mockValues then mockContent else values.flatMap fun f => f.2.traceText

/-- The content of a record with metadata: the value of its first content field. -/
def metadataContent (p : Profile) (values : Fields Value) : Text :=
  match values.find? fun f => FieldKind.parse? f.1 == some .data with
  | none => []
  | some f => if p.mockValues then mockContent else f.2.traceText

/-- Whether some field is of a kind. -/
def hasKind (kind : FieldKind) (values : Fields Value) : Bool :=
  values.any fun f => FieldKind.parse? f.1 == some kind

/-- The clause of a record's fields, with the expiry of the call unless a field gives one. -/
def fieldsClause (values : Fields Value) (ttl : Value) : Text :=
  let clause := Predicate.clause .set (values.map fun f => (.text f.1, f.2))
  match ttl with
  | .null => clause
  | ttl =>
    if hasKind .ttl values then clause
    else Predicate.join [clause, Predicate.ofKind .set (some .ttl) ttl]

/-- The line that writes a record. -/
def putLine (p : Profile) (key : Text) (values : Fields Value) (ttl : Value) : QueryLine :=
  if Text.startsWith metadataHead key then
    let clause := fieldsClause values ttl
    let identity := Identity.ofKey p.workload (.text key)
    ⟨.put, [key, metadataContent p values], Predicate.join [clause, identity.context clause]⟩
  else ⟨.put, [key, plainContent p values], []⟩

/-- The line for a verb on one record. -/
def keyLine (p : Profile) (verb : Verb) (key : Value) : QueryLine :=
  .ofValues verb [key] ((Identity.ofKey p.workload key).context [])

/-- What a call wants of the count of selectors: the operations on metadata take the next one. -/
def request : Call → Selector.Request
  | .readMeta .. | .deleteMeta .. | .updateMeta .. => .next
  | _ => .current

/-- What a call writes if nothing is raised, when `issued` selectors have been taken before it; a
check of expiry writes nothing. -/
def wording (p : Profile) (issued : Nat) : Call → Option QueryLine
  | .read _ key => some (keyLine p .get key)
  | .delete _ key => some (keyLine p .delete key)
  | .readMeta _ fieldnum condition keymatch =>
    some (.ofValues .getMany [keymatch]
      (conditionClause p (issued + 1) (kindOf fieldnum) condition []))
  | .deleteMeta _ fieldnum condition keymatch =>
    some (.ofValues .deleteMany [keymatch]
      (conditionClause p (issued + 1) (kindOf fieldnum) condition []))
  | .updateMeta _ fieldnum condition keymatch fieldName fieldValue =>
    some (.ofValues .putMany [keymatch]
      (conditionClause p (issued + 1) (kindOf fieldnum) condition
        (Predicate.ofField .set fieldName fieldValue)))
  | .insert _ key values | .update _ key values => some (putLine p key.display values .null)
  | .insertTtl _ key values ttl => some (putLine p key.display values ttl)
  | .scan _ startkey recordcount => some (.ofValues .scan [startkey, recordcount] [])
  | .verifyTtl .. => none
  | .readLog _ logcount => some (.ofValues .getLogs [logcount] [])

/-- What is raised in a call that selects records by a condition, with the selectors taken by then:
the field index is looked up, the next selector is taken, the condition becomes an identity, and the
match of keys is written. -/
def selectTrouble? (p : Profile) (issued : Nat) (fieldnum condition keymatch : Value) :
    Option (Trouble × Nat) :=
  match kindAt fieldnum with
  | .error t => some (t, issued)
  | .ok kind =>
    ((Identity.conditionTrouble? p.levels p.workload condition kind (issued + 1 : Nat)).or
      (keymatch.trouble? p.levels)).map (·, issued + 1)

/-- What is raised in a call that writes a record: the key is read, and then the clause of a record
with metadata is made, field by field and with the expiry, or the values of a plain record are put
together, unless they are hidden. -/
def putTrouble? (p : Profile) (key : Value) (values : Fields Value) (ttl : Value) :
    Option Trouble :=
  match keyText key with
  | .error t => some t
  | .ok text =>
    if Text.startsWith metadataHead text then
      (values.findSome? fun f => Predicate.trouble? p.levels (FieldKind.parse? f.1) f.2).or
        (if hasKind .ttl values then none else ttl.trouble? p.levels)
    else if p.mockValues then none
    else values.findSome? fun f => f.2.trouble? p.levels

/-- What is raised in a call, if anything is, with the selectors taken by then. The value that an
update assigns is written before anything else. -/
def trouble? (p : Profile) (issued : Nat) : Call → Option (Trouble × Nat)
  | .read _ key | .delete _ key => (key.trouble? p.levels).map (·, issued)
  | .readMeta _ fieldnum condition keymatch | .deleteMeta _ fieldnum condition keymatch =>
    selectTrouble? p issued fieldnum condition keymatch
  | .updateMeta _ fieldnum condition keymatch fieldName fieldValue =>
    ((Predicate.trouble? p.levels (FieldKind.ofName? fieldName) fieldValue).map (·, issued)).or
      (selectTrouble? p issued fieldnum condition keymatch)
  | .insert _ key values | .update _ key values =>
    (putTrouble? p key values .null).map (·, issued)
  | .insertTtl _ key values ttl => (putTrouble? p key values ttl).map (·, issued)
  | .scan _ startkey recordcount =>
    ((startkey.trouble? p.levels).or (recordcount.trouble? p.levels)).map (·, issued)
  | .verifyTtl .. => none
  | .readLog _ logcount => (logcount.trouble? p.levels).map (·, issued)

/-- The line that a call writes when `issued` selectors have been taken before it, unless something
is raised. -/
def line? (p : Profile) (issued : Nat) (c : Call) : Except Trouble (Option QueryLine) :=
  match c.trouble? p issued with
  | some (t, _) => .error t
  | none => .ok (c.wording p issued)

/-- The number of selectors taken after a call, also if something is raised. -/
def issuedAfter (p : Profile) (c : Call) (issued : Nat) : Nat :=
  match c.trouble? p issued with
  | some (_, taken) => taken
  | none => c.request.after issued

end Call

end WorkloadTrace
