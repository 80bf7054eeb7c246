import WorkloadTrace.Call
import WorkloadTrace.Json.Writer

/-!
# Recorded operations

The operations that a replay file holds, with arguments of their proper kinds. An operation is
written as a JSON object whose entry `op` says which of the eleven it is, and it is performed as
a call with the same arguments.
-/

namespace WorkloadTrace

/-- The word that says which operation a line holds. -/
inductive Tag where
  /-- Reads one record. -/
  | read
  /-- Reads the records that a condition selects. -/
  | readMeta
  /-- Inserts a record. -/
  | insert
  /-- Inserts a record that expires. -/
  | insertTtl
  /-- Deletes one record. -/
  | delete
  /-- Deletes the records that a condition selects. -/
  | deleteMeta
  /-- Updates a record. -/
  | update
  /-- Changes metadata of the records that a condition selects. -/
  | updateMeta
  /-- Reads a range of records. -/
  | scan
  /-- Asks for a check of expiry. -/
  | verifyTtl
  /-- Reads the monitoring log. -/
  | readLog
deriving DecidableEq, Repr

namespace Tag

/-- All tags. -/
def all : List Tag :=
  [.read, .readMeta, .insert, .insertTtl, .delete, .deleteMeta, .update, .updateMeta, .scan,
    .verifyTtl, .readLog]

/-- The word of a tag. -/
def word : Tag → Text
  | .read => "read".toText
  | .readMeta => "read_meta".toText
  | .insert => "insert".toText
  | .insertTtl => "insert_ttl".toText
  | .delete => "delete".toText
  | .deleteMeta => "delete_meta".toText
  | .update => "update".toText
  | .updateMeta => "update_meta".toText
  | .scan => "scan".toText
  | .verifyTtl => "verify_ttl".toText
  | .readLog => "read_log".toText

/-- The tag with a given word. -/
def parse? (s : Text) : Option Tag := all.find? fun t => t.word = s

/-- Every tag is denoted by its word. -/
theorem parse?_word (t : Tag) : parse? t.word = some t := by cases t <;> decide

end Tag

/-- An operation with arguments of their proper kinds. -/
inductive Operation where
  /-- Reads one record. -/
  | read (table key : Text)
  /-- Reads the records that a condition selects. -/
  | readMeta (table : Text) (fieldnum : Nat) (condition keymatch : Text)
  /-- Inserts a record. -/
  | insert (table key : Text) (values : Fields Text)
  /-- Inserts a record that expires. -/
  | insertTtl (table key : Text) (values : Fields Text) (ttl : Nat)
  /-- Deletes one record. -/
  | delete (table key : Text)
  /-- Deletes the records that a condition selects. -/
  | deleteMeta (table : Text) (fieldnum : Nat) (condition keymatch : Text)
  /-- Updates a record. -/
  | update (table key : Text) (values : Fields Text)
  /-- Changes metadata of the records that a condition selects. -/
  | updateMeta (table : Text) (fieldnum : Nat) (condition keymatch fieldName fieldValue : Text)
  /-- Reads a range of records. -/
  | scan (table startkey : Text) (recordcount : Nat)
  /-- Asks for a check of expiry. -/
  | verifyTtl (table : Text) (recordcount : Nat)
  /-- Reads the monitoring log. -/
  | readLog (table : Text) (logcount : Nat)
deriving DecidableEq, Repr

namespace Operation

/-- The table of operations that do not name one. -/
def defaultTable : Text := "usertable".toText

/-- The tag of an operation. -/
def tag : Operation → Tag
  | .read .. => .read
  | .readMeta .. => .readMeta
  | .insert .. => .insert
  | .insertTtl .. => .insertTtl
  | .delete .. => .delete
  | .deleteMeta .. => .deleteMeta
  | .update .. => .update
  | .updateMeta .. => .updateMeta
  | .scan .. => .scan
  | .verifyTtl .. => .verifyTtl
  | .readLog .. => .readLog

/-- Field values as a value. -/
def valuesOf (values : Fields Text) : Fields Value := values.map fun f => (f.1, .text f.2)

/-- The call that performs an operation. -/
def toCall : Operation → Call
  | .read t k => .read (.text t) (.text k)
  | .readMeta t n c m => .readMeta (.text t) (.int n) (.text c) (.text m)
  | .insert t k vs => .insert (.text t) (.text k) (valuesOf vs)
  | .insertTtl t k vs ttl => .insertTtl (.text t) (.text k) (valuesOf vs) (.int ttl)
  | .delete t k => .delete (.text t) (.text k)
  | .deleteMeta t n c m => .deleteMeta (.text t) (.int n) (.text c) (.text m)
  | .update t k vs => .update (.text t) (.text k) (valuesOf vs)
  | .updateMeta t n c m name v =>
    .updateMeta (.text t) (.int n) (.text c) (.text m) (.text name) (.text v)
  | .scan t k n => .scan (.text t) (.text k) (.int n)
  | .verifyTtl t n => .verifyTtl (.text t) (.int n)
  | .readLog t n => .readLog (.text t) (.int n)

/-- The name of an entry that holds a table. -/
def tableName : Text := "table".toText

/-- The name of the entry that holds the tag. -/
def opName : Text := "op".toText

/-- The entries that come before the tag and those that come after it, for each operation. -/
def entriesAround : Operation → List (Text × Value) × List (Text × Value)
  | .read _ k => ([("key".toText, .text k)], [])
  | .readMeta _ n c m => (conditionEntries n c m, [])
  | .insert _ k vs => ([("key".toText, .text k)], [("values".toText, .object (valuesOf vs))])
  | .insertTtl _ k vs ttl =>
    ([("key".toText, .text k)],
      [("values".toText, .object (valuesOf vs)), ("ttl".toText, .int ttl)])
  | .delete _ k => ([("key".toText, .text k)], [])
  | .deleteMeta _ n c m => (conditionEntries n c m, [])
  | .update _ k vs => ([("key".toText, .text k)], [("values".toText, .object (valuesOf vs))])
  | .updateMeta _ n c m name v =>
    (conditionEntries n c m,
      [("field_name".toText, .text name), ("field_value".toText, .text v)])
  | .scan _ k n => ([], [("startkey".toText, .text k), ("recordcount".toText, .int n)])
  | .verifyTtl _ n => ([], [("recordcount".toText, .int n)])
  | .readLog _ n => ([], [("logcount".toText, .int n)])
where
  /-- The entries of an operation with a condition. -/
  conditionEntries (n : Nat) (c m : Text) : List (Text × Value) :=
    [("fieldnum".toText, .int n), ("condition".toText, .text c), ("keymatch".toText, .text m)]

/-- The table of an operation. -/
def table : Operation → Text
  | .read t _ | .readMeta t .. | .insert t .. | .insertTtl t .. | .delete t _
  | .deleteMeta t .. | .update t .. | .updateMeta t .. | .scan t .. | .verifyTtl t _
  | .readLog t _ => t

/-- The entries of an operation: the table first, then the ones that groups of operations share,
then the tag, then the ones of its own. -/
def entries (o : Operation) : List (Text × Value) :=
  (tableName, .text o.table) :: o.entriesAround.1 ++
    (opName, .text o.tag.word) :: o.entriesAround.2

/-- An operation as a line of a replay file. -/
def encode (o : Operation) : Text := Json.write .spaced (.object o.entries)

end Operation

end WorkloadTrace
