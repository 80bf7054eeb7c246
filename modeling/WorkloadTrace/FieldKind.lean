import WorkloadTrace.Text.Case
import WorkloadTrace.Value

/-!
# Kinds of metadata fields

The closed set of kinds that a metadata field can have. A kind is named by its tag, exactly as
written, or by its label in any case and with blanks around it; metadata operations name it by
its position.
-/

namespace WorkloadTrace

/-- The kind of a metadata field. -/
inductive FieldKind where
  /-- What a record may be used for. -/
  | purpose
  /-- When a record expires. -/
  | ttl
  /-- Whom a record belongs to. -/
  | user
  /-- What its owner objects to. -/
  | objection
  /-- How decisions about a record are made known. -/
  | declaration
  /-- Who may access a record. -/
  | accessControl
  /-- With whom a record is shared. -/
  | share
  /-- Where a record comes from. -/
  | source
  /-- How accesses are monitored. -/
  | log
  /-- The content of a record, which is not metadata. -/
  | data
deriving DecidableEq, Repr

namespace FieldKind

/-- All kinds; the position of a kind is its index in metadata operations. -/
def all : List FieldKind :=
  [.purpose, .ttl, .user, .objection, .declaration, .accessControl, .share, .source, .log, .data]

/-- The tag of a kind. -/
def tag : FieldKind → Text
  | .purpose => "PUR".toText
  | .ttl => "TTL".toText
  | .user => "USR".toText
  | .objection => "OBJ".toText
  | .declaration => "DEC".toText
  | .accessControl => "ACL".toText
  | .share => "SHR".toText
  | .source => "SRC".toText
  | .log => "LOG".toText
  | .data => "Data".toText

/-- The label of a kind. -/
def label : FieldKind → Text
  | .purpose => "purpose".toText
  | .ttl => "ttl".toText
  | .user => "user".toText
  | .objection => "objection".toText
  | .declaration => "declaration".toText
  | .accessControl => "access-control".toText
  | .share => "share".toText
  | .source => "source".toText
  | .log => "log".toText
  | .data => "data".toText

/-- The kind with a given tag. -/
def ofTag? (name : Text) : Option FieldKind := all.find? fun k => k.tag = name

/-- The kind with a given label. -/
def ofLabel? (name : Text) : Option FieldKind := all.find? fun k => k.label = name

/-- The kind that a name denotes: by tag as written, otherwise by label without blanks around
it and in lower case. -/
def parse? (name : Text) : Option FieldKind :=
  match ofTag? name with
  | some k => some k
  | none => ofLabel? (Text.lower (Text.strip name))

/-- The kind that a value denotes as a name; only a text is one. -/
def ofName? : Value → Option FieldKind
  | .text s => parse? s
  | _ => none

/-- The kind at an index. -/
def ofIndex? (index : Int) : Option FieldKind := if index < 0 then none else all[index.toNat]?

/-- Every kind is named by its tag. -/
theorem parse?_tag (k : FieldKind) : parse? k.tag = some k := by cases k <;> decide

/-- No kind occurs twice in the order of indexes. -/
theorem nodup_all : all.Nodup := by decide

/-- Every kind has an index. -/
theorem mem_all (k : FieldKind) : k ∈ all := by cases k <;> decide

/-- The index of a kind is its position among all. -/
theorem ofIndex?_eq_some_iff {index : Int} {k : FieldKind} :
    ofIndex? index = some k ↔ index = all.idxOf k := by
  have hk : all.idxOf k < all.length := List.idxOf_lt_length_of_mem (mem_all k)
  by_cases h : index < 0
  · have : (0 : Int) ≤ (all.idxOf k : Nat) := Int.natCast_nonneg _
    simp only [ofIndex?, h, if_true, reduceCtorEq, false_iff]
    omega
  · obtain ⟨n, rfl⟩ := Int.eq_ofNat_of_zero_le (Int.not_lt.1 h)
    simp only [ofIndex?, h, if_false, Int.toNat_natCast, Int.natCast_inj]
    constructor
    · intro e
      obtain ⟨hn, rfl⟩ := List.getElem?_eq_some_iff.1 e
      exact (nodup_all.idxOf_getElem n hn).symm
    · rintro rfl
      exact List.getElem?_eq_some_iff.2 ⟨hk, List.getElem_idxOf hk⟩

end FieldKind

end WorkloadTrace
