import WorkloadTrace.Fields
import WorkloadTrace.Issue
import WorkloadTrace.Value

/-!
# Checking the entries of an object

An object is checked entry by entry, in the order in which it is declared; names that are not
declared are issues of their own, which stand after those of the declared entries.
-/

namespace WorkloadTrace.Entries

variable {α : Type}

/-- Reads an entry that has to be there. -/
def required (path : List Text) (fields : Fields Value) (name : Text)
    (read : Value → Except Fault α) : Checked α :=
  match Fields.get? name fields with
  | none => .fail (path ++ [name]) .missing
  | some v => .ofExcept (path ++ [name]) (read v)

/-- Reads an entry that has a default. -/
def optional (path : List Text) (fields : Fields Value) (name : Text) (default : α)
    (read : Value → Except Fault α) : Checked α :=
  match Fields.get? name fields with
  | none => .valid default
  | some v => .ofExcept (path ++ [name]) (read v)

/-- The issues of the entries that are not declared. -/
def unknown (path : List Text) (known : List Text) (fields : Fields Value) : List Issue :=
  ((Fields.names fields).filter fun n => !known.contains n).map fun n =>
    ⟨path ++ [n], .unknownEntry⟩

/-- An object has no undeclared entry exactly when each of its names is declared. -/
theorem unknown_eq_nil_iff {path known : List Text} {fields : Fields Value} :
    unknown path known fields = [] ↔ ∀ n ∈ Fields.names fields, n ∈ known := by
  simp [unknown]

end WorkloadTrace.Entries
