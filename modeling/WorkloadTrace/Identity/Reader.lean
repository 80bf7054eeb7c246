import WorkloadTrace.Entries
import WorkloadTrace.Identity
import WorkloadTrace.Lenient

/-!
# Reading identities

An identity is an object with exactly two entries, both of which are texts.
-/

namespace WorkloadTrace.Identity

/-- The name of the entry for the user. -/
def userName : Text := "user".toText

/-- The name of the entry for the purpose. -/
def purposeName : Text := "purpose".toText

/-- Reads an identity from the entries of an object. -/
def ofEntries (fields : Fields Value) : Checked Identity :=
  (fun u p _ => Identity.mk u p) <$> Entries.required [] fields userName Lenient.text <*>
    Entries.required [] fields purposeName Lenient.text <*>
    Checked.validUnless (Entries.unknown [] [userName, purposeName] fields) ()

end WorkloadTrace.Identity
