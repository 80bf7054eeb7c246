import WorkloadTrace.Settings.Layer

/-!
# Settings from properties

A harness hands over flat properties of its own, some of which stand for settings. Blanks around
a text do not matter, and only the word `true`, in any case, hides the contents of records.
-/

namespace WorkloadTrace.Settings

/-- The section and the entry that a property stands for. -/
def propertyPaths : Fields (Text × Text) :=
  [("tracer.file".toText, (traceName, "file".toText)),
    ("mockvalues".toText, (traceName, "mock_values".toText)),
    ("recordcount".toText, (workloadName, "record_count".toText)),
    ("usercount".toText, (workloadName, "user_count".toText)),
    ("purposecount".toText, (workloadName, "purpose_count".toText)),
    ("objectionstart".toText, (workloadName, "objection_start".toText)),
    ("objectioncount".toText, (workloadName, "objection_count".toText))]

/-- The value that a property gives to an entry. -/
def propertyValue (entry : Text) (v : Value) : Value :=
  if entry = "mock_values".toText then
    .bool (Text.lower (Text.strip v.display) = "true".toText)
  else
    match v with
    | .text s => .text (Text.strip s)
    | v => v

/-- Parameters: the entries of sections. -/
abbrev Params := Fields (Fields Value)

/-- Sets an entry of a section. -/
def Params.setEntry (params : Params) (name entry : Text) (v : Value) : Params :=
  Fields.set name (Fields.set entry v ((Fields.get? name params).getD [])) params

/-- The parameters that properties give; properties that stand for no setting are ignored. -/
def Params.ofProperties (properties : Fields Value) : Params :=
  properties.foldl
    (fun params p =>
      match Fields.get? p.1 propertyPaths with
      | some (name, entry) => params.setEntry name entry (propertyValue entry p.2)
      | none => params)
    []

/-- Parameters as named values. -/
def Params.fields (params : Params) : Fields Value := params.map fun p => (p.1, .object p.2)

end WorkloadTrace.Settings
