import WorkloadTrace.Json.Reader
import WorkloadTrace.Settings.Layer

/-!
# Settings from the environment

A variable named for a section holds the section as JSON; a variable named for a section and an
entry, with two underscores between them, holds the entry as text. Names are read in any case. An
entry's own variable counts more than the section's, and a variable whose name goes further down
than another one is ignored in favour of that one.
-/

namespace WorkloadTrace.Settings

/-- The variables of an environment. -/
abbrev Environment := List (Text × Text)

namespace Environment

/-- How the names of all variables of this program begin. -/
def head : Text := "tracer_".toText

/-- What stands between the levels of a name. -/
def delimiter : Text := "__".toText

/-- The variables with their names in lower case; of several that agree the last one counts. -/
def normalize (env : Environment) : Fields Text :=
  Fields.ofPairs (env.map fun v => (Text.lower v.1, v.2))

/-- Puts a text into an object at the end of a path of names. What is no object on the way stays
as it is. -/
def plant (text : Text) : List Text → Fields Value → Fields Value
  | [], fields => fields
  | [name], fields => Fields.set name (.text text) fields
  | name :: rest, fields =>
    match Fields.get? name fields with
    | none => Fields.set name (.object (plant text rest [])) fields
    | some (.object inner) => Fields.set name (.object (plant text rest inner)) fields
    | some _ => fields

/-- The entries of a section that have variables of their own. -/
def entryFields (vars : Fields Text) (name : Text) : Fields Value :=
  vars.foldl
    (fun fields v =>
      match Text.dropHead? (head ++ name ++ delimiter) v.1 with
      | some path => plant v.2 (Text.splitOnText delimiter path) fields
      | none => fields)
    []

/-- A key under the name that a section knows it by. -/
def knownKey (known : List Text) : Key → Key
  | .text s =>
    let name := Text.lower s
    .text (if known.contains name then name else s)
  | k => k

/-- The entries of a section under the names that the section knows them by. -/
def knownNames (known : List Text) (es : List (Key × Value)) : List (Key × Value) :=
  Fields.ofPairs (es.map fun e => (knownKey known e.1, e.2))

/-- What a variable of a section holds: nothing when it is null. -/
def decode (json : Text) : Except LoadError (Option Content) :=
  match Json.read .tolerant json with
  | .ok (.object es) =>
    .ok (some (.entries (Fields.ofPairs (es.map fun e => (.text e.1, e.2.collapse)))))
  | .ok .null => .ok none
  | .ok v => .ok (some (.other v))
  | .error ⟨.tooDeep, rest⟩ => .error (.nestedTooDeep (rest.head? = some (char '[')))
  | .error _ => .error .undecodableVariable

/-- The content of a section, if the environment gives one. A section given as null is not
given. -/
def sectionContent? (vars : Fields Text) (name : Text) (known : List Text) :
    Except LoadError (Option Content) :=
  let own := Content.ofFields (entryFields vars name)
  match Fields.get? (head ++ name) vars with
  | none => .ok (if own.isEmpty then none else some (.entries (knownNames known own)))
  | some json =>
    (decode json).map fun content =>
      content.map fun
        | .entries es => .entries (knownNames known (overlayWith overlay own es))
        | c => c

/-- The layer of an environment. -/
def layer (env : Environment) : Except LoadError Layer := do
  let vars := env.normalize
  let logging ← sectionContent? vars loggingName logNames
  let workload ← sectionContent? vars workloadName workloadNames
  let trace ← sectionContent? vars traceName traceNames
  let entry (name : Text) (c : Option Content) : Option (Text × Content) := c.map fun c => (name, c)
  return [entry loggingName logging, entry workloadName workload, entry traceName trace].filterMap
    id

end Environment

end WorkloadTrace.Settings
