import WorkloadTrace.Entries

/-!
# Contents of sections

What a source gives for a section of settings: entries, or a value that has none. The sources lie
over each other entry by entry at every level, so that a section given by two of them has the
entries of both. A source can also have entries whose names are no texts; they are kept, since each
of them is an issue where a section has no entries but its own.
-/

namespace WorkloadTrace.Settings

mutual

/-- A value laid over another: objects are laid over each other entry by entry, and anything else
hides what is below. -/
def overlay : Value → Value → Value
  | .object higher, .object lower => .object (overlayEntries higher lower)
  | higher, _ => higher

/-- The entries of an object laid over those of another, whose order comes first. -/
def overlayEntries : List (Text × Value) → List (Text × Value) → List (Text × Value)
  | [], lower => lower
  | (name, v) :: rest, lower =>
    overlayEntries rest
      (Fields.set name
        (match Fields.get? name lower with
          | some w => overlay v w
          | none => v)
        lower)

end

/-- Named things laid over others, whose order comes first; two things of one name are laid over
each other. -/
def overlayWith {κ α : Type} [DecidableEq κ] (combine : α → α → α) (higher lower : List (κ × α)) :
    List (κ × α) :=
  higher.foldl
    (fun below e =>
      Fields.set e.1
        (match Fields.get? e.1 below with
          | some a => combine e.2 a
          | none => e.2)
        below)
    lower

/-- What an entry is called in a source. -/
inductive Key where
  /-- A text. -/
  | text (s : Text)
  /-- Something else, as it is shown. -/
  | other (shown : Text)
deriving DecidableEq, Repr

/-- What a source gives for a section. -/
inductive Content where
  /-- Entries with distinct names. -/
  | entries (es : List (Key × Value))
  /-- A value without entries. -/
  | other (v : Value)
deriving Repr

namespace Content

/-- The entries that are named by texts. -/
def named (es : List (Key × Value)) : Fields Value :=
  es.filterMap fun e =>
    match e.1 with
    | .text name => some (name, e.2)
    | _ => none

/-- Named values as the entries of a section. -/
def ofFields (fields : Fields Value) : List (Key × Value) := fields.map fun f => (.text f.1, f.2)

/-- A value as what is given for a section. -/
def ofValue : Value → Content
  | .object fields => .entries (ofFields fields)
  | v => .other v

/-- What is given for a section laid over what a lower source gives for it. -/
def above : Content → Content → Content
  | .entries higher, .entries lower => .entries (overlayWith overlay higher lower)
  | higher, _ => higher

/-- Whether a name cannot be written. -/
def hasUnwritableKey (es : List (Key × Value)) : Bool :=
  es.any fun e =>
    match e.1 with
    | .text name => Text.hasSurrogate name
    | _ => false

/-- The issues of the entries that a section does not have. -/
def unknown (path known : List Text) (es : List (Key × Value)) : List Issue :=
  es.filterMap fun e =>
    match e.1 with
    | .text name => if known.contains name then none else some ⟨path ++ [name], .unknownEntry⟩
    | .other shown => some ⟨path ++ [shown], .nameNotText⟩

/-- Named values are all named by texts. -/
@[simp] theorem named_ofFields (fields : Fields Value) : named (ofFields fields) = fields := by
  induction fields with
  | nil => rfl
  | cons f rest ih =>
    simp only [named, ofFields, List.map_cons, List.filterMap_cons] at ih ⊢
    rw [ih]

/-- Nothing laid over entries leaves them as they are. -/
@[simp] theorem overlayWith_nil {κ α : Type} [DecidableEq κ] (combine : α → α → α)
    (lower : List (κ × α)) : overlayWith combine [] lower = lower := rfl

end Content

end WorkloadTrace.Settings
