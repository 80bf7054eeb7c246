import WorkloadTrace.Settings
import WorkloadTrace.Text.Case

/-!
# Layers of settings

Each source of settings gives a layer: what it holds for some of the sections. Sources name the
sections in any case; of several names for one section the first counts. A higher layer is laid
over a lower one section by section.
-/

namespace WorkloadTrace.Settings

/-- A layer: contents of sections by name. -/
abbrev Layer := Fields Content

/-- What a source has under the first of its names that is the given one in lower case. -/
def findSection {α : Type} (source : List (Text × α)) (name : Text) : Option α :=
  (source.find? fun e => Text.lower e.1 = name).map Prod.snd

/-- The layer of a source that names its sections in any case and may have other entries. -/
def Layer.ofNamed (source : List (Text × Content)) : Layer :=
  sectionNames.filterMap fun name => (findSection source name).map fun c => (name, c)

/-- The layer of named values. -/
def Layer.ofFields (source : Fields Value) : Layer :=
  .ofNamed (source.map fun e => (e.1, .ofValue e.2))

/-- A layer over another. -/
def Layer.above (higher lower : Layer) : Layer := overlayWith Content.above higher lower

/-- Why no settings can be made from their sources. -/
inductive LoadError where
  /-- The settings have issues. -/
  | invalid (first : Issue) (others : List Issue)
  /-- A variable of the environment does not hold JSON. -/
  | undecodableVariable
  /-- A variable of the environment holds JSON with too many open brackets, the last of them that
  of a list or of an object. -/
  | nestedTooDeep (inList : Bool)
  /-- The settings file has too many collections one inside another. -/
  | deepFile
  /-- The settings file is not a YAML document. -/
  | illFormedFile
  /-- The settings file is not UTF-8. -/
  | illFormedBytes
  /-- The settings file holds a value that is unfit for its kind. -/
  | unfitValue (message : Text)
  /-- The settings file holds a number that is too great. -/
  | tooGreat (message : Text)
  /-- The settings file holds something that is not made of entries. -/
  | notEntries (message : Text)
  /-- The settings file has an entry at its top whose name is of a kind that no section is named
  by. -/
  | unnamedSection (kind : Text)
  /-- The settings file is named by a home directory that nobody has. -/
  | noHome
deriving Repr

/-- The message for nesting that is too deep. -/
def depthMessage : Text := "maximum recursion depth exceeded".toText

/-- The wording of a load error. -/
def LoadError.message : LoadError → Text
  | .invalid first _ => first.location ++ ": ".toText ++ first.fault.message
  | .undecodableVariable => "a variable of the environment does not hold JSON".toText
  | .nestedTooDeep inList =>
    depthMessage ++ " while decoding a JSON ".toText ++
      (if inList then "array".toText else "object".toText) ++ " from a unicode string".toText
  | .deepFile => depthMessage
  | .illFormedFile => "the settings file is not well formed".toText
  | .illFormedBytes => "the settings file is not UTF-8".toText
  | .unfitValue m => m
  | .tooGreat m => m
  | .notEntries m => m
  | .unnamedSection kind => char '\x27' :: kind ++ "' object has no attribute 'lower'".toText
  | .noHome => "Could not determine home directory.".toText

/-- A layer over nothing is that layer's own lower one. -/
@[simp] theorem Layer.nil_above (lower : Layer) : Layer.above [] lower = lower := rfl

end WorkloadTrace.Settings
