import WorkloadTrace.Entries
import WorkloadTrace.Json.Reader
import WorkloadTrace.Lenient
import WorkloadTrace.Operation

/-!
# Reading recorded operations

A line holds one JSON object. Its tag decides which entries it has; each entry is checked, and
all issues are reported: those of the entries in the order in which an operation is written, then
the entries that the operation does not have. Of a repeated name the last value counts, except
that every occurrence of a field value has to be a text.
-/

namespace WorkloadTrace.Operation

/-- The name of the entry for the field values. -/
def valuesName : Text := "values".toText

/-- Reads one field value. -/
def checkValue (path : List Text) (entry : Text × Value) : Checked (Text × Text) :=
  (Checked.ofExcept (path ++ [entry.1]) (Lenient.text entry.2)).map fun s => (entry.1, s)

/-- Reads the field values, which are none by default. -/
def checkValues (path : List Text) (fields : Fields Value) : Checked (Fields Text) :=
  match Fields.get? valuesName fields with
  | none => .valid []
  | some (.object es) => (Checked.all (checkValue (path ++ [valuesName])) es).map Fields.ofPairs
  | some _ => .fail (path ++ [valuesName]) .notObject

/-- The names of the entries that an operation has, beside the tag. -/
def entryNames : Tag → List Text
  | .read | .delete => ["key".toText]
  | .readMeta | .deleteMeta => ["fieldnum".toText, "condition".toText, "keymatch".toText]
  | .insert | .update => ["key".toText, valuesName]
  | .insertTtl => ["key".toText, valuesName, "ttl".toText]
  | .updateMeta =>
    ["fieldnum".toText, "condition".toText, "keymatch".toText, "field_name".toText,
      "field_value".toText]
  | .scan => ["startkey".toText, "recordcount".toText]
  | .verifyTtl => ["recordcount".toText]
  | .readLog => ["logcount".toText]

/-- Reads the entries that an operation has. -/
def checkEntries (tag : Tag) (fields : Fields Value) : Checked Operation :=
  let path := [tag.word]
  let text (name : String) := Entries.required path fields name.toText Lenient.text
  let someText (name : String) := Entries.required path fields name.toText Lenient.someText
  let natural (name : String) := Entries.required path fields name.toText Lenient.natural
  let table := Entries.optional path fields tableName defaultTable Lenient.text
  let values := checkValues path fields
  match tag with
  | .read => .read <$> table <*> someText "key"
  | .readMeta =>
    .readMeta <$> table <*> natural "fieldnum" <*> text "condition" <*> someText "keymatch"
  | .insert => .insert <$> table <*> someText "key" <*> values
  | .insertTtl => .insertTtl <$> table <*> someText "key" <*> values <*> natural "ttl"
  | .delete => .delete <$> table <*> someText "key"
  | .deleteMeta =>
    .deleteMeta <$> table <*> natural "fieldnum" <*> text "condition" <*> someText "keymatch"
  | .update => .update <$> table <*> someText "key" <*> values
  | .updateMeta =>
    .updateMeta <$> table <*> natural "fieldnum" <*> text "condition" <*> someText "keymatch" <*>
      text "field_name" <*> text "field_value"
  | .scan => .scan <$> table <*> someText "startkey" <*> natural "recordcount"
  | .verifyTtl => .verifyTtl <$> table <*> natural "recordcount"
  | .readLog => .readLog <$> table <*> natural "logcount"

/-- The tag that the entries name. -/
def checkTag (fields : Fields Value) : Checked Tag :=
  match Fields.get? opName fields with
  | none => .fail [] .noOperation
  | some (.text s) =>
    match Tag.parse? s with
    | some tag => .valid tag
    | none => .fail [] (.unknownOperation s (Tag.all.map Tag.word))
  | some v => .fail [] (.unknownOperation v.collapse.display (Tag.all.map Tag.word))

/-- Reads an operation from the entries of an object. -/
def ofEntries (fields : Fields Value) : Checked Operation :=
  match checkTag fields with
  | .invalid i is => .invalid i is
  | .valid tag =>
    (fun o _ => o) <$> checkEntries tag fields <*>
      Checked.validUnless
        (Entries.unknown [tag.word] (tableName :: opName :: entryNames tag) fields) ()

/-- Reads an operation from a value. -/
def ofValue : Value → Checked Operation
  | .object es => ofEntries (Fields.ofPairs es)
  | _ => .fail [] .notObject

/-- Reads an operation from a line. -/
def parse (line : Text) : Checked Operation :=
  if Text.hasSurrogate line then .fail [] .illFormedText
  else
    match Json.read .strict line with
    | .ok v => ofValue v
    | .error r => .fail [] (.notJson (r.message line))

end WorkloadTrace.Operation
