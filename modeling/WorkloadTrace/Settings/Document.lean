import WorkloadTrace.Settings.Layer
import WorkloadTrace.Yaml

/-!
# Settings documents

The layer that the datum of a YAML document gives. A document has entries if it is a map, or a list
of pairs; one that means nothing has none. Every entry at the top has to be named by a text, whether
it is a section or not.
-/

namespace WorkloadTrace.Settings

/-- The key that an atom is. A truth value is shown as the number that it counts as. -/
def Key.ofAtom : Yaml.Atom → Key
  | .text s => .text s
  | .bool b => .other (Decimal.ofInt (Value.ofBool b))
  | a => .other a.toValue.literal

/-- A datum as what is given for a section. -/
def Content.ofDatum : Yaml.Datum → Content
  | .map es => .entries (es.map fun e => (.ofAtom e.1, e.2.toValue))
  | d => .other d.toValue

/-- Whether a document means that there is nothing in it. -/
def isVacant : Yaml.Datum → Bool
  | .atom .null => true
  | .atom (.bool b) => !b
  | .atom (.int n) => n == 0
  | .atom (.real (.finite _ significand _)) => significand == 0
  | .atom (.text s) => s.isEmpty
  | .list items => items.isEmpty
  | .map es => es.isEmpty
  | _ => false

/-- A text of one code point. -/
def single (p : CodePoint) : Yaml.Datum := .atom (.text [p])

/-- The members of a datum in order: of a list, the code points of a text, or the keys of a map. -/
def members? : Yaml.Datum → Option (List Yaml.Datum)
  | .list items => some items
  | .map es => some (es.map fun e => .atom e.1)
  | .atom (.text s) => some (s.map single)
  | .atom _ => none

/-- The message for a member of a list that is not a pair. -/
def notPair (index length : Nat) : LoadError :=
  .unfitValue ("dictionary update sequence element #".toText ++ Decimal.ofNat index ++
    " has length ".toText ++ Decimal.ofNat length ++ "; 2 is required".toText)

/-- The entry that a pair is; a collection cannot be a key. -/
def pairEntry (index : Nat) : List Yaml.Datum → Except LoadError (Yaml.Atom × Yaml.Datum)
  | [.atom k, v] => .ok (k, v)
  | [k, _] =>
    .error (.notEntries ("unhashable type: '".toText ++ k.toValue.typeName ++ [char '\x27']))
  | ds => .error (notPair index ds.length)

/-- The entry that a member of a list is: it has two members itself. -/
def memberEntry (index : Nat) (d : Yaml.Datum) : Except LoadError (Yaml.Atom × Yaml.Datum) :=
  match members? d with
  | some items => pairEntry index items
  | none =>
    .error (.notEntries ("cannot convert dictionary update sequence element #".toText ++
      Decimal.ofNat index ++ " to a sequence".toText))

/-- The entries that the members of a list are. -/
def memberEntries : Nat → List Yaml.Datum → Except LoadError (List (Yaml.Atom × Yaml.Datum))
  | _, [] => .ok []
  | index, d :: ds => do
    let e ← memberEntry index d
    let es ← memberEntries (index + 1) ds
    return e :: es

/-- The entries of a document. -/
def documentEntries (d : Yaml.Datum) : Except LoadError (List (Yaml.Atom × Yaml.Datum)) :=
  if isVacant d then .ok []
  else
    match d with
    | .map es => .ok es
    | d =>
      match members? d with
      | some items => (memberEntries 0 items).map Yaml.Datum.ofEntries
      | none =>
        .error (.notEntries
          (char '\x27' :: d.toValue.typeName ++ "' object is not iterable".toText))

/-- The name that an entry at the top of a document has. -/
def topName : Yaml.Atom → Except LoadError Text
  | .text s => .ok s
  | a => .error (.unnamedSection a.toValue.typeName)

/-- The entries at the top of a document by their names. -/
def topEntries : List (Yaml.Atom × Yaml.Datum) → Except LoadError (List (Text × Content))
  | [] => .ok []
  | (k, d) :: rest => do
    let name ← topName k
    let es ← topEntries rest
    return (name, Content.ofDatum d) :: es

/-- The layer of a document. -/
def Layer.ofDatum (d : Yaml.Datum) : Except LoadError Layer := do
  let es ← documentEntries d
  return .ofNamed (← topEntries es)

end WorkloadTrace.Settings
