import WorkloadTrace.Yaml.Node

/-!
# What YAML documents denote

The datum that a node denotes. Collections are filled level by level: those nearer to the root
come first, so of several refusals the one that counts lies nearest to the root, and at one level it
is the first in the document. Of a repeated key the last value counts.
-/

namespace WorkloadTrace.Yaml

/-- What a document denotes. -/
inductive Datum where
  /-- A scalar. -/
  | atom (a : Atom)
  /-- A list. -/
  | list (items : List Datum)
  /-- A map; its keys are scalars. -/
  | map (entries : List (Atom × Datum))
deriving Repr, Inhabited

/-- A refusal, and how many levels below a node it is found. -/
structure Fault where
  /-- The number of levels. -/
  level : Nat
  /-- The refusal. -/
  refusal : Refusal
deriving DecidableEq, Repr

namespace Fault

/-- A fault one level further down. -/
def below (f : Fault) : Fault := { f with level := f.level + 1 }

/-- Of two faults, the second one given later in the document, the one that is found first. -/
def first (f g : Fault) : Fault := if g.level < f.level then g else f

/-- Both of two results, or the fault that is found first. -/
def both {α β : Type} : Except Fault α → Except Fault β → Except Fault (α × β)
  | .ok a, .ok b => .ok (a, b)
  | .error f, .ok _ => .error f
  | .ok _, .error g => .error g
  | .error f, .error g => .error (first f g)

end Fault

namespace Datum

mutual

/-- Compares two data. -/
def decEq : (d e : Datum) → Decidable (d = e)
  | .atom a, .atom b => decidable_of_iff (a = b) (by simp)
  | .list ds, .list es =>
    match decEqList ds es with
    | .isTrue h => .isTrue (congrArg _ h)
    | .isFalse h => .isFalse fun heq => h (list.inj heq)
  | .map ds, .map es =>
    match decEqEntries ds es with
    | .isTrue h => .isTrue (congrArg _ h)
    | .isFalse h => .isFalse fun heq => h (map.inj heq)
  | .atom _, .list _ | .atom _, .map _ | .list _, .atom _ | .list _, .map _ | .map _, .atom _
  | .map _, .list _ => .isFalse nofun

/-- Compares the members of two lists. -/
def decEqList : (ds es : List Datum) → Decidable (ds = es)
  | [], [] => .isTrue rfl
  | d :: ds, e :: es =>
    match decEq d e, decEqList ds es with
    | .isTrue h, .isTrue hs => .isTrue (congr (congrArg _ h) hs)
    | .isFalse h, _ => .isFalse fun heq => h (List.cons.inj heq).1
    | _, .isFalse hs => .isFalse fun heq => hs (List.cons.inj heq).2
  | [], _ :: _ | _ :: _, [] => .isFalse nofun

/-- Compares the entries of two maps. -/
def decEqEntries : (ds es : List (Atom × Datum)) → Decidable (ds = es)
  | [], [] => .isTrue rfl
  | (a, d) :: ds, (b, e) :: es =>
    match decEq d e, decEqEntries ds es with
    | .isTrue h, .isTrue hs => decidable_of_iff (a = b) (by simp [h, hs])
    | .isFalse h, _ => .isFalse fun heq => h (Prod.mk.inj (List.cons.inj heq).1).2
    | _, .isFalse hs => .isFalse fun heq => hs (List.cons.inj heq).2
  | [], _ :: _ | _ :: _, [] => .isFalse nofun

end

instance : DecidableEq Datum := decEq

/-- What is known of a scalar as soon as it is met. -/
def atMeeting (r : Except Refusal Atom) : Except Fault Atom := r.mapError fun r => ⟨0, r⟩

/-- The atom that a node is as a key. A plain `=` is a text there, and a collection is no key. -/
def keyOf : Node → Except Refusal Atom
  | .plain content => if content = [char '='] then .ok (.text content) else Scalar.resolve content
  | .quoted content => .ok (.text content)
  | _ => .error .illFormed

/-- Gives a key a value: in its place if it is present, otherwise at the end. -/
def put (key : Atom) (value : Datum) : List (Atom × Datum) → List (Atom × Datum)
  | [] => [(key, value)]
  | (k, v) :: rest => if k.same key then (k, value) :: rest else (k, v) :: put key value rest

/-- The map of some entries: the first position and the last value of each key. -/
def ofEntries (entries : List (Atom × Datum)) : List (Atom × Datum) :=
  entries.foldl (fun m e => put e.1 e.2 m) []

mutual

/-- The datum of a node. -/
def ofNode : Node → Except Fault Datum
  | .plain content => (atMeeting (Scalar.resolve content)).map .atom
  | .quoted content => .ok (.atom (.text content))
  | .list items => (ofNodes items).mapError Fault.below |>.map .list
  | .map es => (ofNodeEntries es).mapError Fault.below |>.map fun es => .map (ofEntries es)
  | .misfit => .error ⟨1, .illFormed⟩

/-- The data of the members of a list. -/
def ofNodes : List Node → Except Fault (List Datum)
  | [] => .ok []
  | n :: ns => (Fault.both (ofNode n) (ofNodes ns)).map fun p => p.1 :: p.2

/-- The keys and values of the entries of a map. -/
def ofNodeEntries : List (Node × Node) → Except Fault (List (Atom × Datum))
  | [] => .ok []
  | (k, v) :: rest =>
    (Fault.both (Fault.both (atMeeting (keyOf k)) (ofNode v)) (ofNodeEntries rest)).map fun p =>
      p.1 :: p.2

end

mutual

/-- The value that a datum is. A key that is no text is shown as one. -/
def toValue : Datum → Value
  | .atom a => a.toValue
  | .list items => .list (toValues items)
  | .map entries => .object (Fields.ofPairs (toFields entries))

/-- The values that data are. -/
def toValues : List Datum → List Value
  | [] => []
  | d :: ds => toValue d :: toValues ds

/-- The named values that entries are. -/
def toFields : List (Atom × Datum) → List (Text × Value)
  | [] => []
  | (k, v) :: rest => (k.toValue.display, toValue v) :: toFields rest

end

end Datum

end WorkloadTrace.Yaml
