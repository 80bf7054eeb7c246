import WorkloadTrace.Yaml.Token

/-!
# Nodes of YAML

The tree that the tokens of one document describe: scalars, lists and maps. Where a node is left
out, an empty plain scalar stands for it. A text with several documents has no tree. Reading stops
at the first token that cannot stand where it is. In a map, the key `<<` stands for the entries of
another map, or of several, which come before the map's own ones.
-/

namespace WorkloadTrace.Yaml

/-- A node of a document. -/
inductive Node where
  /-- A scalar without quotes. -/
  | plain (content : Text)
  /-- A scalar in quotes. -/
  | quoted (content : Text)
  /-- A list. -/
  | list (items : List Node)
  /-- A map with its keys in order. -/
  | map (entries : List (Node × Node))
  /-- A map into which something is merged that is no map. -/
  | misfit
deriving Repr, Inhabited

namespace Node

/-- What stands for a node that is left out. -/
def empty : Node := .plain []

/-- What comes of reading tokens: a result, or the tokens from the first one on that cannot stand
where it is. -/
abbrev Parsed := Except (List Token)

/-- Reads a node from tokens: whether block collections can begin, and whether a list can begin
without indentation. -/
abbrev Reader := Bool → Bool → List Token → Parsed (Node × List Token)

/-- Reads a node unless one of the given tokens, or nothing, comes next. -/
def orEmpty (read : Reader) (block bare : Bool) (stops : List Token) (ts : List Token) :
    Parsed (Node × List Token) :=
  match ts with
  | [] => .ok (empty, ts)
  | t :: _ => if stops.contains t then .ok (empty, ts) else read block bare ts

/-- Reads the members of an indented block list. -/
def blockItems (read : Reader) : Nat → List Token → Parsed (List Node × List Token)
  | 0, ts => .error ts
  | fuel + 1, ts =>
    match ts with
    | .listEntry :: ts => do
      let (n, ts) ← orEmpty read true false [.listEntry, .blockEnd] ts
      let (ns, ts) ← blockItems read fuel ts
      return (n :: ns, ts)
    | .blockEnd :: ts => .ok ([], ts)
    | ts => .error ts

/-- Reads the members of a block list that is not indented. -/
def bareItems (read : Reader) : Nat → List Token → Parsed (List Node × List Token)
  | 0, ts => .error ts
  | fuel + 1, ts =>
    match ts with
    | .listEntry :: ts => do
      let (n, ts) ← orEmpty read true false [.listEntry, .key, .value, .blockEnd] ts
      let (ns, ts) ← bareItems read fuel ts
      return (n :: ns, ts)
    | ts => .ok ([], ts)

/-- Reads the value of a key, which can be left out. -/
def mapValue (read : Reader) (block : Bool) (stops : List Token) :
    List Token → Parsed (Node × List Token)
  | .value :: ts => orEmpty read block block stops ts
  | ts => .ok (empty, ts)

/-- Reads the entries of a block map. -/
def blockEntries (read : Reader) : Nat → List Token → Parsed (List (Node × Node) × List Token)
  | 0, ts => .error ts
  | fuel + 1, ts =>
    let stops := [.key, .value, .blockEnd]
    match ts with
    | .key :: ts => do
      let (k, ts) ← orEmpty read true true stops ts
      let (v, ts) ← mapValue read true stops ts
      let (es, ts) ← blockEntries read fuel ts
      return ((k, v) :: es, ts)
    | .blockEnd :: ts => .ok ([], ts)
    | ts => .error ts

/-- Moves past the comma that has to stand before every member but the first. -/
def separator (first : Bool) : List Token → Parsed (List Token)
  | .flowEntry :: ts => if first then .ok (.flowEntry :: ts) else .ok ts
  | ts => if first then .ok ts else .error ts

/-- Reads the members of a flow list. -/
def flowItems (read : Reader) : Nat → Bool → List Token → Parsed (List Node × List Token)
  | 0, _, ts => .error ts
  | fuel + 1, first, ts =>
    match ts with
    | .flowListEnd :: ts => .ok ([], ts)
    | ts => do
      match ← separator first ts with
      | .flowListEnd :: ts => return ([], ts)
      | .key :: ts =>
        let (k, ts) ← orEmpty read false false [.value, .flowEntry, .flowListEnd] ts
        let (v, ts) ← mapValue read false [.flowEntry, .flowListEnd] ts
        let (ns, ts) ← flowItems read fuel false ts
        return (.map [(k, v)] :: ns, ts)
      | ts =>
        let (n, ts) ← read false false ts
        let (ns, ts) ← flowItems read fuel false ts
        return (n :: ns, ts)

/-- Reads the entries of a flow map. -/
def flowEntries (read : Reader) :
    Nat → Bool → List Token → Parsed (List (Node × Node) × List Token)
  | 0, _, ts => .error ts
  | fuel + 1, first, ts =>
    match ts with
    | .flowMapEnd :: ts => .ok ([], ts)
    | ts => do
      match ← separator first ts with
      | .flowMapEnd :: ts => return ([], ts)
      | .key :: ts =>
        let (k, ts) ← orEmpty read false false [.value, .flowEntry, .flowMapEnd] ts
        let (v, ts) ← mapValue read false [.flowEntry, .flowMapEnd] ts
        let (es, ts) ← flowEntries read fuel false ts
        return ((k, v) :: es, ts)
      | ts =>
        let (k, ts) ← read false false ts
        let (es, ts) ← flowEntries read fuel false ts
        return ((k, empty) :: es, ts)

/-- Reads a collection whose members are read in a given way. -/
def collection (read : Reader) : Reader
  | _, _, .flowListStart :: ts => do
    let (ns, ts) ← flowItems read (ts.length + 1) true ts
    return (.list ns, ts)
  | _, _, .flowMapStart :: ts => do
    let (es, ts) ← flowEntries read (ts.length + 1) true ts
    return (.map es, ts)
  | true, _, .listStart :: ts => do
    let (ns, ts) ← blockItems read (ts.length + 1) ts
    return (.list ns, ts)
  | true, _, .mapStart :: ts => do
    let (es, ts) ← blockEntries read (ts.length + 1) ts
    return (.map es, ts)
  | _, true, .listEntry :: ts => do
    let (ns, ts) ← bareItems read (ts.length + 2) (.listEntry :: ts)
    return (.list ns, ts)
  | _, _, ts => .error ts

/-- Whether a collection begins with the next token. -/
def beginsCollection (block bare : Bool) : List Token → Bool
  | .flowListStart :: _ | .flowMapStart :: _ => true
  | .listStart :: _ | .mapStart :: _ => block
  | .listEntry :: _ => bare
  | _ => false

/-- Refuses a collection, since it lies too deep. -/
def refuseCollection : Reader
  | block, bare, ts =>
    .error (if beginsCollection block bare ts then .broken .tooDeep :: ts else ts)

/-- Reads a scalar, or a collection in a given way. -/
def scalarOr (collection : Reader) : Reader
  | _, _, .plain content :: ts => .ok (.plain content, ts)
  | _, _, .quoted content :: ts => .ok (.quoted content, ts)
  | block, bare, ts => collection block bare ts

/-- Reads a node in which at most the given number of collections are one inside another. -/
def read : Nat → Reader
  | 0 => scalarOr refuseCollection
  | depth + 1 => scalarOr (collection (read depth))

/-- How many collections can be one inside another. -/
def maxDepth : Nat := 487

/-- Reads the only document, which can be empty, from its first token on. -/
def ofDocument (ts : List Token) : Parsed Node := do
  let (n, ts) ← orEmpty (read maxDepth) true false [.documentStart, .documentEnd] ts
  match ts.dropWhile (· = .documentEnd) with
  | [] => return n
  | ts => throw ts

/-- Why tokens are refused from a token on that cannot stand where it is. -/
def refusalAt : List Token → Refusal
  | .broken r :: _ => r
  | _ => .illFormed

/-- The tree that tokens describe. -/
def ofTokens (ts : List Token) : Except Refusal Node :=
  match ts with
  | [] => .ok empty
  | .documentStart :: ts => (ofDocument ts).mapError refusalAt
  | .documentEnd :: _ => .error .illFormed
  | ts => (ofDocument ts).mapError refusalAt

/-! ## Merged entries -/

/-- Whether a node is the key under which other entries are merged into a map. -/
def isMergeKey : Node → Bool
  | .plain content => content = [char '<', char '<']
  | _ => false

/-- The entries of a map. -/
def entries? : Node → Option (List (Node × Node))
  | .map es => some es
  | _ => none

/-- The entries that a node merges into a map: those of a map, or of the maps in a list, of which
the last one comes first. -/
def merged? : Node → Option (List (Node × Node))
  | .list items => (items.mapM entries?).map fun maps => maps.reverse.flatten
  | n => n.entries?

/-- Entries with those that are merged into them in front. -/
def splice? (es : List (Node × Node)) : Option (List (Node × Node)) := do
  let merged ← (es.filter fun e => e.1.isMergeKey).mapM fun e => e.2.merged?
  return merged.flatten ++ es.filter fun e => !e.1.isMergeKey

mutual

/-- A node with all entries in the maps that they are merged into. -/
def spread : Node → Node
  | .list items => .list (spreadAll items)
  | .map es =>
    match splice? (spreadEntries es) with
    | some es => .map es
    | none => .misfit
  | n => n

/-- The members of a list with all entries in their maps. -/
def spreadAll : List Node → List Node
  | [] => []
  | n :: ns => spread n :: spreadAll ns

/-- The entries of a map with all entries in the maps among their values. -/
def spreadEntries : List (Node × Node) → List (Node × Node)
  | [] => []
  | (k, v) :: rest => (k, spread v) :: spreadEntries rest

end

end Node

end WorkloadTrace.Yaml
