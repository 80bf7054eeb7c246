import WorkloadTrace.FieldKind

/-!
# Predicates

A predicate is the part of a trace line that says one thing about a record: a fixed word, or a
name with a value between parentheses. A clause joins predicates with `&`. Values are escaped so
that they stay on one line and inside their quotes.
-/

namespace WorkloadTrace

namespace Text

/-- The escaped form of a character: a backslash form for the backslash, the double quote and
the line breaks. -/
def escapeChar (c : CodePoint) : Text :=
  if c = char '\\' then [char '\\', char '\\']
  else if c = char '\x22' then [char '\\', char '\x22']
  else if c = char '\n' then [char '\\', char 'n']
  else if c = char '\r' then [char '\\', char 'r']
  else [c]

/-- A text as it stands inside a trace line. -/
def escape (s : Text) : Text := s.flatMap escapeChar

@[simp] theorem escape_nil : escape [] = [] := rfl

@[simp] theorem escape_cons (c : CodePoint) (s : Text) :
    escape (c :: s) = escapeChar c ++ escape s :=
  rfl

@[simp] theorem escape_append (s t : Text) : escape (s ++ t) = escape s ++ escape t :=
  List.flatMap_append

end Text

/-- The text of a value inside a trace line. -/
def Value.escaped (v : Value) : Text := Text.escape v.traceText

/-- What a predicate does: match a value that is there, or assign a new one. -/
inductive Flavor where
  /-- Match an existing value. -/
  | condition
  /-- Assign a value. -/
  | set
deriving DecidableEq, Repr

/-- The word for a flavor. -/
def Flavor.word : Flavor → Text
  | .condition => "condition".toText
  | .set => "set".toText

/-- The flavor that a word denotes. -/
def Flavor.parse? (s : Text) : Option Flavor :=
  if s = Flavor.condition.word then some .condition
  else if s = Flavor.set.word then some .set
  else none

/-- How the predicate of a kind is built. -/
inductive Shape where
  /-- A name with the value between parentheses. -/
  | call (name : Text)
  /-- A word without the value. -/
  | word (name : Text)
  /-- No predicate at all. -/
  | silent
deriving DecidableEq, Repr

/-- The predicate of a shape around an escaped value. -/
def Shape.render (content : Text) : Shape → Text
  | .call name => name ++ char '(' :: content ++ [char ')']
  | .word name => name
  | .silent => []

/-- The shape of a kind's predicate in each flavor. -/
def FieldKind.shape : Flavor → FieldKind → Shape
  | .condition, .user => .call "session-key-is".toText
  | .condition, .source => .call "origin-is".toText
  | .condition, .objection => .call "objections-is".toText
  | .condition, .purpose => .call "purpose-is".toText
  | .condition, .share => .call "share-is".toText
  | .condition, .ttl => .call "expiry-is".toText
  | .set, .user => .call "session-key".toText
  | .set, .source => .call "origin".toText
  | .set, .objection => .call "objections".toText
  | .set, .purpose => .call "purpose".toText
  | .set, .share => .call "share".toText
  | .set, .ttl => .call "expiry".toText
  | _, .log => .call "monitor".toText
  | _, .declaration => .word "DEC".toText
  | _, .accessControl => .word "ACL".toText
  | _, .data => .silent

namespace Predicate

/-- The character between the predicates of a clause. -/
def separator : CodePoint := char '&'

/-- What stands for a field whose kind is unknown. -/
def unknown : Text := "error".toText

/-- The predicate of a field of a kind, or the mark for an unknown kind. -/
def ofKind (flavor : Flavor) (kind : Option FieldKind) (value : Value) : Text :=
  match kind with
  | none => unknown
  | some k => (k.shape flavor).render value.escaped

/-- What is raised instead of the predicate of a field of a kind: the value of a field of an unknown
kind is not looked at. -/
def trouble? (levels : Nat) (kind : Option FieldKind) (value : Value) : Option Trouble :=
  if kind.isSome then value.trouble? levels else none

/-- The predicate of a field with a name. -/
def ofField (flavor : Flavor) (name value : Value) : Text :=
  ofKind flavor (FieldKind.ofName? name) value

/-- Joins the clauses that are not empty. -/
def join (clauses : List Text) : Text :=
  Text.joinWith [separator] (clauses.filter fun c => !c.isEmpty)

/-- The clause of some fields in their order. -/
def clause (flavor : Flavor) (fields : List (Value × Value)) : Text :=
  join (fields.map fun p => ofField flavor p.1 p.2)

@[simp] theorem join_nil : join [] = [] := rfl

/-- An empty clause is left out. -/
@[simp] theorem join_nil_cons (clauses : List Text) : join ([] :: clauses) = join clauses := rfl

/-- A single clause is joined to itself. -/
@[simp] theorem join_singleton (c : Text) : join [c] = c := by
  cases c <;> simp [join, Text.joinWith, List.intercalate]

end Predicate

namespace Value

/-- Whether two values are one name in a map from values: texts and bytes by content, truth
values like the integers that they count as. -/
def sameName : Value → Value → Bool
  | .null, .null => true
  | .text s, .text t => s == t
  | .bytes s, .bytes t => s == t
  | a, b =>
    match a.asInt?, b.asInt? with
    | some m, some n => m == n
    | _, _ => false

/-- Gives a name a value: in its place if it is present, otherwise at the end. -/
def setNamed (name value : Value) : List (Value × Value) → List (Value × Value)
  | [] => [(name, value)]
  | (k, v) :: rest =>
    if sameName k name then (k, value) :: rest else (k, v) :: setNamed name value rest

/-- The map that a list of pairs denotes: the first position and the last value of each name. -/
def mapOfPairs (pairs : List (Value × Value)) : List (Value × Value) :=
  pairs.foldl (fun acc p => setNamed p.1 p.2 acc) []

end Value

end WorkloadTrace
