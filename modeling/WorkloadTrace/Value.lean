import WorkloadTrace.Binary64
import WorkloadTrace.Fields
import WorkloadTrace.Trouble

/-!
# Dynamic values

What settings documents, operation lines and the callers of a client can hold. A value has a
display form, in which text is shown as it is, and a literal form, in which text is quoted; the
two differ for text only. Bytes that are put into a trace are read as UTF-8.
-/

namespace WorkloadTrace

/-- A value whose kind is known at run time only. -/
inductive Value where
  /-- The absent value. -/
  | null
  /-- A truth value. -/
  | bool (b : Bool)
  /-- An integer of any size. -/
  | int (n : Int)
  /-- A binary64 number. -/
  | real (x : Binary64)
  /-- A text. -/
  | text (s : Text)
  /-- A byte string. -/
  | bytes (bs : List UInt8)
  /-- A value of a kind that nothing is made of: the name of the kind and the literal form. -/
  | other (kind shown : Text)
  /-- A list. -/
  | list (items : List Value)
  /-- Named values in the order in which they were given; a name can occur repeatedly. -/
  | object (fields : List (Text × Value))
deriving Repr, Inhabited

namespace Value

/-- The name that messages use for the kind of a value. -/
def typeName : Value → Text
  | .null => "NoneType".toText
  | .bool _ => "bool".toText
  | .int _ => "int".toText
  | .real _ => "float".toText
  | .text _ => "str".toText
  | .bytes _ => "bytes".toText
  | .other kind _ => kind
  | .list _ => "list".toText
  | .object _ => "dict".toText

/-- The text of a truth value. -/
def boolText (b : Bool) : Text := if b then "True".toText else "False".toText

mutual

/-- The form in which a value stands inside a list or an object: text is quoted. -/
def literal : Value → Text
  | .null => "None".toText
  | .bool b => boolText b
  | .int n => Decimal.ofInt n
  | .real x => x.text
  | .text s => Text.quoted s
  | .bytes bs => Text.quotedBytes bs
  | .other _ shown => shown
  | .list items => char '[' :: Text.joinWith ", ".toText (literals items) ++ [char ']']
  | .object fields =>
    char '\x7b' :: Text.joinWith ", ".toText (entryLiterals fields) ++ [char '\x7d']

/-- The literal forms of the members of a list. -/
def literals : List Value → List Text
  | [] => []
  | v :: vs => literal v :: literals vs

/-- The literal forms of the entries of an object. -/
def entryLiterals : List (Text × Value) → List Text
  | [] => []
  | (k, v) :: rest => (Text.quoted k ++ ": ".toText ++ literal v) :: entryLiterals rest

end

/-- The form in which a value stands alone in a message: text is shown as it is. -/
def display : Value → Text
  | .text s => s
  | v => literal v

/-- The text of a value in a trace: bytes are read as UTF-8 with U+FFFD for ill-formed parts. -/
def traceText : Value → Text
  | .bytes bs => Text.ofUtf8Lossy bs
  | v => display v

mutual

/-- What is raised instead of the literal form of a value when so many levels of nesting can be
shown; each value inside another takes one. -/
def literalTrouble? : Nat → Value → Option Trouble
  | 0, _ => some .deepNesting
  | _ + 1, .int n => Decimal.trouble? n.natAbs
  | levels + 1, .list items => literalsTrouble? levels items
  | levels + 1, .object fields => entriesTrouble? levels fields
  | _ + 1, _ => none

/-- What is raised instead of the literal forms of the members of a list: for the first of them that
has none. -/
def literalsTrouble? : Nat → List Value → Option Trouble
  | _, [] => none
  | levels, v :: vs => (literalTrouble? levels v).or (literalsTrouble? levels vs)

/-- What is raised instead of the literal forms of the entries of an object. -/
def entriesTrouble? : Nat → List (Text × Value) → Option Trouble
  | _, [] => none
  | levels, (_, v) :: rest => (literalTrouble? levels v).or (entriesTrouble? levels rest)

end

/-- What is raised instead of the display form of a value, and instead of its text in a trace, when
so many levels of nesting can be shown. -/
def trouble? (levels : Nat) : Value → Option Trouble
  | .int n => Decimal.trouble? n.natAbs
  | .list items => literalTrouble? levels (.list items)
  | .object fields => literalTrouble? levels (.object fields)
  | _ => none

mutual

/-- Every object with the first position and the last value of each name. -/
def collapse : Value → Value
  | .list items => .list (collapseAll items)
  | .object fields => .object (Fields.ofPairs (collapseEntries fields))
  | v => v

/-- The members of a list, collapsed. -/
def collapseAll : List Value → List Value
  | [] => []
  | v :: vs => collapse v :: collapseAll vs

/-- The values of an object, collapsed. -/
def collapseEntries : List (Text × Value) → List (Text × Value)
  | [] => []
  | (k, v) :: rest => (k, collapse v) :: collapseEntries rest

end

/-- The number that a truth value counts as. -/
def ofBool (b : Bool) : Int := if b then 1 else 0

/-- The integer that a value counts as where an integer is called for: itself, or 1 and 0 for
the truth values. -/
def asInt? : Value → Option Int
  | .int n => some n
  | .bool b => some (ofBool b)
  | _ => none

/-- The members of a value in order: of a list, the characters of a text, the numbers of bytes, or
the names of an object. -/
def members? : Value → Option (List Value)
  | .list items => some items
  | .text s => some (s.map fun c => .text [c])
  | .bytes bs => some (bs.map fun b => .int b.toNat)
  | .object fields => some (fields.map fun f => .text f.1)
  | _ => none

@[simp] theorem display_text (s : Text) : display (.text s) = s := rfl

@[simp] theorem traceText_text (s : Text) : traceText (.text s) = s := rfl

@[simp] theorem traceText_bytes (bs : List UInt8) :
    traceText (.bytes bs) = Text.ofUtf8Lossy bs := rfl

end Value

end WorkloadTrace
