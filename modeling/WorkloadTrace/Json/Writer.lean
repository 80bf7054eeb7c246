import WorkloadTrace.Value

/-!
# Writing JSON

Three layouts of one document: compact, spaced, and indented with sorted names. All but printable
ASCII is escaped in each of them, so a written document is ASCII.
-/

namespace WorkloadTrace.Json

/-- A hexadecimal escape of a code unit. -/
def unitEscape (n : Nat) : Text := [char '\\', char 'u'] ++ Text.hexDigits 4 n

/-- One code point inside a quoted text. A character beyond U+FFFF is written as the pair of its
surrogates, so a pair of surrogates looks like the character that it means. -/
def quoteChar (c : CodePoint) : Text :=
  if c = char '\x22' then [char '\\', char '\x22']
  else if c = char '\\' then [char '\\', char '\\']
  else if c = char '\n' then [char '\\', char 'n']
  else if c = char '\r' then [char '\\', char 'r']
  else if c = char '\t' then [char '\\', char 't']
  else if c = char '\x0c' then [char '\\', char 'f']
  else if c = char '\x08' then [char '\\', char 'b']
  else if 0x20 ≤ c.toNat ∧ c.toNat < 0x7f then [c]
  else if c.toNat < 0x10000 then unitEscape c.toNat
  else
    let n := c.toNat - 0x10000
    unitEscape (0xD800 + n / 0x400) ++ unitEscape (0xDC00 + n % 0x400)

/-- A quoted text. -/
def quote (s : Text) : Text := char '\x22' :: s.flatMap quoteChar ++ [char '\x22']

/-- The text of a number; the values that are not finite have names. -/
def realText : Binary64 → Text
  | .nan => "NaN".toText
  | .infinite negative => if negative then "-Infinity".toText else "Infinity".toText
  | x => x.text

/-- A value that is neither a list nor an object; bytes and values of other kinds are written as
texts. -/
def scalarText : Value → Text
  | .null => "null".toText
  | .bool b => if b then "true".toText else "false".toText
  | .int n => Decimal.ofInt n
  | .real x => realText x
  | v => quote v.traceText

/-- What stands between the parts of a document that is written on one line. -/
structure Separators where
  /-- Between two members or entries. -/
  item : Text
  /-- Between a name and its value. -/
  colon : Text

/-- No blanks at all. -/
def Separators.compact : Separators := ⟨[char ','], [char ':']⟩

/-- A blank after each comma and colon. -/
def Separators.spaced : Separators := ⟨[char ',', char ' '], [char ':', char ' ']⟩

mutual

/-- A value on one line. -/
def write (sep : Separators) : Value → Text
  | .list items => char '[' :: Text.joinWith sep.item (writeAll sep items) ++ [char ']']
  | .object fields =>
    char '\x7b' :: Text.joinWith sep.item (writeEntries sep fields) ++ [char '\x7d']
  | v => scalarText v

/-- The members of a list. -/
def writeAll (sep : Separators) : List Value → List Text
  | [] => []
  | v :: vs => write sep v :: writeAll sep vs

/-- The entries of an object. -/
def writeEntries (sep : Separators) : List (Text × Value) → List Text
  | [] => []
  | (k, v) :: rest => (quote k ++ sep.colon ++ write sep v) :: writeEntries sep rest

end

/-- The entries of an object in the order of their names. -/
def sortEntries {α : Type} (fields : List (Text × α)) : List (Text × α) :=
  fields.mergeSort fun a b => Text.le a.1 b.1

/-- Parts on lines of their own between two brackets, at a given indentation. -/
def block (opening closing : CodePoint) (indent : Nat) (parts : List Text) : Text :=
  if parts.isEmpty then [opening, closing]
  else
    let line (n : Nat) : Text := char '\n' :: List.replicate n (char ' ')
    opening :: line (indent + 2) ++ Text.joinWith (char ',' :: line (indent + 2)) parts ++
      line indent ++ [closing]

mutual

/-- A value on several lines, indented by two for each open bracket. -/
def writeIndented (indent : Nat) : Value → Text
  | .list items => block (char '[') (char ']') indent (writeIndentedAll (indent + 2) items)
  | .object fields =>
    block (char '\x7b') (char '\x7d') indent
      ((sortEntries (writeIndentedEntries (indent + 2) fields)).map fun p =>
        quote p.1 ++ [char ':', char ' '] ++ p.2)
  | v => scalarText v

/-- The members of a list. -/
def writeIndentedAll (indent : Nat) : List Value → List Text
  | [] => []
  | v :: vs => writeIndented indent v :: writeIndentedAll indent vs

/-- The entries of an object with their values written. -/
def writeIndentedEntries (indent : Nat) : List (Text × Value) → List (Text × Text)
  | [] => []
  | (k, v) :: rest => (k, writeIndented indent v) :: writeIndentedEntries indent rest

end

end WorkloadTrace.Json
