import WorkloadTrace.Value

/-!
# Reading JSON

A reader of JSON documents that accepts `NaN` and the infinities beside the standard's numbers.
Every refusal names its cause and keeps the text from the offending character on, so that its
position is found afterwards by comparing with the whole document. Repeated names of an object
are all kept: what they mean is decided by whoever asks for the names. How deep brackets can be
nested, how long integers can be and whether surrogates have to form pairs is up to `Rules`.
-/

namespace WorkloadTrace.Json

/-- Why a document is refused. -/
inductive Reason where
  /-- The text ends where a value begins or inside a number or a word. -/
  | endInValue
  /-- The text ends inside a quoted text. -/
  | endInText
  /-- The text ends inside a list. -/
  | endInList
  /-- The text ends inside an object. -/
  | endInObject
  /-- No value begins with this character. -/
  | noValue
  /-- A word begins like a known one and goes on differently. -/
  | wrongWord
  /-- A name is not followed by a colon. -/
  | noColon
  /-- An entry of an object is followed by neither a comma nor the closing brace. -/
  | noCommaOrBrace
  /-- A member of a list is followed by neither a comma nor the closing bracket. -/
  | noCommaOrBracket
  /-- A name is not a quoted text. -/
  | nameNotText
  /-- A comma stands before a closing bracket. -/
  | trailingComma
  /-- Something follows the value. -/
  | trailingCharacters
  /-- A number has a needless zero in front or lacks digits. -/
  | badNumber
  /-- An integer has too many digits. -/
  | numberTooLong
  /-- No such escape, or not a hexadecimal digit. -/
  | badEscape
  /-- A control character stands unescaped in a quoted text. -/
  | controlCharacter
  /-- The first half of a pair of hexadecimal escapes is not followed by an escape. -/
  | unfinishedPair
  /-- Half a pair of hexadecimal escapes. -/
  | halfPair
  /-- Too many brackets are open. -/
  | tooDeep
deriving DecidableEq, Repr

/-- The wording of a cause. -/
def Reason.message : Reason → Text
  | .endInValue => "EOF while parsing a value".toText
  | .endInText => "EOF while parsing a string".toText
  | .endInList => "EOF while parsing a list".toText
  | .endInObject => "EOF while parsing an object".toText
  | .noValue => "expected value".toText
  | .wrongWord => "expected ident".toText
  | .noColon => "expected `:`".toText
  | .noCommaOrBrace => "expected `,` or `\x7d`".toText
  | .noCommaOrBracket => "expected `,` or `]`".toText
  | .nameNotText => "key must be a string".toText
  | .trailingComma => "trailing comma".toText
  | .trailingCharacters => "trailing characters".toText
  | .badNumber => "invalid number".toText
  | .numberTooLong => "number out of range".toText
  | .badEscape => "invalid escape".toText
  | .controlCharacter => "control character (\\u0000-\\u001F) found while parsing a string".toText
  | .unfinishedPair => "unexpected end of hex escape".toText
  | .halfPair => "lone leading surrogate in hex escape".toText
  | .tooDeep => "recursion limit exceeded".toText

/-- A refusal: its cause and the text from the offending character on. -/
structure Refusal where
  /-- The cause. -/
  reason : Reason
  /-- What is left of the text, the offending character first; empty at the end. -/
  rest : Text

/-- What the reader gives: a result or a refusal. -/
abbrev Outcome := Except Refusal

/-- Refuses at a place. -/
def refuse {α : Type} (reason : Reason) (rest : Text) : Outcome α := .error ⟨reason, rest⟩

/-- The blanks between the parts of a document. -/
def isBlank (c : CodePoint) : Bool :=
  c = char ' ' || c = char '\t' || c = char '\n' || c = char '\r'

/-- The text without the blanks at its beginning. -/
def skipBlanks (s : Text) : Text := s.dropWhile isBlank

/-- Reads a given word. -/
def word : Text → Text → Outcome Text
  | [], s => .ok s
  | _ :: _, [] => refuse .endInValue []
  | w :: ws, c :: cs => if w = c then word ws cs else refuse .wrongWord (c :: cs)

/-- What a reader accepts where documents differ. -/
structure Rules where
  /-- The most lists and objects with members that can be open at a time. -/
  maxDepth : Nat
  /-- Whether a list or an object without members is accepted beyond that. -/
  emptyBeyond : Bool
  /-- Whether a number is refused for its digits even when a fraction or an exponent follows. -/
  shortWholes : Bool
  /-- Whether a surrogate has to be half of a pair. -/
  pairedSurrogates : Bool
deriving DecidableEq, Repr

/-- The rules for documents whose refusals are reported with their places. -/
def Rules.strict : Rules := ⟨200, true, true, true⟩

/-- The rules for documents that are either taken or refused as a whole. -/
def Rules.tolerant : Rules := ⟨984, false, false, false⟩

/-- The most digits that an integer can have. -/
def maxIntegerDigits : Nat := 4300

/-- Reads the digits that have to stand at a place. -/
def someDigits (s : Text) : Outcome (Text × Text) :=
  match s with
  | [] => refuse .endInValue []
  | c :: _ =>
    if Decimal.isDigit c then .ok (s.takeWhile Decimal.isDigit, s.dropWhile Decimal.isDigit)
    else refuse .badNumber s

/-- Reads the digits after a point, if there is one. -/
def fraction : Text → Outcome (Option Text × Text)
  | char '.' :: rest => do
    let (ds, rest) ← someDigits rest
    return (some ds, rest)
  | s => .ok (none, s)

/-- Reads an exponent, if there is one. -/
def exponent : Text → Outcome (Option Int × Text)
  | [] => .ok (none, [])
  | c :: rest =>
    if c = char 'e' ∨ c = char 'E' then
      match rest with
      | char '-' :: rest => do
        let (ds, rest) ← someDigits rest
        return (some (-(Decimal.value ds : Int)), rest)
      | char '+' :: rest => do
        let (ds, rest) ← someDigits rest
        return (some (Decimal.value ds : Int), rest)
      | rest => do
        let (ds, rest) ← someDigits rest
        return (some (Decimal.value ds : Int), rest)
    else .ok (none, c :: rest)

/-- Reads a number without its sign; `start` is the text with the sign. -/
def unsignedNumber (rules : Rules) (negative : Bool) (start s : Text) : Outcome (Value × Text) :=
  match s with
  | [] => refuse .endInValue []
  | char 'I' :: _ => do
    let rest ← word "Infinity".toText s
    return (.real (.infinite negative), rest)
  | _ => do
    let (whole, afterWhole) ← someDigits s
    let isLong := maxIntegerDigits < whole.length
    let tooLong : Outcome (Value × Text) :=
      refuse .numberTooLong (start.drop (maxIntegerDigits + 1))
    if whole.head? = some (char '0') ∧ 1 < whole.length then refuse .badNumber (s.drop 1)
    else if rules.shortWholes && isLong then tooLong
    else do
      let (places, afterPlaces) ← fraction afterWhole
      let (power, rest) ← exponent afterPlaces
      match places, power with
      | none, none =>
        if isLong then tooLong
        else
          let n : Int := Decimal.value whole
          return (.int (if negative then -n else n), rest)
      | places, power =>
        let ds := places.getD []
        return (.real (Binary64.ofDecimal negative (Decimal.value (whole ++ ds))
          (power.getD 0 - ds.length)), rest)

/-- Reads a number. -/
def number (rules : Rules) (s : Text) : Outcome (Value × Text) :=
  match s with
  | char '-' :: rest => unsignedNumber rules true s rest
  | _ => unsignedNumber rules false s s

/-- The value of a hexadecimal digit. -/
def hexValue? (c : CodePoint) : Option Nat :=
  if Decimal.isDigit c then some (c.toNat - 0x30)
  else if char 'a' ≤ c ∧ c ≤ char 'f' then some (c.toNat - 0x61 + 10)
  else if char 'A' ≤ c ∧ c ≤ char 'F' then some (c.toNat - 0x41 + 10)
  else none

/-- Reads a given number of hexadecimal digits after a value read so far. -/
def hexDigits : Nat → Nat → Text → Outcome (Nat × Text)
  | 0, n, s => .ok (n, s)
  | _ + 1, _, [] => refuse .endInText []
  | count + 1, n, c :: cs =>
    match hexValue? c with
    | some d => hexDigits count (n * 16 + d) cs
    | none => refuse .badEscape (c :: cs)

/-- Reads the four digits of a hexadecimal escape. -/
def hexCode (s : Text) : Outcome (Nat × Text) :=
  if Text.utf8Length (s.take 4) < 4 then refuse .endInText [] else hexDigits 4 0 s

/-- Reads what a hexadecimal escape stands for; a surrogate has to form a pair with the escape
that follows. -/
def pairedEscape (s : Text) : Outcome (CodePoint × Text) := do
  let (unit, rest) ← hexCode s
  if CodePoint.closesPair unit then refuse .halfPair (s.drop 3)
  else if CodePoint.opensPair unit then
    match rest with
    | [] => refuse .endInText []
    | char '\\' :: [] => refuse .endInText []
    | char '\\' :: char 'u' :: rest => do
      let (low, after) ← hexCode rest
      if CodePoint.closesPair low then return (CodePoint.combine unit low, after)
      else refuse .halfPair (rest.drop 3)
    | char '\\' :: rest => refuse .unfinishedPair rest
    | rest => refuse .unfinishedPair rest
  else return (CodePoint.ofNat unit, rest)

/-- The character that a surrogate means together with the escape that follows, and the text after
that escape. -/
def pair? (unit : Nat) (rest : Text) : Option (CodePoint × Text) :=
  match rest with
  | char '\\' :: char 'u' :: rest =>
    match hexCode rest with
    | .ok (low, after) =>
      if CodePoint.opensPair unit && CodePoint.closesPair low then
        some (CodePoint.combine unit low, after)
      else none
    | .error _ => none
  | _ => none

/-- Reads what a hexadecimal escape stands for; a surrogate that forms no pair stands for
itself. -/
def looseEscape (s : Text) : Outcome (CodePoint × Text) := do
  let (unit, rest) ← hexCode s
  match pair? unit rest with
  | some (c, after) => return (c, after)
  | none => return (CodePoint.ofNat unit, rest)

/-- Reads what follows a backslash. -/
def escape (rules : Rules) : Text → Outcome (CodePoint × Text)
  | [] => refuse .endInText []
  | c :: rest =>
    if c = char '\x22' then .ok (char '\x22', rest)
    else if c = char '\\' then .ok (char '\\', rest)
    else if c = char '/' then .ok (char '/', rest)
    else if c = char 'b' then .ok (char '\x08', rest)
    else if c = char 'f' then .ok (char '\x0c', rest)
    else if c = char 'n' then .ok (char '\n', rest)
    else if c = char 'r' then .ok (char '\r', rest)
    else if c = char 't' then .ok (char '\t', rest)
    else if c = char 'u' then if rules.pairedSurrogates then pairedEscape rest else looseEscape rest
    else refuse .badEscape (c :: rest)

/-- Reads a quoted text after its opening quote; `fuel` bounds the length of the text. -/
def quotedWithin (rules : Rules) : Nat → Text → Outcome (Text × Text)
  | 0, _ => refuse .endInText []
  | _ + 1, [] => refuse .endInText []
  | fuel + 1, c :: rest =>
    if c = char '\x22' then .ok ([], rest)
    else if c = char '\\' then do
      let (x, rest) ← escape rules rest
      let (xs, rest) ← quotedWithin rules fuel rest
      return (x :: xs, rest)
    else if c.toNat < 0x20 then refuse .controlCharacter (c :: rest)
    else if c.isSurrogate && rules.pairedSurrogates then refuse .halfPair (c :: rest)
    else do
      let (xs, rest) ← quotedWithin rules fuel rest
      return (c :: xs, rest)

/-- Reads a quoted text after its opening quote. -/
def quoted (rules : Rules) (s : Text) : Outcome (Text × Text) :=
  quotedWithin rules (s.length + 1) s

/-- Reads the members of a list from a value on; `fuel` bounds their number. -/
def members (value : Text → Outcome (Value × Text)) : Nat → Text → Outcome (List Value × Text)
  | 0, _ => refuse .endInList []
  | fuel + 1, s => do
    let (v, rest) ← value s
    match skipBlanks rest with
    | [] => refuse .endInList []
    | c :: rest =>
      if c = char ']' then return ([v], rest)
      else if c = char ',' then
        match skipBlanks rest with
        | [] => refuse .endInValue []
        | d :: rest =>
          if d = char ']' then refuse .trailingComma (d :: rest)
          else do
            let (vs, rest) ← members value fuel (d :: rest)
            return (v :: vs, rest)
      else refuse .noCommaOrBracket (c :: rest)

/-- Reads a name and the colon after it. -/
def name (rules : Rules) (s : Text) : Outcome (Text × Text) :=
  match s with
  | char '\x22' :: rest => do
    let (k, rest) ← quoted rules rest
    match skipBlanks rest with
    | [] => refuse .endInObject []
    | c :: rest => if c = char ':' then return (k, rest) else refuse .noColon (c :: rest)
  | s => refuse .nameNotText s

/-- Reads the entries of an object from a name on; `fuel` bounds their number. -/
def entries (rules : Rules) (value : Text → Outcome (Value × Text)) :
    Nat → Text → Outcome (List (Text × Value) × Text)
  | 0, _ => refuse .endInObject []
  | fuel + 1, s => do
    let (k, rest) ← name rules s
    let (v, rest) ← value rest
    match skipBlanks rest with
    | [] => refuse .endInObject []
    | c :: rest =>
      if c = char '\x7d' then return ([(k, v)], rest)
      else if c = char ',' then
        match skipBlanks rest with
        | [] => refuse .endInValue []
        | d :: rest =>
          if d = char '\x7d' then refuse .trailingComma (d :: rest)
          else do
            let (kvs, rest) ← entries rules value fuel (d :: rest)
            return ((k, v) :: kvs, rest)
      else refuse .noCommaOrBrace (c :: rest)

/-- Reads a list after its opening bracket. -/
def list (value : Text → Outcome (Value × Text)) (s : Text) : Outcome (Value × Text) :=
  match skipBlanks s with
  | [] => refuse .endInList []
  | c :: rest =>
    if c = char ']' then .ok (.list [], rest)
    else do
      let (vs, rest) ← members value (rest.length + 1) (c :: rest)
      return (.list vs, rest)

/-- Reads the entries of an object after its opening brace. -/
def object (rules : Rules) (value : Text → Outcome (Value × Text)) (s : Text) :
    Outcome (List (Text × Value) × Text) :=
  match skipBlanks s with
  | [] => refuse .endInObject []
  | c :: rest =>
    if c = char '\x7d' then .ok ([], rest) else entries rules value (rest.length + 1) (c :: rest)

/-- Reads a list without members after its opening bracket; a member is too deep. -/
def emptyList (s : Text) : Outcome (Value × Text) :=
  match skipBlanks s with
  | [] => refuse .endInList []
  | c :: rest => if c = char ']' then .ok (.list [], rest) else refuse .tooDeep (c :: rest)

/-- Reads an object without entries after its opening brace; the value of an entry is too
deep. -/
def emptyObject (rules : Rules) (s : Text) : Outcome (Value × Text) :=
  match skipBlanks s with
  | [] => refuse .endInObject []
  | c :: rest =>
    if c = char '\x7d' then .ok (.object [], rest)
    else do
      let (_, rest) ← name rules (c :: rest)
      match skipBlanks rest with
      | [] => refuse .endInValue []
      | rest => refuse .tooDeep rest

/-- Reads a value that is neither a list nor an object. -/
def scalar (rules : Rules) (s : Text) : Outcome (Value × Text) :=
  match s with
  | [] => refuse .endInValue []
  | c :: rest =>
    if c = char '\x22' then do
      let (t, rest) ← quoted rules rest
      return (.text t, rest)
    else if c = char 't' then do
      let rest ← word "true".toText s
      return (.bool true, rest)
    else if c = char 'f' then do
      let rest ← word "false".toText s
      return (.bool false, rest)
    else if c = char 'n' then do
      let rest ← word "null".toText s
      return (.null, rest)
    else if c = char 'N' then do
      let rest ← word "NaN".toText s
      return (.real .nan, rest)
    else if c = char '-' ∨ c = char 'I' ∨ Decimal.isDigit c then number rules s
    else refuse .noValue s

/-- Reads a value in which at most `depth` lists and objects with members are open at a time. -/
def value (rules : Rules) : Nat → Text → Outcome (Value × Text)
  | 0, s =>
    match skipBlanks s with
    | char '[' :: rest =>
      if rules.emptyBeyond then emptyList rest else refuse .tooDeep (char '[' :: rest)
    | char '\x7b' :: rest =>
      if rules.emptyBeyond then emptyObject rules rest else refuse .tooDeep (char '\x7b' :: rest)
    | s => scalar rules s
  | depth + 1, s =>
    match skipBlanks s with
    | char '[' :: rest => list (value rules depth) rest
    | char '\x7b' :: rest => do
      let (kvs, rest) ← object rules (value rules depth) rest
      return (.object kvs, rest)
    | s => scalar rules s

/-- Accepts blanks and nothing else after a document. -/
def finish {α : Type} : α × Text → Outcome α
  | (a, rest) =>
    match skipBlanks rest with
    | [] => .ok a
    | rest => refuse .trailingCharacters rest

/-- Reads a whole document. -/
def read (rules : Rules) (s : Text) : Outcome Value := do finish (← value rules rules.maxDepth s)

/-- A place in a document. -/
structure Position where
  /-- The line, counted from one. -/
  line : Nat
  /-- The number of bytes of the line up to and with the place. -/
  column : Nat
deriving DecidableEq, Repr

/-- The place of the first character of `rest` in a document that ends with `rest`. A line feed
belongs to the line that it opens. -/
def Position.ofRest (document rest : Text) : Position :=
  let consumed := document.take (document.length - rest.length)
  let seen := consumed ++ (rest.take 1).filter (· = char '\n')
  let line := seen.reverse.takeWhile (· ≠ char '\n')
  let offending := match rest with
    | [] => 0
    | c :: _ => if c = char '\n' then 0 else 1
  ⟨1 + seen.count (char '\n'), Text.utf8Length line + offending⟩

/-- The message for a refusal of a document. -/
def Refusal.message (document : Text) (r : Refusal) : Text :=
  let p := Position.ofRest document r.rest
  "Invalid JSON: ".toText ++ r.reason.message ++ " at line ".toText ++ Decimal.ofNat p.line ++
    " column ".toText ++ Decimal.ofNat p.column

end WorkloadTrace.Json
