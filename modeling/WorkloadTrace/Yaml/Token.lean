import WorkloadTrace.Json.Reader
import WorkloadTrace.Yaml.Scalar

/-!
# Tokens of YAML

The tokens of a YAML document: indentation becomes explicit starts and ends of block collections,
and a colon turns what stands before it on the same line into a key. Where the text cannot be cut
any further, a last token says why; it does not count before something asks for it. Anchors,
aliases, tags, directives and block scalars do not belong to the accepted language; a text that has
one is refused like any other ill-formed text.
-/

namespace WorkloadTrace.Yaml

/-- A token. -/
inductive Token where
  /-- A block list begins. -/
  | listStart
  /-- A block map begins. -/
  | mapStart
  /-- A block list or a block map ends. -/
  | blockEnd
  /-- An opening bracket. -/
  | flowListStart
  /-- A closing bracket. -/
  | flowListEnd
  /-- An opening brace. -/
  | flowMapStart
  /-- A closing brace. -/
  | flowMapEnd
  /-- A key follows. -/
  | key
  /-- The value of a key follows. -/
  | value
  /-- A member of a block list follows. -/
  | listEntry
  /-- A comma between members. -/
  | flowEntry
  /-- A document begins. -/
  | documentStart
  /-- A document ends. -/
  | documentEnd
  /-- A scalar without quotes. -/
  | plain (content : Text)
  /-- A scalar in quotes. -/
  | quoted (content : Text)
  /-- The text cannot be cut into tokens from here on. -/
  | broken (r : Refusal)
deriving DecidableEq, Repr

/-- What comes of reading a piece of a document. -/
abbrev Scan := Except Refusal

/-- Refuses a piece of a document that is ill-formed. -/
def illFormed {α : Type} : Scan α := .error .illFormed

/-- A byte order mark. -/
def byteOrderMark : CodePoint := CodePoint.ofNat 0xFEFF

/-- A line break. -/
def isBreak (c : CodePoint) : Bool :=
  c = char '\n' || c = char '\r' || c.toNat = 0x85 || c.toNat = 0x2028 || c.toNat = 0x2029

/-- A blank, a tab or a line break. -/
def isGap (c : CodePoint) : Bool := c = char ' ' || c = char '\t' || isBreak c

/-- Whether a word ends before what follows: a gap or the end of the text. -/
def endsWord (s : Text) : Bool :=
  match s with
  | [] => true
  | c :: _ => isGap c

/-- A character that a document can contain. -/
def isAllowed (c : CodePoint) : Bool :=
  let n := c.toNat
  n = 9 || n = 10 || n = 13 || (0x20 ≤ n && n ≤ 0x7E) || n = 0x85 ||
    (0xA0 ≤ n && n ≤ 0xD7FF) || (0xE000 ≤ n && n ≤ 0xFFFD) || 0x10000 ≤ n

/-- What is left of a document, and where it begins. -/
structure Cursor where
  /-- The text left. -/
  rest : Text
  /-- The number of characters before it. -/
  index : Nat := 0
  /-- The number of lines before its line. -/
  line : Nat := 0
  /-- The number of characters before it on its line. -/
  column : Nat := 0

namespace Cursor

/-- Moves past one character. -/
def advance (c : Cursor) : Cursor :=
  match c.rest with
  | [] => c
  | x :: rest =>
    if isBreak x && !(x = char '\r' && rest.head? = some (char '\n')) then
      ⟨rest, c.index + 1, c.line + 1, 0⟩
    else ⟨rest, c.index + 1, c.line, if x = byteOrderMark then c.column else c.column + 1⟩

/-- Moves past some characters. -/
def advanceBy : Nat → Cursor → Cursor
  | 0, c => c
  | n + 1, c => advanceBy n c.advance

/-- Moves past the longest run of characters with a property. -/
def skipWhile (p : CodePoint → Bool) (c : Cursor) : Cursor :=
  c.advanceBy (c.rest.takeWhile p).length

/-- Whether a line break comes next. -/
def atBreak (c : Cursor) : Bool :=
  match c.rest with
  | [] => false
  | x :: _ => isBreak x

/-- Moves past a line break; all but two of them mean a line feed. -/
def takeBreak (c : Cursor) : CodePoint × Cursor :=
  match c.rest with
  | char '\r' :: char '\n' :: _ => (char '\n', c.advanceBy 2)
  | x :: _ => (if x.toNat = 0x2028 ∨ x.toNat = 0x2029 then x else char '\n', c.advance)
  | [] => (char '\n', c)

/-- Whether a mark that begins or ends a document comes next. -/
def atDocumentMark (c : Cursor) : Bool :=
  match c.rest with
  | char '-' :: char '-' :: char '-' :: rest => endsWord rest
  | char '.' :: char '.' :: char '.' :: rest => endsWord rest
  | _ => false

end Cursor

/-- What a line break and further breaks after it stand for: a single line feed is a blank, and
of several the first is dropped. -/
def foldedBreaks (first : CodePoint) (others : Text) : Text :=
  if first ≠ char '\n' then first :: others else if others.isEmpty then [char ' '] else others

/-! ## Quoted scalars -/

/-- Moves past blank lines inside a quoted scalar; a document mark must not come there. -/
def quotedBreaks : Nat → Cursor → Scan (Text × Cursor)
  | 0, _ => illFormed
  | fuel + 1, c =>
    if c.atDocumentMark then illFormed
    else
      let c := c.skipWhile fun x => x = char ' ' || x = char '\t'
      if c.atBreak then do
        let (b, c) := c.takeBreak
        let (bs, c) ← quotedBreaks fuel c
        return (b :: bs, c)
      else .ok ([], c)

/-- What a letter after a backslash stands for. -/
def escapes : List (CodePoint × Nat) :=
  [(char '0', 0), (char 'a', 7), (char 'b', 8), (char 't', 9), (char '\t', 9), (char 'n', 10),
    (char 'v', 11), (char 'f', 12), (char 'r', 13), (char 'e', 27), (char ' ', 32),
    (char '\x22', 34), (char '\\', 92), (char '/', 47), (char 'N', 0x85), (char '_', 0xA0),
    (char 'L', 0x2028), (char 'P', 0x2029)]

/-- The number of hexadecimal digits after a letter that announces them. -/
def hexLength? (c : CodePoint) : Option Nat :=
  if c = char 'x' then some 2
  else if c = char 'u' then some 4
  else if c = char 'U' then some 8
  else none

/-- The first number that an escape cannot have for its size alone. -/
def escapeBound : Nat := 0x80000000

/-- The code point that an escape names by its number. -/
def escaped (n : Nat) : Scan CodePoint :=
  if n < CodePoint.bound then .ok (.ofNat n)
  else if n < escapeBound then .error (.unfit "chr() arg not in range(0x110000)".toText)
  else .error (.tooGreat "Python int too large to convert to C int".toText)

/-- Reads what follows a backslash. -/
def quotedEscape (c : Cursor) : Scan (Text × Cursor) :=
  match c.rest with
  | [] => illFormed
  | x :: rest =>
    match escapes.lookup x with
    | some n => .ok ([CodePoint.ofNat n], c.advance)
    | none =>
      match hexLength? x with
      | some width =>
        match (rest.take width).mapM Json.hexValue? with
        | none => illFormed
        | some ds =>
          if ds.length < width then illFormed
          else do
            let y ← escaped (ds.foldl (fun n d => n * 16 + d) 0)
            return ([y], c.advanceBy (width + 1))
      | none =>
        if isBreak x then do
          let (bs, c) ← quotedBreaks (rest.length + 2) c.takeBreak.2
          return (bs, c)
        else illFormed

/-- Reads a quoted scalar after its opening quote; `fuel` bounds the length of the text. -/
def quotedScalar (double : Bool) : Nat → Cursor → Scan (Text × Cursor)
  | 0, _ => illFormed
  | fuel + 1, c =>
    match c.rest with
    | [] => illFormed
    | x :: rest =>
      if !double && x = char '\x27' && rest.head? = some (char '\x27') then do
        let (s, c) ← quotedScalar double fuel (c.advanceBy 2)
        return (char '\x27' :: s, c)
      else if (double && x = char '\x22') || (!double && x = char '\x27') then .ok ([], c.advance)
      else if double && x = char '\\' then do
        let (t, c) ← quotedEscape c.advance
        let (s, c) ← quotedScalar double fuel c
        return (t ++ s, c)
      else if isGap x then do
        let blanks := c.rest.takeWhile fun y => y = char ' ' || y = char '\t'
        let c := c.advanceBy blanks.length
        if c.atBreak then do
          let (b, c) := c.takeBreak
          let (bs, c) ← quotedBreaks (rest.length + 2) c
          let (s, c) ← quotedScalar double fuel c
          return (foldedBreaks b bs ++ s, c)
        else do
          let (s, c) ← quotedScalar double fuel c
          return (blanks ++ s, c)
      else do
        let (s, c) ← quotedScalar double fuel c.advance
        return (x :: s, c)

/-! ## Plain scalars -/

/-- The number of characters up to the end of a run of a plain scalar. -/
def plainRun (inFlow : Bool) : Text → Nat
  | [] => 0
  | x :: rest =>
    let endsAtColon := match rest with
      | [] => true
      | y :: _ => isGap y || (inFlow && (y = char ',' || y = char '[' || y = char ']' ||
          y = char '\x7b' || y = char '\x7d'))
    if isGap x || (x = char ':' && endsAtColon) ||
        (inFlow && (x = char ',' || x = char '?' || x = char '[' || x = char ']' ||
          x = char '\x7b' || x = char '\x7d')) then 0
    else plainRun inFlow rest + 1

/-- Moves past blank lines inside a plain scalar, up to a document mark. -/
def plainBreaks : Nat → Cursor → Option (Text × Cursor)
  | 0, _ => none
  | fuel + 1, c =>
    if c.atDocumentMark then none
    else
      let c := c.skipWhile (· = char ' ')
      if c.atBreak then do
        let (b, c) := c.takeBreak
        let (bs, c) ← plainBreaks fuel c
        return (b :: bs, c)
      else some ([], c)

/-- What stands between two runs of a plain scalar: the text it means, which is empty when the
scalar ends here, the cursor after it, and whether a line ended. -/
def plainGap (c : Cursor) : Text × Cursor × Bool :=
  let blanks := c.rest.takeWhile (· = char ' ')
  let c := c.advanceBy blanks.length
  if c.atBreak then
    let (b, c) := c.takeBreak
    match plainBreaks (c.rest.length + 1) c with
    | some (bs, c) => (foldedBreaks b bs, c, true)
    | none => ([], c, true)
  else (blanks, c, false)

/-- Reads a plain scalar whose further lines have to be indented at least by `indent`: its text,
the cursor after it and after the gap that follows it, and whether a line ended in that gap. -/
def plainScalar (inFlow : Bool) (indent : Int) : Nat → Text → Bool → Cursor → Text × Cursor × Bool
  | 0, _, ended, c => ([], c, ended)
  | fuel + 1, gap, ended, c =>
    let n := if c.rest.head? = some (char '#') then 0 else plainRun inFlow c.rest
    if n = 0 then ([], c, ended)
    else
      let piece := gap ++ c.rest.take n
      let (nextGap, c, ended) := plainGap (c.advanceBy n)
      if nextGap.isEmpty || c.rest.head? = some (char '#') ||
          (!inFlow && (c.column : Int) < indent) then
        (piece, c, ended)
      else
        let (s, c, ended) := plainScalar inFlow indent fuel nextGap ended c
        (piece ++ s, c, ended)

/-! ## The scanner -/

/-- A place before which a key token may have to be put. -/
structure PossibleKey where
  /-- The depth of flow collections there. -/
  depth : Nat
  /-- The number of tokens before it. -/
  position : Nat
  /-- Whether only a key can stand there. -/
  required : Bool
  /-- Where it is. -/
  place : Cursor

/-- The state of the scanner. -/
structure Scanner where
  /-- What is left of the document. -/
  cursor : Cursor
  /-- The tokens found, the last one first. -/
  found : List Token := []
  /-- The number of open flow collections. -/
  depth : Nat := 0
  /-- The columns of the open block collections, the innermost first. -/
  indents : List Nat := []
  /-- Whether a key can begin here. -/
  keyAllowed : Bool := true
  /-- The places where a key can have begun, at most one at each depth. -/
  possible : List PossibleKey := []

namespace Scanner

/-- The column of the innermost block collection. -/
def indent (s : Scanner) : Int :=
  match s.indents with
  | [] => -1
  | n :: _ => n

/-- Adds a token. -/
def emit (t : Token) (s : Scanner) : Scanner := { s with found := t :: s.found }

/-- Adds tokens at a position. -/
def insertAt (position : Nat) (ts : List Token) (s : Scanner) : Scanner :=
  let after := s.found.length - position
  { s with found := s.found.take after ++ ts.reverse ++ s.found.drop after }

/-- Opens a block collection at a column, unless one is open there; whether it did. -/
def openIndent (column : Nat) (s : Scanner) : Bool × Scanner :=
  if s.indent < column then (true, { s with indents := column :: s.indents }) else (false, s)

/-- Closes the block collections that are indented deeper than a column. -/
def closeIndents (column : Int) : List Nat → List Token → List Nat × List Token
  | [], found => ([], found)
  | n :: rest, found =>
    if column < n then closeIndents column rest (.blockEnd :: found) else (n :: rest, found)

/-- Closes the block collections that are indented deeper than a column. -/
def unwind (column : Int) (s : Scanner) : Scanner :=
  if 0 < s.depth then s
  else
    let (indents, found) := closeIndents column s.indents s.found
    { s with indents := indents, found := found }

/-- Drops the possible keys that are on a former line or too far back; a required one must not be
dropped. -/
def dropStaleKeys (s : Scanner) : Scan Scanner :=
  let isStale (k : PossibleKey) : Bool :=
    k.place.line != s.cursor.line || 1024 < s.cursor.index - k.place.index
  if s.possible.any fun k => isStale k && k.required then illFormed
  else .ok { s with possible := s.possible.filter fun k => !isStale k }

/-- Drops the possible key at this depth, which must not be a required one. -/
def dropKey (s : Scanner) : Scan Scanner :=
  if s.possible.any fun k => k.depth == s.depth && k.required then illFormed
  else .ok { s with possible := s.possible.filter fun k => k.depth != s.depth }

/-- Remembers that a key can begin here. -/
def saveKey (s : Scanner) : Scan Scanner :=
  if s.keyAllowed then do
    let required := s.depth == 0 && s.indent == s.cursor.column
    let s ← s.dropKey
    return { s with possible := ⟨s.depth, s.found.length, required, s.cursor⟩ :: s.possible }
  else .ok s

/-- Moves past blanks, comments and line breaks; a byte order mark can stand at the beginning. -/
def skipGap : Nat → Scanner → Scanner
  | 0, s => s
  | fuel + 1, s =>
    let c := if s.cursor.index = 0 ∧ s.cursor.rest.head? = some byteOrderMark then
      s.cursor.advance else s.cursor
    let c := c.skipWhile (· = char ' ')
    let c := if c.rest.head? = some (char '#') then c.skipWhile fun x => !isBreak x else c
    if c.atBreak then
      skipGap fuel
        { s with cursor := c.takeBreak.2, keyAllowed := s.keyAllowed || s.depth == 0 }
    else { s with cursor := c }

/-- A mark that begins or ends a document. -/
def documentMark (t : Token) (s : Scanner) : Scan Scanner := do
  let s ← (s.unwind (-1)).dropKey
  return { s.emit t with keyAllowed := false, cursor := s.cursor.advanceBy 3 }

/-- An opening bracket or brace. -/
def openFlow (t : Token) (s : Scanner) : Scan Scanner := do
  let s ← s.saveKey
  return { s.emit t with
    depth := s.depth + 1, keyAllowed := true, cursor := s.cursor.advance }

/-- A closing bracket or brace. -/
def closeFlow (t : Token) (s : Scanner) : Scan Scanner := do
  let s ← s.dropKey
  return { s.emit t with
    depth := s.depth - 1, keyAllowed := false, cursor := s.cursor.advance }

/-- A comma. -/
def flowEntry (s : Scanner) : Scan Scanner := do
  let s ← s.dropKey
  return { s.emit .flowEntry with keyAllowed := true, cursor := s.cursor.advance }

/-- A dash that begins a member of a block list. -/
def listEntry (s : Scanner) : Scan Scanner := do
  if s.depth == 0 && !s.keyAllowed then illFormed
  else do
    let s := if s.depth == 0 then
        match s.openIndent s.cursor.column with
        | (true, s) => s.emit .listStart
        | (false, s) => s
      else s
    let s ← s.dropKey
    return { s.emit .listEntry with keyAllowed := true, cursor := s.cursor.advance }

/-- Opens a block map here unless one is open. -/
def openMap (s : Scanner) : Scanner :=
  if s.depth == 0 then
    match s.openIndent s.cursor.column with
    | (true, s) => s.emit .mapStart
    | (false, s) => s
  else s

/-- A question mark that begins a key. -/
def explicitKey (s : Scanner) : Scan Scanner :=
  if s.depth == 0 && !s.keyAllowed then illFormed
  else do
    let s ← s.openMap.dropKey
    return { s.emit .key with keyAllowed := s.depth == 0, cursor := s.cursor.advance }

/-- A colon that begins a value. What was a possible key is one now. -/
def value (s : Scanner) : Scan Scanner :=
  match s.possible.find? fun k => k.depth == s.depth with
  | some k =>
    let s := { s with possible := s.possible.filter fun k => k.depth != s.depth }
    let s := if s.depth == 0 then
        match s.openIndent k.place.column with
        | (true, s) => s.insertAt k.position [.mapStart, .key]
        | (false, s) => s.insertAt k.position [.key]
      else s.insertAt k.position [.key]
    .ok { s.emit .value with keyAllowed := false, cursor := s.cursor.advance }
  | none =>
    if s.depth == 0 && !s.keyAllowed then illFormed
    else
      let s := s.openMap
      .ok { s.emit .value with keyAllowed := s.depth == 0, cursor := s.cursor.advance }

/-- A quoted scalar. -/
def quoted (double : Bool) (s : Scanner) : Scan Scanner := do
  let s ← s.saveKey
  let (t, c) ← quotedScalar double (s.cursor.rest.length + 1) s.cursor.advance
  return { s.emit (.quoted t) with keyAllowed := false, cursor := c }

/-- A plain scalar. -/
def plain (s : Scanner) : Scan Scanner := do
  let s ← s.saveKey
  let (t, c, ended) :=
    plainScalar (0 < s.depth) (s.indent + 1) (s.cursor.rest.length + 1) [] false s.cursor
  return { s.emit (.plain t) with keyAllowed := ended, cursor := c }

/-- Whether a plain scalar can begin with a character before the given rest. -/
def beginsPlain (inFlow : Bool) (x : CodePoint) (rest : Text) : Bool :=
  let special := "-?:,[]\x7b\x7d#&*!|>\x27\x22%@`".toText
  !(isGap x || special.contains x) ||
    (!endsWord rest && (x = char '-' || (!inFlow && (x = char '?' || x = char ':'))))

/-- Reads the next token; nothing is left when the second part is false. -/
def step (s : Scanner) : Scan (Scanner × Bool) := do
  let s ← (skipGap (s.cursor.rest.length + 1) s).dropStaleKeys
  let s := s.unwind s.cursor.column
  let c := s.cursor
  let inFlow := 0 < s.depth
  match c.rest with
  | [] =>
    let s ← (s.unwind (-1)).dropKey
    return (s, false)
  | x :: rest =>
    let go (next : Scan Scanner) : Scan (Scanner × Bool) := next.map fun s => (s, true)
    if c.column = 0 && c.atDocumentMark then
      go (s.documentMark (if x = char '-' then .documentStart else .documentEnd))
    else if x = char '[' then go (s.openFlow .flowListStart)
    else if x = char '\x7b' then go (s.openFlow .flowMapStart)
    else if x = char ']' then go (s.closeFlow .flowListEnd)
    else if x = char '\x7d' then go (s.closeFlow .flowMapEnd)
    else if x = char ',' then go s.flowEntry
    else if x = char '-' && endsWord rest then go s.listEntry
    else if x = char '?' && (inFlow || endsWord rest) then go s.explicitKey
    else if x = char ':' && (inFlow || endsWord rest) then go s.value
    else if x = char '\x27' then go (s.quoted false)
    else if x = char '\x22' then go (s.quoted true)
    else if beginsPlain inFlow x rest then go s.plain
    else illFormed

/-- The tokens that nothing read later can change: a key token may have to be put before the others,
unless its place is stale. -/
def settled (s : Scanner) : List Token :=
  let keys := match s.dropStaleKeys with
    | .ok s => s.possible
    | .error _ => s.possible
  s.found.reverse.take (keys.foldl (fun n k => min n k.position) s.found.length)

/-- Reads all tokens; `fuel` bounds their number. -/
def run : Nat → Scanner → List Token
  | 0, s => s.found.reverse
  | fuel + 1, s =>
    match s.step with
    | .ok (s, true) => run fuel s
    | .ok (s, false) => s.found.reverse
    | .error r => s.settled ++ [.broken r]

end Scanner

/-- The tokens of a document. -/
def tokens (s : Text) : List Token :=
  if s.all isAllowed then Scanner.run (s.length + 1) { cursor := ⟨s, 0, 0, 0⟩ }
  else [.broken .illFormed]

end WorkloadTrace.Yaml
