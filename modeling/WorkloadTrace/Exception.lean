import WorkloadTrace.Value

/-!
# Exceptions

What a program around the recorder, or the system below it, can raise: a class and the arguments
it was made with. Exceptions of the system carry a number that decides their class when none is
chosen. The text of an exception is made from its arguments.
-/

namespace WorkloadTrace

/-- The classes of exceptions of the system. -/
inductive SystemClass where
  /-- No closer class. -/
  | general
  /-- An operation would have to wait. -/
  | blocking
  /-- A child process failed. -/
  | childProcess
  /-- A connection failed. -/
  | connection
  /-- The reader of a pipe is gone. -/
  | brokenPipe
  /-- A connection was given up. -/
  | connectionAborted
  /-- A connection was refused. -/
  | connectionRefused
  /-- A connection was reset. -/
  | connectionReset
  /-- A file exists already. -/
  | fileExists
  /-- A file does not exist. -/
  | fileNotFound
  /-- A call was interrupted. -/
  | interrupted
  /-- A directory stands where a file is needed. -/
  | isDirectory
  /-- Something else stands where a directory is needed. -/
  | notDirectory
  /-- An operation is not permitted. -/
  | permission
  /-- There is no such process. -/
  | processLookup
  /-- An operation took too long. -/
  | timeout
deriving DecidableEq, Repr

namespace SystemClass

/-- All classes of exceptions of the system. -/
def all : List SystemClass :=
  [.general, .blocking, .childProcess, .connection, .brokenPipe, .connectionAborted,
    .connectionRefused, .connectionReset, .fileExists, .fileNotFound, .interrupted, .isDirectory,
    .notDirectory, .permission, .processLookup, .timeout]

/-- The name of a class. -/
def name : SystemClass → Text
  | .general => "OSError".toText
  | .blocking => "BlockingIOError".toText
  | .childProcess => "ChildProcessError".toText
  | .connection => "ConnectionError".toText
  | .brokenPipe => "BrokenPipeError".toText
  | .connectionAborted => "ConnectionAbortedError".toText
  | .connectionRefused => "ConnectionRefusedError".toText
  | .connectionReset => "ConnectionResetError".toText
  | .fileExists => "FileExistsError".toText
  | .fileNotFound => "FileNotFoundError".toText
  | .interrupted => "InterruptedError".toText
  | .isDirectory => "IsADirectoryError".toText
  | .notDirectory => "NotADirectoryError".toText
  | .permission => "PermissionError".toText
  | .processLookup => "ProcessLookupError".toText
  | .timeout => "TimeoutError".toText

/-- Other names of the general class. -/
def generalNames : List Text := ["IOError".toText, "EnvironmentError".toText]

/-- The class with a name. -/
def parse? (s : Text) : Option SystemClass :=
  if generalNames.contains s then some .general else all.find? fun c => c.name = s

/-- The class that an error number decides. -/
def ofNumber (n : Int) : SystemClass :=
  if n = 11 ∨ n = 114 ∨ n = 115 then .blocking
  else if n = 32 ∨ n = 108 then .brokenPipe
  else if n = 10 then .childProcess
  else if n = 103 then .connectionAborted
  else if n = 111 then .connectionRefused
  else if n = 104 then .connectionReset
  else if n = 17 then .fileExists
  else if n = 2 then .fileNotFound
  else if n = 21 then .isDirectory
  else if n = 20 then .notDirectory
  else if n = 4 then .interrupted
  else if n = 1 ∨ n = 13 then .permission
  else if n = 3 then .processLookup
  else if n = 110 then .timeout
  else .general

end SystemClass

namespace Exception

/-- Several arguments between parentheses. -/
def tupleText (args : List Value) : Text :=
  char '(' :: Text.joinWith ", ".toText (Value.literals args) ++ [char ')']

/-- The usual text: nothing, the only argument, or all arguments between parentheses. -/
def argsText : List Value → Text
  | [] => []
  | [a] => a.display
  | args => tupleText args

/-- What is raised instead of the usual text. Several arguments are shown like the members of a
list. -/
def argsTrouble? (levels : Nat) : List Value → Option Trouble
  | [] => none
  | [a] => a.trouble? levels
  | args => Value.literalTrouble? levels (.list args)

end Exception

/-- An exception of the system. -/
structure SystemError where
  /-- Its class. -/
  kind : SystemClass
  /-- The arguments: an error number and its meaning, and the files that it is about. -/
  args : List Value
deriving Repr

namespace SystemError

/-- An exception of a class; the general class gives way to the one that the number decides. -/
def make (kind : SystemClass) (args : List Value) : SystemError :=
  match kind, args with
  | .general, number :: meaning :: rest =>
    if 3 < rest.length then ⟨.general, args⟩
    else
      match number.asInt? with
      | some n => ⟨SystemClass.ofNumber n, number :: meaning :: rest⟩
      | none => ⟨.general, args⟩
  | kind, args => ⟨kind, args⟩

/-- The exception that the system raises for an error number about a file. -/
def ofNumber (number : Int) (meaning file : Text) : SystemError :=
  make .general [.int number, .text meaning, .text file]

/-- The files that a text names. -/
def shownFiles (kind : SystemClass) : List Value → List Value
  | [] => []
  | .null :: _ => []
  | file :: rest =>
    if kind = .blocking ∧ file.asInt?.isSome then []
    else
      match rest with
      | _ :: .null :: _ => [file]
      | _ :: other :: _ => [file, other]
      | _ => [file]

/-- The part of the text that names the files. -/
def fileText (kind : SystemClass) (rest : List Value) : Text :=
  match shownFiles kind rest with
  | [] => []
  | files => ": ".toText ++ Text.joinWith " -> ".toText (Value.literals files)

/-- The text of an exception of the system. -/
def text (e : SystemError) : Text :=
  match e.args with
  | number :: meaning :: rest =>
    if 3 < rest.length then Exception.argsText e.args
    else "[Errno ".toText ++ number.display ++ "] ".toText ++ meaning.display ++
      fileText e.kind rest
  | args => Exception.argsText args

/-- What is raised instead of the text of an exception of the system. -/
def trouble? (levels : Nat) (e : SystemError) : Option Trouble :=
  match e.args with
  | number :: meaning :: rest =>
    if 3 < rest.length then Exception.argsTrouble? levels e.args
    else (number.trouble? levels).or ((meaning.trouble? levels).or
      (Value.literalsTrouble? levels (shownFiles e.kind rest)))
  | args => Exception.argsTrouble? levels args

end SystemError

/-- The classes of exceptions that an ill-chosen value causes. -/
inductive ValueClass where
  /-- No closer class. -/
  | general
  /-- Characters or bytes that cannot be converted. -/
  | unicode
  /-- Bytes that cannot be read. -/
  | unicodeDecode
  /-- Characters that cannot be written. -/
  | unicodeEncode
  /-- Characters that cannot be replaced. -/
  | unicodeTranslate
deriving DecidableEq, Repr

namespace ValueClass

/-- All classes of exceptions that an ill-chosen value causes. -/
def all : List ValueClass :=
  [.general, .unicode, .unicodeDecode, .unicodeEncode, .unicodeTranslate]

/-- The name of a class. -/
def name : ValueClass → Text
  | .general => "ValueError".toText
  | .unicode => "UnicodeError".toText
  | .unicodeDecode => "UnicodeDecodeError".toText
  | .unicodeEncode => "UnicodeEncodeError".toText
  | .unicodeTranslate => "UnicodeTranslateError".toText

/-- The class with a name. -/
def parse? (s : Text) : Option ValueClass := all.find? fun c => c.name = s

end ValueClass

/-- An exception. -/
inductive Exception where
  /-- One of the system. -/
  | system (error : SystemError)
  /-- One that an ill-chosen value causes. -/
  | value (kind : ValueClass) (args : List Value)
  /-- Any other, with the name of its class. -/
  | other (name : Text) (args : List Value)
deriving Repr

namespace Exception

/-- The exception of a class given by name. -/
def make (name : Text) (args : List Value) : Exception :=
  match SystemClass.parse? name, ValueClass.parse? name with
  | some kind, _ => .system (SystemError.make kind args)
  | none, some kind => .value kind args
  | none, none => .other name args

/-- The name of the class. -/
def className : Exception → Text
  | .system e => e.kind.name
  | .value kind _ => kind.name
  | .other name _ => name

/-- What cannot be done with bytes, and where. One byte is shown; at a place before the first byte
it is what the memory has there. -/
def bytesText (memory : Int → UInt8) (bs : List UInt8) (start stop : Int) : Text :=
  let many := "can't decode bytes".toText
  let one (b : UInt8) : Text :=
    Text.placeText ("can't decode byte 0x".toText ++ Text.hexDigits 2 b.toNat) many start stop
      (stop == start + 1)
  if start < 0 then one (memory start)
  else
    match bs[start.toNat]? with
    | some b => one b
    | none => Text.placeText [] many start stop false

/-- The text of a value that is one. -/
def text? : Value → Option Text
  | .text s => some s
  | _ => none

/-- The text of an exception about a conversion, if its arguments are of the proper kinds. -/
def conversionText? (memory : Int → UInt8) : ValueClass → List Value → Option Text
  | .unicodeDecode, [encoding, .bytes bs, start, stop, reason] => do
    let what := bytesText memory bs (← start.asInt?) (← stop.asInt?)
    return Text.codecText (← text? encoding) ++ what ++ ": ".toText ++ (← text? reason)
  | .unicodeEncode, [encoding, s, start, stop, reason] => do
    let what := Text.charsText "encode".toText (← text? s) (← start.asInt?) (← stop.asInt?)
    return Text.codecText (← text? encoding) ++ what ++ ": ".toText ++ (← text? reason)
  | .unicodeTranslate, [s, start, stop, reason] => do
    let what := Text.charsText "translate".toText (← text? s) (← start.asInt?) (← stop.asInt?)
    return what ++ ": ".toText ++ (← text? reason)
  | _, _ => none

/-- Whether one place before the first character is to be shown. -/
def isMisplaced (start stop : Value) : Bool :=
  match start.asInt?, stop.asInt? with
  | some start, some stop => start < 0 && stop == start + 1
  | _, _ => false

/-- What is raised instead of the text of an exception about a conversion: a character before the
first one cannot be shown. -/
def conversionTrouble? : ValueClass → List Value → Option Trouble
  | .unicodeEncode, [_, _, start, stop, _] | .unicodeTranslate, [_, start, stop, _] =>
    if isMisplaced start stop then some .misplacedConversion else none
  | _, _ => none

/-- The class of several exceptions that are raised together. -/
def groupClass : Text := "ExceptionGroup".toText

/-- The text of exceptions that are raised together: a message and their number. -/
def groupText? : List Value → Option Text
  | [message, .list members] => do
    let count := Decimal.ofNat members.length
    let noun := if members.length = 1 then " sub-exception".toText else " sub-exceptions".toText
    return (← text? message) ++ " (".toText ++ count ++ noun ++ [char ')']
  | _ => none

/-- The class whose text shows its only argument as a literal. -/
def keyClass : Text := "KeyError".toText

/-- The classes whose text is that of their first argument. -/
def sourceClasses : List Text :=
  ["SyntaxError".toText, "IndentationError".toText, "TabError".toText]

/-- The line number in a message; one beyond the integers of 64 bits shows as minus one. -/
def lineNumber (n : Int) : Text :=
  Decimal.ofInt (if -9223372036854775808 ≤ n ∧ n ≤ 9223372036854775807 then n else -1)

/-- The place in a source that the details of an exception name: its first two members are the
file and the line, of which either can be absent. -/
def sourcePlace (details : List Value) : Text :=
  let file? := do (Text.splitOn (char '/') (← text? (← details.head?))).getLast?
  let line? := match details[1]? with
    | some (.int n) => some ("line ".toText ++ lineNumber n)
    | _ => none
  match file?.toList ++ line?.toList with
  | [] => []
  | parts => " (".toText ++ Text.joinWith ", ".toText parts ++ [char ')']

/-- The text of an exception about a source: its first argument, and the place that the second of
two arguments names. -/
def sourceText : List Value → Text
  | [] => Value.null.display
  | [a, details] => a.display ++ sourcePlace (details.members?.getD [])
  | a :: _ => a.display

/-- The text of an exception. -/
def text (e : Exception) (memory : Int → UInt8 := fun _ => 0) : Text :=
  match e with
  | .system e => e.text
  | .value kind args => (conversionText? memory kind args).getD (argsText args)
  | .other name args =>
    if sourceClasses.contains name then sourceText args
    else if name = groupClass then (groupText? args).getD (argsText args)
    else
      match args with
      | [a] => if name = keyClass then a.literal else a.display
      | args => argsText args

/-- What is raised instead of the text of an exception. -/
def trouble? (levels : Nat) : Exception → Option Trouble
  | .system e => e.trouble? levels
  | .value kind args =>
    if (conversionText? (fun _ => 0) kind args).isSome then conversionTrouble? kind args
    else argsTrouble? levels args
  | .other name args =>
    if sourceClasses.contains name then argsTrouble? levels (args.take 1)
    else if name = groupClass ∧ (groupText? args).isSome then none
    else
      match args with
      | [a] => if name = keyClass then a.literalTrouble? levels else a.trouble? levels
      | args => argsTrouble? levels args

/-- What log records show of an exception beside its class. -/
def detail (levels : Nat) (e : Exception) : Text :=
  if (e.trouble? levels).isSome then "<exception str() failed>".toText
  else
    match e with
    | .other name args =>
      if sourceClasses.contains name ∧ (args.isEmpty ∨ e.text.isEmpty) then
        "<no detail available>".toText
      else e.text
    | e => e.text

/-- How log records show an exception: its class, and its text unless that is empty. -/
def report (levels : Nat) (e : Exception) : Text :=
  let detail := e.detail levels
  if detail.isEmpty then e.className else e.className ++ ": ".toText ++ detail

end Exception

end WorkloadTrace
