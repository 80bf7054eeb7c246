import WorkloadTrace.CommandLine.Usage
import WorkloadTrace.Fields
import WorkloadTrace.Path

/-!
# Options of the command line

Options stand in front of the command. A long option has its value after an equals sign or as the
next word, a short one in the same word or as the next word. A later option overrides an earlier
one, except that properties add up.
-/

namespace WorkloadTrace.CommandLine

/-- The options as they are given. -/
structure Options where
  /-- The settings file. -/
  config : Option Text := none
  /-- The trace file. -/
  traceFile : Option Text := none
  /-- Whether the contents of records are hidden. -/
  mockValues : Option Bool := none
  /-- The least severity of the log records that are written. -/
  logLevel : Option Text := none
  /-- Whether log records are JSON. -/
  jsonLogs : Option Bool := none
  /-- Whether answers are JSON. -/
  json : Bool := false
  /-- The properties, in order. -/
  properties : List Text := []
  /-- Whether help is asked for. -/
  help : Bool := false
deriving DecidableEq, Repr

/-- What an option does to the options given before it. -/
inductive Effect where
  /-- It stands alone. -/
  | flag (apply : Options → Options)
  /-- It takes a value. -/
  | value (apply : Text → Options → Options)

/-- The option that asks for help. -/
def helpName : Text := "--help".toText

/-- The word after which no word is an option. -/
def endOfOptions : Text := "--".toText

/-- The effect of adding a property. -/
def addProperty : Effect := .value fun v o => { o with properties := o.properties ++ [v] }

/-- The effects of the options. -/
def effects : Fields Effect :=
  [("--config".toText, .value fun v o => { o with config := some v }),
    ("--trace-file".toText, .value fun v o => { o with traceFile := some v }),
    ("--mock-values".toText, .flag fun o => { o with mockValues := some true }),
    ("--no-mock-values".toText, .flag fun o => { o with mockValues := some false }),
    ("--log-level".toText, .value fun v o => { o with logLevel := some v }),
    ("--json-logs".toText, .flag fun o => { o with jsonLogs := some true }),
    ("--plain-logs".toText, .flag fun o => { o with jsonLogs := some false }),
    ("--json".toText, .flag fun o => { o with json := true }),
    ("--property".toText, addProperty),
    ("-p".toText, addProperty),
    (helpName, .flag fun o => { o with help := true })]

/-- Whether a word is an option: a dash with something after it. -/
def isOption : Text → Bool
  | char '-' :: _ :: _ => true
  | _ => false

/-- The name of the option that a word gives, and the value written in the same word. A name with
two dashes ends at an equals sign, a name with one dash is a single character. -/
def splitWord : Text → Text × Option Text
  | char '-' :: char '-' :: rest =>
    match Text.cutAt? (char '=') rest with
    | some (name, v) => (char '-' :: char '-' :: name, some v)
    | none => (char '-' :: char '-' :: rest, none)
  | char '-' :: c :: rest => ([char '-', c], if rest.isEmpty then none else some rest)
  | w => (w, none)

namespace Options

/-- Reads the options in front of the first word that is none, and answers what follows them. -/
def read : Options → List Text → Except UsageError (Options × List Text)
  | o, [] => .ok (o, [])
  | o, w :: rest =>
    if w = endOfOptions then .ok (o, rest)
    else if isOption w then
      match Fields.get? (splitWord w).1 effects, (splitWord w).2 with
      | none, _ => .error (.unknownOption (splitWord w).1)
      | some (.flag apply), none => read (apply o) rest
      | some (.flag _), some _ => .error (.unexpectedValue (splitWord w).1)
      | some (.value apply), some v => read (apply v o) rest
      | some (.value apply), none =>
        match rest with
        | [] => .error (.missingValue (splitWord w).1)
        | v :: rest => read (apply v o) rest
    else .ok (o, w :: rest)

end Options

/-- The words after a command: whether help is asked for, and the words that are no options. -/
def readArguments : List Text → Except UsageError (Bool × List Text)
  | [] => .ok (false, [])
  | w :: rest =>
    if w = endOfOptions then .ok (false, rest)
    else if isOption w then
      match splitWord w with
      | (name, none) =>
        if name = helpName then (readArguments rest).map fun r => (true, r.2)
        else .error (.unknownOption name)
      | (name, some _) =>
        if name = helpName then .error (.unexpectedValue name) else .error (.unknownOption name)
    else (readArguments rest).map fun r => (r.1, w :: r.2)

/-- The name and the value of a property; the name is stripped of blanks and must not be empty. -/
def property? (item : Text) : Option (Text × Text) :=
  match Text.cutAt? (char '=') item with
  | none => none
  | some (name, v) => if (Text.strip name).isEmpty then none else some (Text.strip name, v)

/-- The properties that are given. -/
def readProperties : List Text → Except UsageError (List (Text × Text))
  | [] => .ok []
  | item :: rest =>
    match property? item with
    | none => .error (.badProperty item)
    | some p => (readProperties rest).map (p :: ·)

end WorkloadTrace.CommandLine
