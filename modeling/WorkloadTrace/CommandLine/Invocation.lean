import WorkloadTrace.CommandLine.Options
import WorkloadTrace.Settings.Environment
import WorkloadTrace.Settings.Property

/-!
# Invocations

A command line means a command together with the options in front of it. Errors count in the
order in which the words are read: options first, then the command, then the properties, then the
words after the command.
-/

namespace WorkloadTrace.CommandLine

/-- What is to be done. -/
inductive Command where
  /-- Trace the operations recorded in a file. -/
  | replay (file : Text)
  /-- Print the settings. -/
  | settings
deriving DecidableEq, Repr

/-- A command with its options. -/
structure Invocation where
  /-- The options. -/
  options : Options
  /-- The properties, in order. -/
  properties : List (Text × Text)
  /-- The settings file, if one is named. -/
  config : Option Path
  /-- The command. -/
  command : Command
deriving DecidableEq, Repr

/-- Why a command line means no invocation. -/
inductive Refusal where
  /-- It asks for help. -/
  | help
  /-- It is not well formed. -/
  | usage (e : UsageError)
  /-- This was raised, for a path that no system accepts. -/
  | raised (t : Trouble)
deriving DecidableEq, Repr

/-- The variable that names the settings file when no option does. -/
def configVariable : Text := "TRACER_CONFIG".toText

/-- The settings file that is named; an empty variable names none. -/
def configName (o : Options) (env : Settings.Environment) : Option Text :=
  match o.config with
  | some name => some name
  | none => (env.lookup configVariable).filter fun name => !name.isEmpty

/-- Refuses the text of a path that no system accepts. -/
def acceptPath (name : Text) : Except Refusal Unit :=
  match Path.trouble? name with
  | some t => .error (.raised t)
  | none => .ok ()

/-- Refuses the optional text of a path that no system accepts. -/
def acceptPath? : Option Text → Except Refusal Unit
  | none => .ok ()
  | some name => acceptPath name

/-- A usage error as a refusal. -/
def refuse {α : Type} : Except UsageError α → Except Refusal α
  | .ok a => .ok a
  | .error e => .error (.usage e)

/-- Whether a word names a command; true for the one that takes a file. -/
def takesFile? (name : Text) : Except Refusal Bool :=
  if name = "replay".toText then .ok true
  else if name = "settings".toText then .ok false
  else .error (.usage (.unknownCommand name))

/-- The command for the words after its name. -/
def commandOf (takesFile : Bool) (words : List Text) : Except Refusal Command :=
  match takesFile, words with
  | false, [] => .ok .settings
  | true, [] => .error (.usage .missingArgument)
  | false, w :: rest => .error (.usage (.extraArguments (w :: rest)))
  | true, file :: rest => do
    acceptPath file
    if rest.isEmpty then return .replay file else throw (.usage (.extraArguments rest))

/-- The invocation that words mean in an environment. -/
def Invocation.parse (env : Settings.Environment) (words : List Text) :
    Except Refusal Invocation := do
  let (options, rest) ← refuse (Options.read {} words)
  if options.help then throw .help
  acceptPath? (configName options env)
  acceptPath? options.traceFile
  match rest with
  | [] => throw (.usage .missingCommand)
  | name :: words =>
    let takesFile ← takesFile? name
    let properties ← refuse (readProperties options.properties)
    let (help, words) ← refuse (readArguments words)
    if help then throw .help
    let command ← commandOf takesFile words
    return ⟨options, properties, (configName options env).map Path.parse, command⟩

/-- Sets an entry of a section when there is a value for it. -/
def setGiven (name entry : Text) (v : Option Value) (params : Settings.Params) :
    Settings.Params :=
  match v with
  | none => params
  | some v => params.setEntry name entry v

/-- The parameters that an invocation gives: its options over its properties. -/
def Invocation.params (i : Invocation) : Settings.Params :=
  let properties := i.properties.map fun p => (p.1, Value.text p.2)
  let o := i.options
  setGiven Settings.loggingName "json_output".toText (o.jsonLogs.map .bool)
    (setGiven Settings.loggingName "level".toText (o.logLevel.map fun s => .text (Text.upper s))
      (setGiven Settings.traceName "mock_values".toText (o.mockValues.map .bool)
        (setGiven Settings.traceName "file".toText
          (o.traceFile.map fun s => .text (Path.parse s).text)
          (.ofProperties (Fields.ofPairs properties)))))

end WorkloadTrace.CommandLine
