import WorkloadTrace.Settings.Document
import WorkloadTrace.Settings.Environment
import WorkloadTrace.Settings.Property
import WorkloadTrace.Text.Lines

/-!
# Resolving settings

The settings of a run come from parameters, then the environment, then a settings file, then
defaults: each entry has the value that the first of these sources gives it.
-/

namespace WorkloadTrace.Settings

/-- The layer of the text of a settings file. -/
def fileLayer (s : Text) : Except LoadError Layer :=
  match Yaml.read (Text.unifyBreaks s) with
  | .error .illFormed => .error .illFormedFile
  | .error (.unfit m) => .error (.unfitValue m)
  | .error (.tooGreat m) => .error (.tooGreat m)
  | .error .tooDeep => .error .deepFile
  | .ok d => Layer.ofDatum d

/-- The layer of the bytes of a settings file, if there is one. -/
def bytesLayer : Option (List UInt8) → Except LoadError Layer
  | none => .ok []
  | some bs =>
    match Text.ofUtf8? bs with
    | some s => fileLayer s
    | none => .error .illFormedBytes

/-- The settings that three layers give. -/
def ofLayers (params environment file : Layer) : Except LoadError Settings :=
  match check ((params.above environment).above file) with
  | .valid s => .ok s
  | .invalid first others => .error (.invalid first others)

/-- The settings that the sources give. -/
def resolve (params : Fields Value) (environment : Environment) (file : Option (List UInt8)) :
    Except LoadError Settings := do
  let file ← bytesLayer file
  let environment ← environment.layer
  ofLayers (Layer.ofFields params) environment file

end WorkloadTrace.Settings
