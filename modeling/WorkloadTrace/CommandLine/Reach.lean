import WorkloadTrace.CommandLine

/-!
# What a run can reach

The files that a run reads are known from its command line and its environment. The file that it
appends to is known once the settings file is.
-/

namespace WorkloadTrace.CommandLine

/-- The files that a run reads. -/
def filesRead (host : Host) (env : Settings.Environment) (words : List Text) : List Path :=
  match Invocation.parse env words with
  | .error _ => []
  | .ok i =>
    (i.settingsFile host env).toOption.toList ++
      match i.command with
      | .replay file => [Path.parse file]
      | .settings => []

/-- The file that a run appends to, given the files that it reads. -/
def fileWritten (host : Host) (env : Settings.Environment) (words : List Text)
    (files : FileTree) : Option Path :=
  match Invocation.parse env words with
  | .error _ => none
  | .ok i =>
    match i.command, settingsOf host env i files with
    | .replay _, .ok s => some s.trace.file
    | _, _ => none

end WorkloadTrace.CommandLine
