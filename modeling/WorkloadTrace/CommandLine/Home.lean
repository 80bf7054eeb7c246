import WorkloadTrace.CommandLine.Invocation

/-!
# The host of a run

The first name of the path of a settings file can stand for a home directory: a tilde alone for that
of the user, and a tilde with the name of an account for that of the account. An invocation that
names no settings file has the one in the home directory of the user.
-/

namespace WorkloadTrace.CommandLine

/-- What the system tells a program besides its environment. -/
structure Host where
  /-- The home directories of the accounts. -/
  homes : Fields Text := []
  /-- The home directory of the account that the program runs for, if it has one. -/
  home : Option Text := none
  /-- Whether text that cannot be encoded cannot be printed as an answer; otherwise the bytes that
  its surrogates stand for are printed. -/
  strictOutput : Bool := true
deriving DecidableEq, Repr

/-- The variable that names the home directory of the user. -/
def homeVariable : Text := "HOME".toText

/-- The home directory that is meant by what follows a tilde: the variable counts more than the
account. -/
def Host.homeOf? (host : Host) (env : Settings.Environment) (account : Text) : Option Text :=
  if account.isEmpty then (env.lookup homeVariable).or host.home
  else Fields.get? account host.homes

/-- The path of a home directory; it must not begin with a tilde itself. Slashes at the end do not
count, and nothing means the root. -/
def homePath (home : Text) : Except Settings.LoadError Path :=
  let name := (home.reverse.dropWhile (· = char '/')).reverse
  if name.head? = some (char '~') then .error .noHome
  else .ok (Path.parse (if name.isEmpty then [char '/'] else name))

/-- A path with the home directory that its first name stands for. -/
def Host.expandHome (host : Host) (env : Settings.Environment) (p : Path) :
    Except Settings.LoadError Path :=
  match p.root, p.names with
  | [], (char '~' :: account) :: rest =>
    match host.homeOf? env account with
    | none => .error .noHome
    | some home => do
      let h ← homePath home
      return { h with names := h.names ++ rest }
  | _, _ => .ok p

/-- The path of the settings file of a user, with a tilde for the home directory. -/
def userFile : Path :=
  ⟨[], ["~".toText, ".config".toText, "ycsb-tracer".toText, "tracer.yaml".toText]⟩

/-- The settings file of invocations that name none. -/
def Host.defaultFile (host : Host) (env : Settings.Environment) : Except Settings.LoadError Path :=
  host.expandHome env userFile

/-- The settings file of an invocation. The file in the home directory has a path before it is known
whether another one is named, and the path that counts is expanded when the file is read. -/
def Invocation.settingsFile (host : Host) (env : Settings.Environment) (i : Invocation) :
    Except Settings.LoadError Path := do
  let file ← host.defaultFile env
  host.expandHome env (i.config.getD file)

end WorkloadTrace.CommandLine
