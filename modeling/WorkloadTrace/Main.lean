import WorkloadTrace.CommandLine.Reach

/-!
# The program

The files that a run can reach are read into a tree, the run is computed on the tree, and what it
appended to the trace file is appended to the real one.
-/

namespace WorkloadTrace.Program

/-- How the program is used. -/
def helpText : String :=
  "usage: workload-trace [options] replay OPS_FILE\n       workload-trace [options] settings\n"

/-- The string of a text for the screen; surrogates are written as their codes. -/
def stringOf (s : Text) : String :=
  String.ofList ((s.flatMap CommandLine.reportedChar).filterMap fun
    | .char c => some c
    | .surrogate _ => none)

/-- The name of a place for the system, if it is UTF-8. -/
def systemName? (place : Location) : Option String :=
  (Text.ofUtf8? (0x2f :: [0x2f].intercalate place)).map stringOf

/-- The text of bytes. -/
def textOf (bytes : ByteArray) : Text := Text.ofSystemBytes bytes.toList

/-- The variables of the environment. -/
def environment : IO Settings.Environment := do
  let bytes ← IO.FS.readBinFile "/proc/self/environ"
  return (Text.splitOn Path.nul (textOf bytes)).filterMap (Text.cutAt? (char '='))

/-- The lines of a file of the system, cut at colons; none if it cannot be read. -/
def systemEntries (path : String) : IO (List (List Text)) := do
  match ← (IO.FS.readBinFile path).toBaseIO with
  | .ok bytes => return (Text.splitOn (char '\n') (textOf bytes)).map (Text.splitOn (char ':'))
  | .error _ => return []

/-- The number of the account that the program runs for. -/
def accountNumber : IO Text := do
  let status ← systemEntries "/proc/self/status"
  let numbers := (status.find? fun line => line.head? = some "Uid".toText).bind (·[1]?)
  return ((Text.splitOn (char '\t') (numbers.getD [])).filter fun n => !n.isEmpty).headD []

/-- What the system tells about home directories. -/
def host : IO CommandLine.Host := do
  let accounts ← systemEntries "/etc/passwd"
  let number ← accountNumber
  let home? (account : List Text) : Option Text := account[5]?
  return {
    homes := accounts.filterMap fun account =>
      account.head?.bind fun name => (home? account).map (name, ·)
    home := (accounts.find? fun account => account[2]? = some number).bind home? }

/-- What stands at a place. -/
def probe (place : Location) : IO (Option Node) := do
  let some name := systemName? place | return none
  match ← (IO.FS.readBinFile name).toBaseIO with
  | .ok bytes => return some (.file bytes.toList)
  | .error (.noFileOrDirectory ..) => return none
  | .error _ => return some .directory

/-- Reads what stands on the way along names into a tree. -/
def survey (place : Location) : List Text → FileTree → IO FileTree
  | [], files => return files
  | name :: rest, files => do
    let next := if name = Path.above then place.dropLast else place ++ [Text.systemBytes name]
    match ← if next.isEmpty then pure (some Node.directory) else probe next with
    | none => return files
    | some node => survey next rest (files.plant next node)

/-- Reads what a path leads to into a tree. -/
def surveyPath (files : FileTree) (path : Path) : IO FileTree :=
  survey (files.origin path) path.names files

/-- Makes the directories of a place and appends bytes to the file there. -/
def appendTo (place : Location) (bytes : List UInt8) : IO Unit := do
  match systemName? place.dropLast, systemName? place with
  | some outer, some name =>
    IO.FS.createDirAll outer
    let h ← IO.FS.Handle.mk name .append
    h.write ⟨bytes.toArray⟩
  | _, _ => throw (IO.userError "the name of the trace file is not UTF-8")

/-- Appends to the real file at a path what a run appended to the one in the tree. -/
def carryOut (before after : FileTree) (path : Path) : IO Unit := do
  match after.locate path, after.content? path with
  | .ok place, some content =>
    let kept := (before.content? path).getD []
    if before.content? path ≠ some content then appendTo place (content.drop kept.length)
  | _, _ => pure ()

/-- A name for a session. -/
def sessionName : IO Text := do
  let bytes ← IO.getRandomBytes 16
  return bytes.toList.flatMap fun b => Text.hexDigits 2 b.toNat

/-- Prints what a run reports besides its answer. -/
def reportEnding (stderr : IO.FS.Stream) : CommandLine.Ending → IO Unit
  | .exit _ => pure ()
  | .help => IO.print helpText
  | .usage e => stderr.putStrLn (stringOf e.message)
  | .failed f => stderr.putStrLn (stringOf f.message)

/-- Runs the command line. -/
def runWith (args : List String) : IO UInt32 := do
  let words := args.map String.toText
  let env ← environment
  let host ← host
  let here ← IO.FS.realPath "."
  let current := (Path.parse here.toString.toText).names.map Text.systemBytes
  let start : FileTree := FileTree.plant current .directory { current := current }
  let readable ← (CommandLine.filesRead host env words).foldlM surveyPath start
  let trace := CommandLine.fileWritten host env words readable
  let files ← trace.toList.foldlM surveyPath readable
  let outcome := CommandLine.run host (← sessionName) env words files
  trace.forM (carryOut files outcome.files)
  let stderr ← IO.getStderr
  let time := Decimal.ofNat (← IO.monoMsNow)
  stderr.putStr (stringOf (outcome.journal.written time))
  IO.print (stringOf outcome.output)
  stderr.putStr (stringOf outcome.problems)
  reportEnding stderr outcome.ending
  return UInt32.ofNat outcome.ending.code

end WorkloadTrace.Program

/-- Runs the command line and ends with its exit code. -/
def main (args : List String) : IO UInt32 := WorkloadTrace.Program.runWith args
