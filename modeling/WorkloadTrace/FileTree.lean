import WorkloadTrace.Sink.File

/-!
# A tree of files

Directories and files below a top directory, one of which is the current one. Paths are followed
name by name: every name but the last has to be a directory, and two points lead to the directory
above. The operations answer with the exceptions that a system raises.
-/

namespace WorkloadTrace

/-- What stands at a place of the tree. -/
inductive Node where
  /-- A directory. -/
  | directory
  /-- A file with its bytes. -/
  | file (content : List UInt8)
deriving DecidableEq, Repr

/-- A place of the tree: the names from the top, as the system has them. -/
abbrev Location := List (List UInt8)

/-- A tree of files. -/
structure FileTree where
  /-- What stands at the places below the top that are taken. -/
  nodes : List (Location × Node) := []
  /-- The current directory. -/
  current : Location := []
deriving DecidableEq, Repr

/-- Why the system refuses an operation on files. -/
inductive FileError where
  /-- There is nothing at the place. -/
  | notFound
  /-- There is something at the place already. -/
  | exists
  /-- A name that is followed by another is not a directory. -/
  | notDirectory
  /-- The place is a directory. -/
  | isDirectory
  /-- A name or the whole path is too long. -/
  | nameTooLong
deriving DecidableEq, Repr

namespace FileError

/-- The number of a refusal. -/
def number : FileError → Int
  | .notFound => 2
  | .exists => 17
  | .notDirectory => 20
  | .isDirectory => 21
  | .nameTooLong => 36

/-- The meaning of a refusal. -/
def meaning : FileError → Text
  | .notFound => "No such file or directory".toText
  | .exists => "File exists".toText
  | .notDirectory => "Not a directory".toText
  | .isDirectory => "Is a directory".toText
  | .nameTooLong => "File name too long".toText

/-- The exception for a refusal at a path. -/
def toSystemError (e : FileError) (path : Path) : SystemError :=
  .ofNumber e.number e.meaning path.text

end FileError

namespace FileTree

/-- What stands at a place; the top is a directory. -/
def node? (t : FileTree) (place : Location) : Option Node :=
  if place.isEmpty then some .directory else t.nodes.lookup place

/-- Puts a node at a place, instead of what stood there. -/
def put (place : Location) (node : Node) (t : FileTree) : FileTree :=
  { t with nodes := (place, node) :: t.nodes.filter fun e => e.1 != place }

/-- The most bytes of a name. -/
def maxName : Nat := 255

/-- The first number of bytes that a path cannot have. -/
def pathBound : Nat := 4096

/-- Goes to a name from a directory; the name can be free. -/
def enter (t : FileTree) (place : Location) (name : Text) : Except FileError Location :=
  match t.node? place with
  | none => .error .notFound
  | some (.file _) => .error .notDirectory
  | some .directory =>
    if name = Path.here then .ok place
    else if name = Path.above then .ok place.dropLast
    else if maxName < (Text.systemBytes name).length then .error .nameTooLong
    else .ok (place ++ [Text.systemBytes name])

/-- Follows names from a place. -/
def follow (t : FileTree) (place : Location) : List Text → Except FileError Location
  | [] => .ok place
  | name :: rest => do follow t (← enter t place name) rest

/-- Where a path begins. -/
def origin (t : FileTree) (path : Path) : Location := if path.root.isEmpty then t.current else []

/-- The place that a path leads to; the last name can be free. -/
def locate (t : FileTree) (path : Path) : Except FileError Location :=
  if pathBound ≤ (Text.systemBytes path.text).length then .error .nameTooLong
  else follow t (t.origin path) path.names

/-- What a path leads to. -/
def stat (t : FileTree) (path : Path) : Except FileError Node := do
  match t.node? (← t.locate path) with
  | some node => return node
  | none => throw .notFound

/-- The names in the text of a path as it is written: single points count, and a slash at the end
is one more of them. -/
def writtenNames (s : Text) : List Text :=
  let names := (Text.splitOn (char '/') s).filter fun n => !n.isEmpty
  if s.getLast? = some (char '/') then names ++ [Path.here] else names

/-- What the text of a path leads to, as it is written. An empty text leads nowhere. -/
def statWritten (t : FileTree) (s : Text) : Except FileError Node := do
  if s.isEmpty then throw .notFound
  if pathBound ≤ (Text.systemBytes s).length then throw .nameTooLong
  let origin := if Text.startsWith [char '/'] s then [] else t.current
  match t.node? (← t.follow origin (writtenNames s)) with
  | some node => return node
  | none => throw .notFound

/-- Whether a path leads to a directory. -/
def isDirectory (t : FileTree) (path : Path) : Bool :=
  match t.stat path with
  | .ok .directory => true
  | _ => false

/-- The content of the file that a path leads to; a path that no system accepts leads to none. -/
def content? (t : FileTree) (path : Path) : Option (List UInt8) :=
  match Path.trouble? path.text, t.stat path with
  | none, .ok (.file bs) => some bs
  | _, _ => none

/-- Makes one directory. -/
def makeDirectory (t : FileTree) (path : Path) : Except FileError FileTree := do
  let place ← t.locate path
  match t.node? place with
  | some _ => throw .exists
  | none => return t.put place .directory

/-- Makes one directory unless it is there already. -/
def ensureDirectory (t : FileTree) (path : Path) : FileTree × Option SystemError :=
  match t.makeDirectory path with
  | .ok t => (t, none)
  | .error e => (t, if t.isDirectory path then none else some (e.toSystemError path))

/-- Makes a directory and those it lies in, as far as they are not there already. The names are
given from the last to the first. -/
def ensureDirectories (root : Text) : List Text → FileTree → FileTree × Option SystemError
  | [], t => t.ensureDirectory ⟨root, []⟩
  | name :: outer, t =>
    let path : Path := ⟨root, (name :: outer).reverse⟩
    match t.makeDirectory path with
    | .error .notFound =>
      match ensureDirectories root outer t with
      | (t, none) => t.ensureDirectory path
      | (t, some e) => (t, some e)
    | _ => t.ensureDirectory path

/-- Opens a file for appending and makes it if there is none: the tree and the place. -/
def openFile (t : FileTree) (path : Path) : Except FileError (FileTree × Location) := do
  let place ← t.locate path
  match t.node? place with
  | some .directory => throw .isDirectory
  | some (.file _) => return (t, place)
  | none => return (t.put place (.file []), place)

/-- Appends bytes to the file at a place. -/
def appendAt (t : FileTree) (place : Location) (bs : List UInt8) : FileTree :=
  match t.node? place with
  | some (.file content) => t.put place (.file (content ++ bs))
  | _ => t

/-- A file that is open for appending. What is written stays with the handle until it is
closed. -/
inductive Handle where
  /-- A file of the tree, and the text written to the handle. -/
  | file (place : Location) (pending : Text)
  /-- A file that is lost: its operations end as told. -/
  | lost (onAppend onClose : Option SystemError)
deriving Repr

/-- Makes the directories of a path and opens the file for appending. -/
def openAppend (path : Path) (t : FileTree) : Opening Handle × FileTree :=
  match Path.trouble? path.parent.text with
  | some trouble => (.raised trouble, t)
  | none =>
    match ensureDirectories path.root path.parent.names.reverse t with
    | (t, some e) => (.failed e, t)
    | (t, none) =>
      match Path.trouble? path.text with
      | some trouble => (.raised trouble, t)
      | none =>
        match t.openFile path with
        | .ok (t, place) => (.opened (.file place []), t)
        | .error e => (.failed (e.toSystemError path), t)

/-- Appends text to a handle. A text that cannot be encoded leaves the file as it was. -/
def append (s : Text) (h : Handle) (t : FileTree) : Completion × Handle × FileTree :=
  match h with
  | .file place pending =>
    match Text.encodeTrouble? Text.fitsUtf8 s with
    | some trouble => (.raised trouble, h, t)
    | none => (.done, .file place (pending ++ s), t)
  | .lost onAppend _ =>
    match onAppend with
    | some e => (.failed e, h, t)
    | none => (.done, h, t)

/-- Closes a handle: what was written to it is in the file then. -/
def close (h : Handle) (t : FileTree) : Option SystemError × FileTree :=
  match h with
  | .file place pending => (none, t.appendAt place (Text.utf8 pending))
  | .lost _ onClose => (onClose, t)

/-- The storage that a tree of files is. -/
def storage : Storage FileTree Handle where
  openAppend := openAppend
  append := append
  close := close

/-- Loses the open file of a sink: it is closed, and its handle ends operations as told. -/
def lose (onAppend onClose : Option SystemError) (s : FileSink Handle) (t : FileTree) :
    FileSink Handle × FileTree :=
  let t := match s.handle with
    | some h => (close h t).2
    | none => t
  ({ s with handle := some (.lost onAppend onClose) }, t)

/-- Puts a file or a directory with those it lies in into the tree. -/
def plant (place : Location) (node : Node) (t : FileTree) : FileTree :=
  let outer := (List.range place.length).map place.take
  let t := outer.foldl (fun t p => if (t.node? p).isSome then t else t.put p .directory) t
  t.put place node

end FileTree

end WorkloadTrace
