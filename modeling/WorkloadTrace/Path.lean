import WorkloadTrace.Trouble

/-!
# Paths

A path is a root, which is empty for a relative path, and the names below it. Repeated slashes,
single points and a slash at the end do not matter; two points are a name like any other.
-/

namespace WorkloadTrace

/-- A path in its normal form. -/
structure Path where
  /-- Nothing for a relative path, otherwise one slash or exactly two. -/
  root : Text := []
  /-- The names, the outermost first. -/
  names : List Text
deriving DecidableEq, Repr, Inhabited

namespace Path

/-- The name that means the directory itself. -/
def here : Text := [char '.']

/-- The name that means the directory above. -/
def above : Text := [char '.', char '.']

/-- The character that no path can have. -/
def nul : CodePoint := CodePoint.ofNat 0

/-- The root that a text begins with. Exactly two slashes are a root of their own. -/
def rootOf : Text → Text
  | char '/' :: char '/' :: char '/' :: _ => [char '/']
  | char '/' :: char '/' :: _ => [char '/', char '/']
  | char '/' :: _ => [char '/']
  | _ => []

/-- The path that a text denotes. -/
def parse (s : Text) : Path :=
  ⟨rootOf s, (Text.splitOn (char '/') s).filter fun n => !n.isEmpty && n != here⟩

/-- The text of a path; the empty relative path is a single point. -/
def text (p : Path) : Text :=
  if p.root.isEmpty && p.names.isEmpty then here else p.root ++ Text.joinWith [char '/'] p.names

/-- The directory that a path lies in; the empty path and the root lie in themselves. -/
def parent (p : Path) : Path := { p with names := p.names.dropLast }

/-- What is raised when the text of a path is given to the system: it has to be encoded, and must
not have the character that ends names there. -/
def trouble? (s : Text) : Option Trouble :=
  (Text.encodeTrouble? Text.fitsName s).or (if s.contains nul then some .nulInPath else none)

end Path

end WorkloadTrace
