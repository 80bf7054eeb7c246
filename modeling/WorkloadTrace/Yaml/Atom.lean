import WorkloadTrace.Yaml.Moment

/-!
# Atoms of YAML

What a single scalar of a YAML document denotes. Atoms are the keys of maps, where two numbers are
the same key when they are equal, whatever their form, and a truth value is the number that it
counts as.
-/

namespace WorkloadTrace.Yaml

/-- What a scalar denotes. -/
inductive Atom where
  /-- The absent value. -/
  | null
  /-- A truth value. -/
  | bool (b : Bool)
  /-- An integer. -/
  | int (n : Int)
  /-- A number with a point. -/
  | real (x : Binary64)
  /-- A text. -/
  | text (s : Text)
  /-- A date or a point in time. -/
  | moment (m : Moment)
deriving DecidableEq, Repr

namespace Atom

/-- The value that an atom is. -/
def toValue : Atom → Value
  | .null => .null
  | .bool b => .bool b
  | .int n => .int n
  | .real x => .real x
  | .text s => .text s
  | .moment m => .other m.kind m.literal

/-- The integer that an atom counts as. -/
def whole? : Atom → Option Int
  | .bool b => some (Value.ofBool b)
  | .int n => some n
  | .real x => x.toInt?
  | _ => none

/-- Whether two atoms are the same key. -/
def same (a b : Atom) : Bool :=
  match a, b with
  | .moment x, .moment y => x.same y
  | a, b =>
    match a.whole?, b.whole? with
    | some m, some n => m == n
    | _, _ => a == b

end Atom

end WorkloadTrace.Yaml
