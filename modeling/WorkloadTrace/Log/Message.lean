import WorkloadTrace.Value

/-!
# Log messages with arguments

A message is taken as it stands unless arguments come with it. Then `%s` stands for the display
form of the next argument, `%d` for its integer part, and `%%` for a percent sign; each argument
is used exactly once, and has to have a text. A single object that is not empty is an argument that
may be left unused.
-/

namespace WorkloadTrace.Log

/-- The integer part of a number. -/
def whole? : Value → Option Int
  | .real x => x.truncate?
  | v => v.asInt?

/-- The numeral of the integer part of a number, unless it is too long. -/
def wholeText? (v : Value) : Option Text :=
  (whole? v).bind fun n => if Decimal.fits n.natAbs then some (Decimal.ofInt n) else none

/-- The display form of a value, unless it has none. -/
def shownText? (levels : Nat) (v : Value) : Option Text :=
  if (v.trouble? levels).isNone then some v.display else none

/-- Fills in arguments: the text and the arguments left over, or nothing when they do not fit. -/
def fill? (levels : Nat) : Text → List Value → Option (Text × List Value)
  | [], args => some ([], args)
  | char '%' :: char '%' :: rest, args =>
    (fill? levels rest args).map fun r => (char '%' :: r.1, r.2)
  | char '%' :: char 's' :: rest, a :: args =>
    match shownText? levels a, fill? levels rest args with
    | some t, some r => some (t ++ r.1, r.2)
    | _, _ => none
  | char '%' :: char 'd' :: rest, a :: args =>
    match wholeText? a, fill? levels rest args with
    | some t, some r => some (t ++ r.1, r.2)
    | _, _ => none
  | char '%' :: _, _ => none
  | c :: rest, args => (fill? levels rest args).map fun r => (c :: r.1, r.2)

/-- Whether arguments may be left unused: a single object that is not empty. -/
def isMapping : List Value → Bool
  | [.object fields] => !fields.isEmpty
  | _ => false

/-- The text of a message with its arguments, or nothing when they do not fit. -/
def message? (levels : Nat) (template : Text) (args : List Value) : Option Text :=
  if args.isEmpty then some template
  else
    match fill? levels template args with
    | some (t, left) => if left.isEmpty || isMapping args then some t else none
    | none => none

end WorkloadTrace.Log
