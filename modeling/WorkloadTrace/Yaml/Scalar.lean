import WorkloadTrace.Yaml.Atom

/-!
# Plain scalars of YAML

What a scalar without quotes means: a truth value, a number in one of several bases, the absent
value, a date or a time, or otherwise a text. The forms are those of version 1.1, in which `010`
is eight, `on` is true, `1:30` is ninety, and a number with an exponent needs a point and a sign.
-/

namespace WorkloadTrace.Yaml

/-- Why a document is refused. -/
inductive Refusal where
  /-- The text is ill-formed. -/
  | illFormed
  /-- A scalar has the form of a number, a date or a character and is none. -/
  | unfit (message : Text)
  /-- A number is too great. -/
  | tooGreat (message : Text)
  /-- Too many collections are one inside another. -/
  | tooDeep
deriving DecidableEq, Repr

namespace Scalar

/-- The words for true. -/
def trueWords : List Text :=
  ["yes".toText, "Yes".toText, "YES".toText, "true".toText, "True".toText, "TRUE".toText,
    "on".toText, "On".toText, "ON".toText]

/-- The words for false. -/
def falseWords : List Text :=
  ["no".toText, "No".toText, "NO".toText, "false".toText, "False".toText, "FALSE".toText,
    "off".toText, "Off".toText, "OFF".toText]

/-- The words for the absent value. -/
def nullWords : List Text :=
  [[], "~".toText, "null".toText, "Null".toText, "NULL".toText]

/-- Whether a text is not empty and consists of certain characters. -/
def isRun (p : CodePoint → Bool) (s : Text) : Bool := !s.isEmpty && s.all p

/-- A decimal digit or an underscore. -/
def isDecimal (c : CodePoint) : Bool := Decimal.isDigit c || c = char '_'

/-- An octal digit or an underscore. -/
def isOctal (c : CodePoint) : Bool := (char '0' ≤ c && c ≤ char '7') || c = char '_'

/-- A binary digit or an underscore. -/
def isBinary (c : CodePoint) : Bool := c = char '0' || c = char '1' || c = char '_'

/-- A hexadecimal digit or an underscore. -/
def isHexadecimal (c : CodePoint) : Bool :=
  Decimal.isDigit c || (char 'a' ≤ c && c ≤ char 'f') || (char 'A' ≤ c && c ≤ char 'F') ||
    c = char '_'

/-- The value of a digit of any base up to sixteen. -/
def digitValue (c : CodePoint) : Nat :=
  if Decimal.isDigit c then c.toNat - 0x30
  else if char 'a' ≤ c ∧ c ≤ char 'f' then c.toNat - 0x61 + 10
  else c.toNat - 0x41 + 10

/-- The number that digits of a base denote; underscores do not matter. -/
def valueIn (base : Nat) (s : Text) : Nat :=
  (s.filter (· ≠ char '_')).foldl (fun n c => n * base + digitValue c) 0

/-- A sign, if there is one, and the rest. -/
def splitSign : Text → Bool × Text
  | char '-' :: rest => (true, rest)
  | char '+' :: rest => (false, rest)
  | s => (false, s)

/-- Whether a text begins with a decimal digit and has only digits and underscores. -/
def isNumeral (s : Text) : Bool :=
  match s with
  | [] => false
  | c :: rest => Decimal.isDigit c && rest.all isDecimal

/-- Whether a text is one of the numbers below sixty with one or two digits. -/
def isSixtieth (s : Text) : Bool :=
  match s with
  | [d] => Decimal.isDigit d
  | [a, b] => char '0' ≤ a && a ≤ char '5' && Decimal.isDigit b
  | _ => false

/-- The number that groups in base sixty denote. -/
def sixties (groups : List Text) : Nat := groups.foldl (fun n g => n * 60 + valueIn 10 g) 0

/-- The integer that an unsigned numeral denotes. -/
def natural? (s : Text) : Option Nat :=
  match s with
  | char '0' :: char 'b' :: ds => if isRun isBinary ds then some (valueIn 2 ds) else none
  | char '0' :: char 'x' :: ds => if isRun isHexadecimal ds then some (valueIn 16 ds) else none
  | [char '0'] => some 0
  | char '0' :: ds => if isRun isOctal ds then some (valueIn 8 ds) else none
  | s =>
    match Text.splitOn (char ':') s with
    | [whole] => if isNumeral whole then some (valueIn 10 whole) else none
    | whole :: groups =>
      if isNumeral whole && groups.all isSixtieth then some (sixties (whole :: groups)) else none
    | [] => none

/-- The integer that a scalar denotes. -/
def integer? (s : Text) : Option Int :=
  let (negative, rest) := splitSign s
  (natural? rest).map fun n => if negative then -(n : Int) else n

/-- The exponent that a text denotes; it has a sign, and nothing means zero. -/
def exponent? : Text → Option Int
  | [] => some 0
  | e :: sign :: ds =>
    if (e = char 'e' || e = char 'E') && isRun Decimal.isDigit ds then
      if sign = char '-' then some (-(Decimal.value ds : Int))
      else if sign = char '+' then some (Decimal.value ds)
      else none
    else none
  | _ => none

/-- The number that digits with places after a point and an exponent denote. -/
def decimal (negative : Bool) (whole : Nat) (places : Text) (exponent : Int) : Binary64 :=
  let ds := places.filter (· ≠ char '_')
  .ofDecimal negative (whole * Nat.pow 10 ds.length + valueIn 10 ds) (exponent - ds.length)

/-- The number that groups in base sixty denote, of which the last one can have a point. The groups
count from the last one on, and every product and every sum is rounded. -/
def sixtiethsFrom (base : Nat) (sum : Binary64) : List Text → Binary64
  | [] => sum
  | g :: gs =>
    let (whole, places) := (Text.cutAt? (char '.') g).getD (g, [])
    sixtiethsFrom (base * 60)
      (sum.add ((decimal false (valueIn 10 whole) places 0).mul (.ofInt base))) gs

/-- The most groups in base sixty of a number with a point. -/
def maxGroups : Nat := 174

/-- The number with a point that an unsigned scalar denotes. -/
def unsignedReal? (negative signed : Bool) (s : Text) : Option Binary64 :=
  if s = ".inf".toText ∨ s = ".Inf".toText ∨ s = ".INF".toText then some (.infinite negative)
  else if (s = ".nan".toText ∨ s = ".NaN".toText ∨ s = ".NAN".toText) ∧ !signed then some .nan
  else
    match Text.cutAt? (char '.') s with
    | none => none
    | some (whole, rest) =>
      let places := rest.takeWhile isDecimal
      let power := rest.dropWhile isDecimal
      if whole.isEmpty then
        if isNumeral places && !signed then
          (exponent? power).map (decimal negative 0 places)
        else none
      else if isNumeral whole then
        (exponent? power).map (decimal negative (valueIn 10 whole) places)
      else
        match Text.splitOn (char ':') whole with
        | first :: groups =>
          if isNumeral first && groups.all isSixtieth && power.isEmpty then
            let number :=
              sixtiethsFrom 1 (.finite false 0 (-1074)) (Text.splitOn (char ':') s).reverse
            some (if negative then number.neg else number)
          else none
        | [] => none

/-- The number with a point that a scalar denotes. -/
def real? (s : Text) : Option Binary64 :=
  let (negative, rest) := splitSign s
  unsignedReal? negative (rest.length < s.length) rest

/-- The most decimal digits that an integer can be written with. -/
def maxDigits : Nat := 4300

/-- The message for an integer with too many decimal digits. -/
def tooManyDigits (count : Nat) : Text :=
  "Exceeds the limit (".toText ++ Decimal.ofNat maxDigits ++
    " digits) for integer string conversion: value has ".toText ++ Decimal.ofNat count ++
    " digits; use sys.set_int_max_str_digits() to increase the limit".toText

/-- The message for an integer of a base without digits. -/
def noDigits (base : Nat) : Text :=
  "invalid literal for int() with base ".toText ++ Decimal.ofNat base ++ ": ''".toText

/-- Whether a number with a point has too many groups in base sixty. -/
def hasTooManyGroups (s : Text) : Bool := maxGroups < (Text.splitOn (char ':') s).length

/-- Why a text of the form of an integer is none: it has only underscores for digits, or too many
digits of base ten. -/
def fault? (s : Text) : Option Text :=
  match (splitSign s).2.filter (· ≠ char '_') with
  | [char '0', char 'b'] => some (noDigits 2)
  | [char '0', char 'x'] => some (noDigits 16)
  | char '0' :: _ => none
  | ds =>
    let count := (ds.takeWhile Decimal.isDigit).length
    if maxDigits < count then some (tooManyDigits count) else none

/-- What a scalar without quotes means. -/
def resolve (s : Text) : Except Refusal Atom :=
  if trueWords.contains s then .ok (.bool true)
  else if falseWords.contains s then .ok (.bool false)
  else if nullWords.contains s then .ok .null
  else if s = [char '='] ∨ s = [char '<', char '<'] then .error .illFormed
  else
    match real? s with
    | some x =>
      if hasTooManyGroups s then .error (.tooGreat "int too large to convert to float".toText)
      else .ok (.real x)
    | none =>
      match integer? s with
      | some n =>
        match fault? s with
        | none => .ok (.int n)
        | some m => .error (.unfit m)
      | none =>
        match Moment.parse? s with
        | none => .ok (.text s)
        | some moment =>
          match moment.fault? with
          | none => .ok (.moment moment)
          | some m => .error (.unfit m)

end Scalar

end WorkloadTrace.Yaml
