import WorkloadTrace.Issue
import WorkloadTrace.Value

/-!
# Lenient readings

Which values are read as integers, truth values and texts beside those of the very kind: truth
values count as integers, numbers without a fraction count as integers, numerals are read from
texts, and some words denote truth values. Texts are never made from other kinds.
-/

namespace WorkloadTrace.Lenient

/-- The magnitude of an integer in its shortest decimal form: a zero alone, or digits of which the
first is not zero. Too many digits in front are out of range whatever follows them. -/
def magnitude (s : Text) : Except Fault Nat :=
  match s with
  | [char '0'] => .ok 0
  | char '0' :: _ => .error .notNumeral
  | s =>
    if Decimal.maxDigits < (s.takeWhile Decimal.isDigit).length then .error .outOfRange
    else if !s.isEmpty && s.all Decimal.isDigit then .ok (Decimal.value s)
    else .error .notNumeral

/-- The integer in its shortest decimal form, with a minus sign if it is negative. -/
def plainInteger (s : Text) : Except Fault Int :=
  match s with
  | char '-' :: rest => (magnitude rest).map fun n : Nat => -(n : Int)
  | s => (magnitude s).map fun n : Nat => (n : Int)

/-- What follows zeros and underscores after a first zero; the last of them is kept before a point
and at the end. -/
def dropZeros : CodePoint → Text → Option Text
  | last, [] => some [last]
  | last, c :: rest =>
    if c = char '0' ∨ c = char '_' then dropZeros c rest
    else if c = char '-' ∨ Decimal.isDigit c then some (c :: rest)
    else if c = char '.' then some (last :: c :: rest)
    else none

/-- A numeral without leading zeros and the underscores among them. -/
def withoutZeros : Text → Option Text
  | [] => none
  | c :: rest =>
    if c = char '0' then dropZeros c rest
    else if c = char '-' ∨ Decimal.isDigit c then some (c :: rest)
    else none

/-- Without a tail that consists of a point and at least one zero. -/
def dropZeroTail (s : Text) : Text :=
  match Text.cutAt? (char '.') s with
  | some (whole, places) => if !places.isEmpty && places.all (· = char '0') then whole else s
  | none => s

/-- Whether two underscores are neighbours. -/
def hasDoubleUnderscore : Text → Bool
  | char '_' :: char '_' :: _ => true
  | _ :: rest => hasDoubleUnderscore rest
  | [] => false

/-- Without its underscores, unless one stands at an end or beside another. -/
def dropUnderscores (s : Text) : Text :=
  if s.head? = some (char '_') || s.getLast? = some (char '_') || hasDoubleUnderscore s then s
  else s.filter (· ≠ char '_')

/-- A numeral in its shortest decimal form: without blanks around it, a plus sign, leading zeros, a
tail of zeros after a point, and underscores. -/
def shorten? (s : Text) : Option Text :=
  let body := Text.trimBy Text.isSpace s
  let unsigned := match body with
    | char '+' :: char '-' :: _ => none
    | char '+' :: rest => some rest
    | s => some s
  (unsigned.bind withoutZeros).map fun s => dropUnderscores (dropZeroTail s)

/-- The integer that a text denotes. What is not in its shortest form is brought into it. -/
def integerOfText (s : Text) : Except Fault Int :=
  match plainInteger s with
  | .ok n => .ok n
  | .error .outOfRange => .error .outOfRange
  | .error _ =>
    match (shorten? s).map plainInteger with
    | some (.ok n) => .ok n
    | _ => .error .notNumeral

/-- The least positive integer that needs more than 64 bits with its sign. -/
def wordBound : Int := 9223372036854775808

/-- The integer that a binary64 number is: it is finite, has no fraction and lies strictly
between the bounds of 64-bit integers. -/
def integerOfReal (x : Binary64) : Except Fault Int :=
  if !x.isFinite then .error .notFinite
  else
    match x.toInt? with
    | none => .error .fraction
    | some n => if -wordBound < n ∧ n < wordBound then .ok n else .error .outOfRange

/-- The integer that a value is read as. -/
def integer : Value → Except Fault Int
  | .int n => .ok n
  | .bool b => .ok (Value.ofBool b)
  | .real x => integerOfReal x
  | .text s => if Text.hasSurrogate s then .error .illFormedText else integerOfText s
  | .bytes bs =>
    match Text.ofUtf8? bs with
    | some s => integerOfText s
    | none => .error .notNumeral
  | _ => .error .notInteger

/-- A natural number: an integer that is not negative. -/
def natural (v : Value) : Except Fault Nat := do
  let n ← integer v
  if n < 0 then throw .negative else return n.toNat

/-- A positive natural number. -/
def positive (v : Value) : Except Fault { n : Nat // 0 < n } := do
  let n ← integer v
  if h : 0 < n.toNat then return ⟨n.toNat, h⟩ else throw .notPositive

/-- The words for true. -/
def trueWords : List Text :=
  ["1".toText, "true".toText, "t".toText, "yes".toText, "y".toText, "on".toText]

/-- The words for false. -/
def falseWords : List Text :=
  ["0".toText, "false".toText, "f".toText, "no".toText, "n".toText, "off".toText]

/-- The truth value that a word denotes, in any case of its ASCII letters. -/
def booleanOfText (s : Text) : Except Fault Bool :=
  let w := s.map Text.asciiLower
  if trueWords.contains w then .ok true
  else if falseWords.contains w then .ok false
  else .error .unclearBoolean

/-- The truth value that an integer denotes. -/
def booleanOfInt (n : Int) : Except Fault Bool :=
  if n = 0 then .ok false else if n = 1 then .ok true else .error .unclearBoolean

/-- Whether an integer is a 64-bit one. -/
def fitsWord (n : Int) : Bool := -wordBound ≤ n && n < wordBound

/-- The truth value that a value is read as. -/
def boolean : Value → Except Fault Bool
  | .bool b => .ok b
  | .int n => if fitsWord n then booleanOfInt n else .error .notBoolean
  | .real x =>
    match x.toInt? with
    | some n => if -wordBound < n ∧ n < wordBound then booleanOfInt n else .error .notBoolean
    | none => .error .notBoolean
  | .text s => if Text.hasSurrogate s then .error .illFormedText else booleanOfText s
  | .bytes bs =>
    match Text.ofUtf8? bs with
    | some s => booleanOfText s
    | none => .error .unclearBoolean
  | _ => .error .notBoolean

/-- A text; no other kind is read as one. -/
def text : Value → Except Fault Text
  | .text s => .ok s
  | _ => .error .notText

/-- A text that is not empty. -/
def someText (v : Value) : Except Fault Text := do
  let s ← text v
  if s.isEmpty then throw .emptyText else return s

/-- A text, also from bytes that are UTF-8. -/
def textOrBytes : Value → Except Fault Text
  | .text s => .ok s
  | .bytes bs =>
    match Text.ofUtf8? bs with
    | some s => .ok s
    | none => .error .illFormedText
  | _ => .error .notText

/-- An integer is read as itself. -/
theorem integer_int (n : Int) : integer (.int n) = .ok n := rfl

/-- A natural number is read as itself. -/
theorem natural_ofNat (n : Nat) : natural (.int n) = .ok n := by
  simp [natural, integer, bind, Except.bind, pure, Except.pure,
    Int.not_lt.2 (Int.natCast_nonneg n)]

end WorkloadTrace.Lenient
