import WorkloadTrace.Text.Conversion

/-!
# Trouble

What an operation can raise instead of returning: an argument that it cannot work with, a value that
has no text, and text that no file can hold. Nothing records it, so it reaches the caller.
-/

namespace WorkloadTrace

/-- What is raised. -/
inductive Trouble where
  /-- A field index is of a kind that has no order with integers. -/
  | unorderedIndex (typeName : Text)
  /-- A field index lies in range and is not of the kind of integers. -/
  | realIndex
  /-- A value is of a kind that has no attribute of this name. -/
  | noAttribute (typeName name : Text)
  /-- A key is a byte string. -/
  | byteKey
  /-- A value is of a kind that has no members. -/
  | notIterable (typeName : Text)
  /-- A member of a kind without members stands where a pair is needed. -/
  | notPair (typeName : Text)
  /-- A member that consists of so many values stands where a pair is needed. -/
  | pairLength (length : Nat)
  /-- A number is divided by zero. -/
  | division
  /-- An integer has too many digits for a numeral. -/
  | longNumeral
  /-- A value is nested too deep to be shown. -/
  | deepNesting
  /-- A path has the character that no path can have. -/
  | nulInPath
  /-- A text cannot be encoded, from one place up to another. -/
  | unencodable (s : Text) (start stop : Nat)
  /-- An exception about a conversion has no text, since its place lies before the text. -/
  | misplacedConversion
  /-- There is no level of log records with this name. -/
  | unknownLevel (name : Text)
  /-- What something outside raises, by the name of its class. -/
  | foreign (className : Text)
deriving DecidableEq, Repr

namespace Trouble

/-- The name of the class of what is raised. -/
def className : Trouble → Text
  | .unorderedIndex _ | .realIndex | .byteKey | .notIterable _ | .notPair _ => "TypeError".toText
  | .noAttribute _ _ => "AttributeError".toText
  | .pairLength _ | .longNumeral | .nulInPath | .unknownLevel _ => "ValueError".toText
  | .division => "ZeroDivisionError".toText
  | .deepNesting => "RecursionError".toText
  | .unencodable _ _ _ => "UnicodeEncodeError".toText
  | .misplacedConversion => "SystemError".toText
  | .foreign name => name

/-- The wording of what is raised. -/
def message : Trouble → Text
  | .unorderedIndex typeName =>
    "'<=' not supported between instances of 'int' and '".toText ++ typeName ++ [char '\x27']
  | .realIndex => "list indices must be integers or slices, not float".toText
  | .noAttribute typeName name =>
    char '\x27' :: typeName ++ "' object has no attribute '".toText ++ name ++ [char '\x27']
  | .byteKey => "startswith first arg must be bytes or a tuple of bytes, not str".toText
  | .notIterable typeName => char '\x27' :: typeName ++ "' object is not iterable".toText
  | .notPair typeName =>
    "cannot unpack non-iterable ".toText ++ typeName ++ " object".toText
  | .pairLength length =>
    if length < 2 then
      "not enough values to unpack (expected 2, got ".toText ++ Decimal.ofNat length ++ [char ')']
    else "too many values to unpack (expected 2)".toText
  | .division => "integer modulo by zero".toText
  | .longNumeral =>
    "Exceeds the limit (".toText ++ Decimal.ofNat Decimal.maxDigits ++
      " digits) for integer string conversion; ".toText ++
      "use sys.set_int_max_str_digits() to increase the limit".toText
  | .deepNesting => "maximum recursion depth exceeded while getting the repr of an object".toText
  | .nulInPath => "embedded null byte".toText
  | .unencodable s start stop =>
    Text.codecText "utf-8".toText ++ Text.charsText "encode".toText s start stop ++
      ": surrogates not allowed".toText
  | .misplacedConversion => "<class 'str'> returned a result with an exception set".toText
  | .unknownLevel name => "Unknown level: ".toText ++ Text.quoted name
  | .foreign _ => []

end Trouble

/-- What is raised when a text has to be encoded, if not all of it fits. -/
def Text.encodeTrouble? (fits : CodePoint → Bool) (s : Text) : Option Trouble :=
  (unfit? fits s).map fun place => .unencodable s place.1 place.2

/-- What is raised when a number has to be written, if its numeral would be too long. -/
def Decimal.trouble? (n : Nat) : Option Trouble := if fits n then none else some .longNumeral

theorem Decimal.trouble?_eq_none_iff {n : Nat} : trouble? n = none ↔ fits n = true := by
  simp [trouble?]

theorem Text.encodeTrouble?_eq_none_iff {fits : CodePoint → Bool} {s : Text} :
    encodeTrouble? fits s = none ↔ s.all fits = true := by
  rw [encodeTrouble?, Option.map_eq_none_iff, unfit?_eq_none_iff]

end WorkloadTrace
