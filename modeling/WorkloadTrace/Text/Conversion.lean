import WorkloadTrace.Decimal
import WorkloadTrace.Text.Quoted
import WorkloadTrace.Text.Utf8

/-!
# Conversions between text and bytes

Text with a surrogate cannot be written as UTF-8. File names are an exception: the surrogates from
U+DC80 to U+DCFF stand for bytes that are not UTF-8, so that every name of a file is a text. What
goes wrong is reported with the place: of one code point, or of the first and the last of several.
-/

namespace WorkloadTrace.Text

/-- The byte that a surrogate stands for in the name of a file, if it stands for one. -/
def escapedByte? : CodePoint → Option UInt8
  | .char _ => none
  | .surrogate place =>
    if 0x480 ≤ place.val ∧ place.val < 0x500 then some (.ofNat (place - 0x400)) else none

/-- Whether a code point can be written as UTF-8. -/
def fitsUtf8 (c : CodePoint) : Bool := !c.isSurrogate

/-- Whether a code point can stand in the name of a file. -/
def fitsName (c : CodePoint) : Bool := !c.isSurrogate || (escapedByte? c).isSome

/-- The bytes of a code point in the name of a file. -/
def nameBytes (c : CodePoint) : List UInt8 :=
  match escapedByte? c with
  | some b => [b]
  | none => utf8Bytes c

/-- The bytes of the name of a file. -/
def systemBytes (s : Text) : List UInt8 := s.flatMap nameBytes

/-- The name of a file that bytes are: what is not UTF-8 is read as surrogates, byte by byte. -/
def ofSystemBytes : List UInt8 → Text
  | [] => []
  | b :: rest =>
    match (scanUtf8 (b :: rest)).head? with
    | some (some c) => c :: ofSystemBytes (rest.drop ((utf8Bytes c).length - 1))
    | _ => .ofNat (0xDC00 + b.toNat) :: ofSystemBytes rest
termination_by bs => bs.length
decreasing_by all_goals simp only [List.length_cons, List.length_drop]; omega

/-- Where text cannot be converted first: the place of the first code point that does not fit, and
the place after the surrogates that begin there. -/
def unfit? (fits : CodePoint → Bool) (s : Text) : Option (Nat × Nat) :=
  let start := (s.takeWhile fits).length
  if start = s.length then none
  else some (start, start + ((s.drop start).takeWhile CodePoint.isSurrogate).length)

/-- Where a conversion failed: at one place or from one place to another. -/
def placeText (one many : Text) (start stop : Int) (single : Bool) : Text :=
  if single then one ++ " in position ".toText ++ Decimal.ofInt start
  else many ++ " in position ".toText ++ Decimal.ofInt start ++ char '-' :: Decimal.ofInt (stop - 1)

/-- The code of a code point in messages about conversions. -/
def pointCode (c : CodePoint) : Text :=
  let n := c.toNat
  if n < 0x100 then [char '\\', char 'x'] ++ hexDigits 2 n
  else if n < 0x10000 then [char '\\', char 'u'] ++ hexDigits 4 n
  else [char '\\', char 'U'] ++ hexDigits 8 n

/-- What cannot be done with characters, and where. One character is shown. -/
def charsText (verb s : Text) (start stop : Int) : Text :=
  let many := "can't ".toText ++ verb ++ " characters".toText
  match s[start.toNat]? with
  | some c =>
    placeText ("can't ".toText ++ verb ++ " character ".toText ++ char '\x27' :: pointCode c ++
      [char '\x27']) many start stop (stop == start + 1)
  | none => placeText [] many start stop false

/-- The name of an encoding in front of a message about a conversion. -/
def codecText (encoding : Text) : Text := char '\x27' :: encoding ++ "' codec ".toText

/-- There is no such place in a text whose code points all fit. -/
theorem unfit?_eq_none_iff {fits : CodePoint → Bool} {s : Text} :
    unfit? fits s = none ↔ s.all fits = true := by
  have hlength : (s.takeWhile fits).length = s.length ↔ s.all fits = true := by
    induction s with
    | nil => simp
    | cons c rest ih => cases hc : fits c <;> simp [hc, ih]
  simp [unfit?, hlength]

end WorkloadTrace.Text
