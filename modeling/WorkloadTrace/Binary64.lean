import WorkloadTrace.Decimal

/-!
# Binary64 numbers

A number with a fraction or an exponent is kept as the binary64 number nearest to it. Rounding
is exact: a decimal is a ratio of two natural numbers, the ratio is scaled to 53 bits, and a half
goes to the even neighbour. `Binary64.text` writes the fewest digits that read back.
-/

namespace WorkloadTrace

/-- A binary64 number; a finite one is its significand times a power of two. -/
inductive Binary64 where
  /-- A finite number: its sign, its significand and the exponent of two. -/
  | finite (negative : Bool) (significand : Nat) (exponent : Int)
  /-- An infinity with its sign. -/
  | infinite (negative : Bool)
  /-- The value that is not a number. -/
  | nan
deriving DecidableEq, Repr

namespace Binary64

/-- A ratio times a power of a base, as a ratio. -/
def scaleRatio (base : Nat) (ratio : Nat × Nat) : Int → Nat × Nat
  | .ofNat e => (ratio.1 * base.pow e, ratio.2)
  | .negSucc e => (ratio.1, ratio.2 * base.pow (e + 1))

/-- The natural number nearest to a ratio; a half goes to the even neighbour. -/
def roundEven (num den : Nat) : Nat :=
  let q := num / den
  let twice := 2 * (num % den)
  if twice < den then q else if den < twice then q + 1 else if q % 2 = 0 then q else q + 1

/-- The exponent of the greatest power of two that is at most a positive ratio. -/
def floorLog2 (num den : Nat) : Int :=
  let e : Int := (Nat.log2 num : Int) - (Nat.log2 den : Int)
  let scaled := scaleRatio 2 (den, 1) e
  if scaled.1 ≤ num * scaled.2 then e else e - 1

/-- The least significand with 53 bits. -/
def hiddenBit : Nat := 4503599627370496

/-- The binary64 number nearest to a ratio with a positive denominator. -/
def ofRatio (negative : Bool) (num den : Nat) : Binary64 :=
  if num = 0 then .finite negative 0 (-1074)
  else
    let exponent := max (floorLog2 num den - 52) (-1074)
    let scaled := scaleRatio 2 (num, den) (-exponent)
    let significand := roundEven scaled.1 scaled.2
    let rounded :=
      if significand = 2 * hiddenBit then (hiddenBit, exponent + 1) else (significand, exponent)
    if 971 < rounded.2 then .infinite negative else .finite negative rounded.1 rounded.2

/-- The binary64 number nearest to `digits · 10 ^ exponent`. Beyond the range of finite numbers
no power of ten is formed. -/
def ofDecimal (negative : Bool) (digits : Nat) (exponent : Int) : Binary64 :=
  let magnitude : Int := (Decimal.ofNat digits).length + exponent
  if digits = 0 ∨ magnitude < -330 then .finite negative 0 (-1074)
  else if 310 < magnitude then .infinite negative
  else
    let ratio := scaleRatio 10 (digits, 1) exponent
    ofRatio negative ratio.1 ratio.2

/-- The binary64 number nearest to an integer. -/
def ofInt (n : Int) : Binary64 := ofRatio (n < 0) n.natAbs 1

/-- The binary64 number nearest to a significand times a power of two. -/
def ofScaled (negative : Bool) (significand : Nat) (exponent : Int) : Binary64 :=
  let r := scaleRatio 2 (significand, 1) exponent
  ofRatio negative r.1 r.2

/-- The product of two numbers, rounded. -/
def mul : Binary64 → Binary64 → Binary64
  | .finite a m e, .finite b n f => ofScaled (a != b) (m * n) (e + f)
  | .infinite a, .infinite b => .infinite (a != b)
  | .infinite a, .finite b n _ => if n = 0 then .nan else .infinite (a != b)
  | .finite a m _, .infinite b => if m = 0 then .nan else .infinite (a != b)
  | _, _ => .nan

/-- A significand with a sign, scaled down to a lower exponent. -/
def signedAt (lowest : Int) (negative : Bool) (significand : Nat) (exponent : Int) : Int :=
  let n : Int := significand * Nat.pow 2 (exponent - lowest).toNat
  if negative then -n else n

/-- The sum of two numbers, rounded; a sum of zero is negative only when both numbers are. -/
def add : Binary64 → Binary64 → Binary64
  | .finite a m e, .finite b n f =>
    let lowest := min e f
    let sum := signedAt lowest a m e + signedAt lowest b n f
    if sum = 0 then .finite (a && b) 0 (-1074) else ofScaled (sum < 0) sum.natAbs lowest
  | .infinite a, .infinite b => if a = b then .infinite a else .nan
  | .infinite a, .finite .. => .infinite a
  | .finite .., .infinite b => .infinite b
  | _, _ => .nan

/-- The number with the other sign. -/
def neg : Binary64 → Binary64
  | .finite a m e => .finite (!a) m e
  | .infinite a => .infinite (!a)
  | .nan => .nan

/-- The magnitude of a finite number as a ratio. -/
def ratio (significand : Nat) (exponent : Int) : Nat × Nat := scaleRatio 2 (significand, 1) exponent

/-- The integer that a finite number rounds to in the direction of zero. -/
def truncate? : Binary64 → Option Int
  | .finite negative significand exponent =>
    let r := ratio significand exponent
    let n : Int := (r.1 / r.2 : Nat)
    some (if negative then -n else n)
  | _ => none

/-- The integer that a number equals, if it has no fraction. -/
def toInt? : Binary64 → Option Int
  | .finite negative significand exponent =>
    let r := ratio significand exponent
    if r.1 % r.2 = 0 then truncate? (.finite negative significand exponent) else none
  | _ => none

/-- Whether a number is finite. -/
def isFinite : Binary64 → Bool
  | .finite .. => true
  | _ => false

/-- The exponent of the greatest power of ten that is at most a positive ratio. -/
def floorLog10 (num den : Nat) : Int :=
  let e : Int := ((Decimal.ofNat num).length : Int) - ((Decimal.ofNat den).length : Int)
  let scaled := scaleRatio 10 (den, 1) e
  if scaled.1 ≤ num * scaled.2 then e else e - 1

/-- A decimal on the grid of multiples of `10 ^ grid` that reads back as a positive finite
number: one of the number's two neighbours on that grid, the nearer one when both do. -/
def readingBack? (significand : Nat) (exponent grid : Int) : Option Nat :=
  let r := ratio significand exponent
  let scaled := scaleRatio 10 r (-grid)
  let below := scaled.1 / scaled.2
  let twice := 2 * (scaled.1 % scaled.2)
  let readsBack (n : Nat) : Bool :=
    ofDecimal false n grid == .finite false significand exponent
  let nearer := if twice < scaled.2 ∨ (twice = scaled.2 ∧ below % 2 = 0) then below else below + 1
  let farther := if nearer = below then below + 1 else below
  if readsBack nearer then some nearer
  else if readsBack farther then some farther
  else none

/-- The first of the grids with 1, 2, … digits that has a decimal reading back; the decimal and
the grid's exponent. `fuel` grids are tried. -/
def shortestFrom (significand : Nat) (exponent grid : Int) : Nat → Nat × Int
  | 0 => (0, grid)
  | fuel + 1 =>
    match readingBack? significand exponent grid with
    | some n => (n, grid)
    | none => shortestFrom significand exponent (grid - 1) fuel

/-- The shortest decimal that reads back as a positive finite number; 17 digits always do. -/
def shortest (significand : Nat) (exponent : Int) : Nat × Int :=
  let r := ratio significand exponent
  shortestFrom significand exponent (floorLog10 r.1 r.2) 17

/-- How numbers are written: positionally when the exponent of the leading digit is at least
`leastPositional` and below `positionalBound`, otherwise with an exponent of two digits or more. -/
structure NumberFormat where
  /-- The least exponent that is written positionally. -/
  leastPositional : Int
  /-- The first exponent that is too great to be written positionally. -/
  positionalBound : Int

/-- Numbers from 0.0001 up to 10¹⁶ are written positionally. -/
def NumberFormat.usual : NumberFormat := ⟨-4, 16⟩

/-- Digits with a point after the first `whole` of them; at least one digit stands on each
side. -/
def positional (digits : Text) (whole : Int) : Text :=
  if whole ≤ 0 then [char '0', char '.'] ++ List.replicate (-whole).toNat (char '0') ++ digits
  else if whole.toNat < digits.length then
    digits.take whole.toNat ++ char '.' :: digits.drop whole.toNat
  else digits ++ List.replicate (whole.toNat - digits.length) (char '0') ++ [char '.', char '0']

/-- Digits with a point after the first, and an exponent with a sign. -/
def scientific (digits : Text) (exponent : Int) : Text :=
  let mantissa := match digits with
    | d :: e :: ds => d :: char '.' :: e :: ds
    | ds => ds
  let power := Decimal.ofNat exponent.natAbs
  let padded := if power.length < 2 then char '0' :: power else power
  mantissa ++ [char 'e', if exponent < 0 then char '-' else char '+'] ++ padded

/-- The text of a positive finite number. -/
def magnitudeText (format : NumberFormat) (significand : Nat) (exponent : Int) : Text :=
  let (n, grid) := shortest significand exponent
  let all := Decimal.ofNat n
  let leading : Int := all.length - 1 + grid
  let digits := (all.reverse.dropWhile (· = char '0')).reverse
  if format.leastPositional ≤ leading ∧ leading < format.positionalBound then
    positional digits (leading + 1)
  else scientific digits leading

/-- The text of a number: the fewest digits that read back. -/
def text : Binary64 → Text
  | .finite negative significand exponent =>
    let sign := if negative then [char '-'] else []
    if significand = 0 then sign ++ [char '0', char '.', char '0']
    else sign ++ magnitudeText .usual significand exponent
  | .infinite negative => if negative then "-inf".toText else "inf".toText
  | .nan => "nan".toText

end Binary64

end WorkloadTrace
