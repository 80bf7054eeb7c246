import WorkloadTrace.Text

/-!
# Characters as bytes

`Text.utf8` writes text as UTF-8 and `Text.scanUtf8` reads bytes back: each well-formed sequence
gives its character, and each maximal ill-formed part (a lead byte with as many following bytes
as fit it) gives one gap. The forgiving reader puts U+FFFD for a gap, the strict one refuses.
-/

namespace WorkloadTrace.Text

/-- Whether there is a surrogate in a text. No text with one can be written as UTF-8. -/
def hasSurrogate (s : Text) : Bool := s.any CodePoint.isSurrogate

@[simp] theorem hasSurrogate_nil : hasSurrogate [] = false := rfl

@[simp] theorem hasSurrogate_cons (c : CodePoint) (s : Text) :
    hasSurrogate (c :: s) = (c.isSurrogate || hasSurrogate s) := List.any_cons

@[simp] theorem hasSurrogate_append (s t : Text) :
    hasSurrogate (s ++ t) = (hasSurrogate s || hasSurrogate t) := List.any_append

@[simp] theorem isSurrogate_char (c : Char) : (char c).isSurrogate = false := rfl

theorem hasSurrogate_eq_false_iff {s : Text} :
    hasSurrogate s = false ↔ ∀ c ∈ s, c.isSurrogate = false := by
  simp [hasSurrogate]

/-- A string has no surrogates. -/
@[simp] theorem hasSurrogate_toText (s : String) : hasSurrogate s.toText = false := by
  simp [hasSurrogate, String.toText]

/-- The UTF-8 bytes of a code point. A surrogate has the bytes that its number would have, which are
no UTF-8. -/
def utf8Bytes : CodePoint → List UInt8
  | .char c => String.utf8EncodeChar c
  | .surrogate place => [0xED, .ofNat (0xA0 + place / 0x40), .ofNat (0x80 + place % 0x40)]

/-- The UTF-8 bytes of a text. -/
def utf8 (s : Text) : List UInt8 := s.flatMap utf8Bytes

/-- The number of UTF-8 bytes of a text. -/
def utf8Length (s : Text) : Nat := (utf8 s).length

/-- What a byte announces when it stands where a character begins. -/
inductive LeadByte where
  /-- A character of one byte. -/
  | ascii (value : Nat)
  /-- A character of several bytes: the leading payload bits and the inclusive ranges that the
  following bytes must lie in. -/
  | leads (value : Nat) (tails : List (Nat × Nat))
  /-- No character begins with this byte. -/
  | stray

/-- Classifies a first byte. The second byte of some sequences has a narrower range, which
excludes overlong forms, surrogates and values beyond U+10FFFF. -/
def LeadByte.ofNat (b : Nat) : LeadByte :=
  if b < 0x80 then .ascii b
  else if b < 0xC2 then .stray
  else if b < 0xE0 then .leads (b - 0xC0) [(0x80, 0xBF)]
  else if b = 0xE0 then .leads 0 [(0xA0, 0xBF), (0x80, 0xBF)]
  else if b = 0xED then .leads 0xD [(0x80, 0x9F), (0x80, 0xBF)]
  else if b < 0xF0 then .leads (b - 0xE0) [(0x80, 0xBF), (0x80, 0xBF)]
  else if b = 0xF0 then .leads 0 [(0x90, 0xBF), (0x80, 0xBF), (0x80, 0xBF)]
  else if b < 0xF4 then .leads (b - 0xF0) [(0x80, 0xBF), (0x80, 0xBF), (0x80, 0xBF)]
  else if b = 0xF4 then .leads 4 [(0x80, 0x8F), (0x80, 0xBF), (0x80, 0xBF)]
  else .stray

/-- Takes following bytes as long as they lie in the announced ranges: the code point when all
are there, and the bytes left over. -/
def takeTails (value : Nat) : List (Nat × Nat) → List UInt8 → Option Nat × List UInt8
  | [], rest => (some value, rest)
  | _ :: _, [] => (none, [])
  | (lo, hi) :: tails, b :: rest =>
    if lo ≤ b.toNat ∧ b.toNat ≤ hi then takeTails (value * 64 + (b.toNat - 0x80)) tails rest
    else (none, b :: rest)

/-- Following bytes are only taken, never added. -/
theorem length_takeTails_le (value : Nat) (tails : List (Nat × Nat)) (rest : List UInt8) :
    (takeTails value tails rest).2.length ≤ rest.length := by
  induction tails generalizing value rest with
  | nil => simp [takeTails]
  | cons t ts ih =>
    cases rest with
    | nil => simp [takeTails]
    | cons b bs =>
      obtain ⟨lo, hi⟩ := t
      simp only [takeTails]
      split
      · exact Nat.le_succ_of_le (ih _ _)
      · simp

/-- Reads bytes: a character for each well-formed sequence, a gap for each ill-formed part. -/
def scanUtf8 : List UInt8 → List (Option CodePoint)
  | [] => []
  | b :: rest =>
    match LeadByte.ofNat b.toNat with
    | .ascii n => some (CodePoint.ofNat n) :: scanUtf8 rest
    | .stray => none :: scanUtf8 rest
    | .leads value tails =>
      (takeTails value tails rest).1.map CodePoint.ofNat :: scanUtf8 (takeTails value tails rest).2
termination_by bs => bs.length
decreasing_by
  · simp
  · simp
  · have := length_takeTails_le value tails rest
    simp only [List.length_cons]
    omega

/-- Reads bytes as text, with U+FFFD for each ill-formed part. -/
def ofUtf8Lossy (bs : List UInt8) : Text :=
  (scanUtf8 bs).map fun c => c.getD (CodePoint.ofNat 0xFFFD)

/-- Reads bytes as text, or refuses bytes that are not UTF-8. -/
def ofUtf8? (bs : List UInt8) : Option Text := (scanUtf8 bs).mapM id

end WorkloadTrace.Text
