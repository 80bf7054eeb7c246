/-!
# Code points

Text is made of code points: characters, and surrogates. A surrogate is half of a pair that means a
character and is no character by itself, but escapes can name a single one, and names of files that
are not UTF-8 are read with surrogates for their bytes.
-/

namespace WorkloadTrace

/-- A code point. -/
inductive CodePoint where
  /-- A character. -/
  | char (c : Char)
  /-- A surrogate, by its place among them. -/
  | surrogate (place : Fin 0x800)
deriving DecidableEq, Repr

export CodePoint (char)

namespace CodePoint

instance : Inhabited CodePoint := ⟨char default⟩

/-- The first number that no code point has. -/
def bound : Nat := 0x110000

/-- The number of the first surrogate. -/
def firstSurrogate : Nat := 0xD800

/-- The number of a code point. -/
def toNat : CodePoint → Nat
  | .char c => c.toNat
  | .surrogate place => firstSurrogate + place

/-- The code point with a number. -/
def ofNat (n : Nat) : CodePoint :=
  if h : firstSurrogate ≤ n ∧ n < 0xE000 then
    .surrogate ⟨n - firstSurrogate, by simp only [firstSurrogate] at h ⊢; omega⟩
  else .char (Char.ofNat n)

/-- Whether a code point is no character. -/
def isSurrogate : CodePoint → Bool
  | .char _ => false
  | .surrogate _ => true

/-- The number of a surrogate that opens a pair. -/
def opensPair (n : Nat) : Bool := 0xD800 ≤ n && n < 0xDC00

/-- The number of a surrogate that closes a pair. -/
def closesPair (n : Nat) : Bool := 0xDC00 ≤ n && n < 0xE000

/-- The character that a pair of surrogates means. -/
def combine (opening closing : Nat) : CodePoint :=
  .ofNat (0x10000 + (opening - 0xD800) * 0x400 + (closing - 0xDC00))

/-- Code points are in the order of their numbers. -/
instance : LE CodePoint := ⟨fun a b => a.toNat ≤ b.toNat⟩

instance (a b : CodePoint) : Decidable (a ≤ b) := inferInstanceAs (Decidable (a.toNat ≤ b.toNat))

theorem le_def {a b : CodePoint} : a ≤ b ↔ a.toNat ≤ b.toNat := Iff.rfl

@[simp] theorem toNat_char (c : Char) : (char c).toNat = c.toNat := rfl

@[simp] theorem toNat_surrogate (place : Fin 0x800) :
    (surrogate place).toNat = 0xD800 + place := rfl

/-- The number of a character is not that of a surrogate. -/
theorem toNat_char_range (c : Char) : c.toNat < 0xD800 ∨ 0xE000 ≤ c.toNat := by
  have hvalid := c.valid
  simp only [UInt32.isValidChar, Nat.isValidChar] at hvalid
  rcases hvalid with h | ⟨h, -⟩
  · exact .inl h
  · exact .inr h

/-- A code point has the number that it is made from. -/
@[simp] theorem ofNat_toNat (x : CodePoint) : ofNat x.toNat = x := by
  cases x with
  | char c =>
    have hrange := toNat_char_range c
    rw [ofNat, dif_neg (by simp only [toNat_char, firstSurrogate]; omega), toNat_char,
      Char.ofNat_toNat]
  | surrogate place =>
    rw [ofNat, dif_pos (by simp only [toNat_surrogate, firstSurrogate]; omega)]
    simp [firstSurrogate]

theorem toNat_inj {a b : CodePoint} : a.toNat = b.toNat ↔ a = b :=
  ⟨fun h => by rw [← ofNat_toNat a, h, ofNat_toNat], congrArg _⟩

/-- Every number of a code point is below the bound. -/
theorem toNat_lt (x : CodePoint) : x.toNat < bound := by
  cases x with
  | char c =>
    have hvalid := c.valid
    simp only [UInt32.isValidChar, Nat.isValidChar] at hvalid
    simp only [toNat_char, bound, Char.toNat]
    omega
  | surrogate place =>
    simp only [toNat_surrogate, bound]
    omega

end CodePoint

end WorkloadTrace

/-- The text that a string is. -/
def String.toText (s : String) : List WorkloadTrace.CodePoint := s.toList.map .char

/-- Different strings are different texts. -/
@[simp] theorem String.toText_inj {s t : String} : s.toText = t.toText ↔ s = t := by
  rw [String.toText, String.toText,
    List.map_inj_right fun _ _ => WorkloadTrace.CodePoint.char.inj, String.toList_inj]
