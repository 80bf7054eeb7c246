import WorkloadTrace.Text

/-!
# Decimal numerals

The numerals that traces, messages and identities contain: ASCII digits without leading zeros,
after a minus sign for a negative number. `Decimal.value` reads any run of digits, and reading a
numeral gives its number back.
-/

namespace WorkloadTrace.Decimal

/-- An ASCII digit. -/
def isDigit (c : CodePoint) : Bool := 0x30 ≤ c.toNat && c.toNat ≤ 0x39

/-- The numeral of a natural number. -/
def ofNat (n : Nat) : Text := (Nat.toDigits 10 n).map char

/-- The numeral of an integer. -/
def ofInt : Int → Text
  | .ofNat n => ofNat n
  | .negSucc n => char '-' :: ofNat (n + 1)

/-- The most digits that a numeral can have. -/
def maxDigits : Nat := 4300

/-- Whether the numeral of a number is not too long to be written or read. -/
def fits (n : Nat) : Bool := (ofNat n).length ≤ maxDigits

/-- The number that a run of digits denotes; the empty run denotes zero. -/
def value (ds : Text) : Nat := ds.foldl (fun n c => 10 * n + (c.toNat - 0x30)) 0

theorem value_map_char (ds : List Char) : value (ds.map char) = Nat.ofDigitChars 10 ds 0 :=
  List.foldl_map

theorem value_append_singleton (ds : Text) (c : CodePoint) :
    value (ds ++ [c]) = 10 * value ds + (c.toNat - 0x30) := List.foldl_append

@[simp] theorem value_nil : value [] = 0 := rfl

/-- Reading a numeral gives its number back. -/
@[simp] theorem value_ofNat (n : Nat) : value (ofNat n) = n := by
  rw [ofNat, value_map_char, Nat.ofDigitChars_toDigits (by decide) (by decide)]

theorem isDigit_char (c : Char) : isDigit (char c) = c.isDigit := rfl

/-- A numeral consists of digits. -/
theorem isDigit_of_mem_ofNat {n : Nat} {c : CodePoint} (h : c ∈ ofNat n) : isDigit c = true := by
  obtain ⟨d, hd, rfl⟩ := List.mem_map.1 h
  rw [isDigit_char]
  exact Nat.isDigit_of_mem_toDigits (by decide) (by decide) hd

/-- Distinct numbers have distinct numerals. -/
theorem ofNat_injective {m n : Nat} (h : ofNat m = ofNat n) : m = n := by
  rw [← value_ofNat m, h, value_ofNat]

/-- A numeral has at least one digit. -/
theorem ofNat_ne_nil (n : Nat) : ofNat n ≠ [] := by
  simp [ofNat, Nat.toDigits_ne_nil]

/-- Zeros in front do not change what a run of digits denotes. -/
theorem value_zero_cons (ds : Text) : value (char '0' :: ds) = value ds := rfl

end WorkloadTrace.Decimal
