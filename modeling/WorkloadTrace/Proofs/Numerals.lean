import Mathlib.Data.Nat.Digits.Lemmas
import WorkloadTrace.Trouble

/-!
# The lengths of numerals

What a run of digits denotes is the sum of the digits times their powers of ten. So a run that does
not begin with zero denotes at least a power of ten, and a numeral is not too long exactly when its
number is below the power of ten of the greatest length.
-/

namespace WorkloadTrace

namespace Decimal

/-- The number that a digit stands for. -/
def digit (c : CodePoint) : Nat := c.toNat - '0'.toNat

/-- A digit other than zero stands for a positive number. -/
theorem digit_pos {c : CodePoint} (h : isDigit c = true) (h0 : c ≠ char '0') : 0 < digit c := by
  have hlow : '0'.toNat ≤ c.toNat := by
    simp only [isDigit, Bool.and_eq_true, decide_eq_true_eq] at h
    exact h.1
  have hne : c.toNat ≠ '0'.toNat := fun he => h0 (CodePoint.toNat_inj.1 he)
  simp only [digit]
  omega

/-- What a run of digits denotes is the sum of the digits times their powers of ten, the last digit
counting units. -/
theorem value_eq_ofDigits (ds : Text) : value ds = Nat.ofDigits 10 (ds.reverse.map digit) := by
  induction ds using List.reverseRecOn with
  | nil => rfl
  | append_singleton ds c ih =>
    rw [List.reverse_append, List.reverse_singleton, List.singleton_append, List.map_cons,
      Nat.ofDigits_cons, ← ih, value_append_singleton, Nat.add_comm]
    rfl

/-- Removing the zeros in front leaves the number that a run of digits denotes. -/
theorem value_dropWhile_zero (ds : Text) : value (ds.dropWhile (· = char '0')) = value ds := by
  induction ds with
  | nil => rfl
  | cons c ds ih =>
    by_cases h : c = char '0'
    · rw [List.dropWhile_cons_of_pos (by simpa using h), ih, h, value_zero_cons]
    · rw [List.dropWhile_cons_of_neg (by simpa using h)]

/-- A run of digits that does not begin with zero denotes at least the power of ten of its first
digit. -/
theorem pow_length_le_value {c : CodePoint} {ds : Text} (h : 0 < digit c) :
    10 ^ ds.length ≤ value (c :: ds) := by
  have hplaces : value (c :: ds) =
      Nat.ofDigits 10 (ds.reverse.map digit) + 10 ^ ds.length * digit c := by
    rw [value_eq_ofDigits, List.reverse_cons, List.map_append, Nat.ofDigits_append]
    simp
  have hfirst : 10 ^ ds.length ≤ 10 ^ ds.length * digit c := Nat.le_mul_of_pos_right _ h
  omega

/-- A run of digits denotes less than the power of ten of its length. -/
theorem value_lt_pow_length {ds : Text} (h : ∀ c ∈ ds, isDigit c = true) :
    value ds < 10 ^ ds.length := by
  have hdigit : ∀ d ∈ ds.reverse.map digit, d < 10 := by
    intro d hd
    obtain ⟨c, hc, rfl⟩ := List.mem_map.1 hd
    have hrange := h c (List.mem_reverse.1 hc)
    simp only [isDigit, Bool.and_eq_true, decide_eq_true_eq] at hrange
    have hzero : '0'.toNat = 0x30 := rfl
    simp only [digit, hzero]
    omega
  have hlt := Nat.ofDigits_lt_base_pow_length (by decide) hdigit
  rwa [← value_eq_ofDigits, List.length_map, List.length_reverse] at hlt

/-- A numeral is not too long exactly when its number is below the power of ten of the greatest
length. -/
theorem fits_iff {n : Nat} : fits n = true ↔ n < 10 ^ maxDigits := by
  rw [fits, decide_eq_true_eq]
  constructor
  · intro hlength
    calc n = value (ofNat n) := (value_ofNat n).symm
      _ < 10 ^ (ofNat n).length := value_lt_pow_length fun c hc => isDigit_of_mem_ofNat hc
      _ ≤ 10 ^ maxDigits := Nat.pow_le_pow_right (by decide) hlength
  · intro hn
    rw [ofNat, List.length_map]
    exact Nat.toDigits_length 10 n maxDigits (by decide) hn

/-- A number of no more than twenty digits is far below that power. -/
theorem le_pow_maxDigits {n : Nat} (h : n ≤ 10 ^ 20) : n ≤ 10 ^ maxDigits :=
  h.trans (Nat.pow_le_pow_right (by decide) (by decide))

/-- The length of a numeral is all that can be wrong with it. -/
theorem eq_longNumeral_of_trouble? {n : Nat} {t : Trouble} (h : trouble? n = some t) :
    t = .longNumeral := by
  unfold trouble? at h
  split at h
  · cases h
  · exact (Option.some.inj h).symm

/-- A number is written exactly when it is below the power of ten of the greatest length. -/
theorem trouble?_eq_none_iff_lt {n : Nat} : trouble? n = none ↔ n < 10 ^ maxDigits :=
  trouble?_eq_none_iff.trans fits_iff

/-- Numbers are written one after the other exactly when they all can be. -/
theorem findSome?_trouble? (ns : List Nat) :
    ns.findSome? trouble? = if ∀ n ∈ ns, n < 10 ^ maxDigits then none else some .longNumeral := by
  split
  · next h => exact List.findSome?_eq_none_iff.2 fun n hn => trouble?_eq_none_iff_lt.2 (h n hn)
  · next h =>
    simp only [← trouble?_eq_none_iff_lt, ← List.findSome?_eq_none_iff] at h
    obtain ⟨t, ht⟩ := Option.ne_none_iff_exists'.1 h
    obtain ⟨n, -, hn⟩ := List.exists_of_findSome?_eq_some ht
    rw [ht, eq_longNumeral_of_trouble? hn]

end Decimal

end WorkloadTrace
