import Mathlib.Data.List.TakeWhile
import WorkloadTrace.Identity
import WorkloadTrace.Proofs.Numerals

/-!
# Seeds as numbers

A seed is found by the number of digits first and by their value second. The number of a text is
what all its ASCII digits together denote in base ten. Digits of which the first is not zero denote
at least a power of ten, so a run that is longer than the greatest seed denotes a greater number:
the seed is the number whenever it has 64 bits at most, and zero otherwise. Only the digits matter,
and among them not the zeros in front.
-/

namespace WorkloadTrace

namespace Identity

/-- The number of a text: what all its ASCII digits together denote in base ten, and zero when it
has none. -/
def number (s : Text) : Nat :=
  Nat.ofDigits 10 ((s.filter Decimal.isDigit).reverse.map Decimal.digit)

theorem value_seedDigits (s : Text) : Decimal.value (seedDigits s) = number s := by
  rw [seedDigits, Decimal.value_dropWhile_zero, Decimal.value_eq_ofDigits, number]

/-- The first digit of a seed is not zero. -/
theorem digit_pos_of_seedDigits {s : Text} {c : CodePoint} {ds : Text}
    (h : seedDigits s = c :: ds) :
    0 < Decimal.digit c := by
  have hdigit : Decimal.isDigit c = true := by
    have hmem : c ∈ seedDigits s := h ▸ List.mem_cons_self
    exact (List.mem_filter.1 ((List.dropWhile_sublist _).subset hmem)).2
  refine Decimal.digit_pos hdigit fun h0 => ?_
  have hhead := List.head?_dropWhile_not (fun c => decide (c = char '0')) (s.filter Decimal.isDigit)
  rw [← seedDigits, h] at hhead
  simp [h0] at hhead

/-- More digits than the greatest seed has denote more than the greatest seed. -/
theorem maxSeed_lt_number {s : Text} (h : maxSeedDigits < (seedDigits s).length) :
    maxSeed < number s := by
  have hdigits : maxSeedDigits = 20 := by decide +kernel
  cases hs : seedDigits s with
  | nil => simp [hs] at h
  | cons c ds =>
    have hlong : 20 ≤ ds.length := by
      rw [hs, hdigits, List.length_cons] at h
      omega
    calc maxSeed < 10 ^ 20 := by decide
      _ ≤ 10 ^ ds.length := Nat.pow_le_pow_right (by decide) hlong
      _ ≤ Decimal.value (c :: ds) := Decimal.pow_length_le_value (digit_pos_of_seedDigits hs)
      _ = number s := by rw [← hs, value_seedDigits]

/-- The seed is the number of the text when that is not too great. -/
theorem seed_eq_number (s : Text) : seed s = if number s ≤ maxSeed then number s else 0 := by
  simp only [seed, value_seedDigits]
  by_cases hempty : seedDigits s = []
  · have hzero : number s = 0 := by rw [← value_seedDigits, hempty, Decimal.value_nil]
    simp [hempty, hzero]
  · by_cases hlong : maxSeedDigits < (seedDigits s).length
    · have hgreat := maxSeed_lt_number hlong
      simp [hlong, Nat.not_le.2 hgreat]
    · by_cases hgreat : maxSeed < number s
      · simp [hempty, hlong, hgreat, Nat.not_le.2 hgreat]
      · simp [hempty, hlong, hgreat, Nat.not_lt.1 hgreat]

/-- The absent value is shown without digits, so that it needs no exception. -/
theorem seedOf_eq_seed (v : Value) : seedOf v = seed v.display := by
  cases v with
  | null => decide
  | _ => rfl

/-- The seed depends on the digits alone. -/
theorem seed_congr {s t : Text} (h : seedDigits s = seedDigits t) : seed s = seed t := by
  rw [seed, seed, h]

theorem seedDigits_insert {before inserted after : Text}
    (h : ∀ c ∈ inserted, Decimal.isDigit c = false) :
    seedDigits (before ++ inserted ++ after) = seedDigits (before ++ after) := by
  have hnone : inserted.filter Decimal.isDigit = [] :=
    List.filter_eq_nil_iff.2 fun c hc => by simp [h c hc]
  simp [seedDigits, hnone]

theorem seedDigits_insert_zeros {before zeros after : Text}
    (hbefore : ∀ c ∈ before, Decimal.isDigit c = false) (hzeros : ∀ c ∈ zeros, c = char '0') :
    seedDigits (before ++ zeros ++ after) = seedDigits (before ++ after) := by
  have hnone : before.filter Decimal.isDigit = [] :=
    List.filter_eq_nil_iff.2 fun c hc => by simp [hbefore c hc]
  have hall : zeros.filter Decimal.isDigit = zeros :=
    List.filter_eq_self.2 fun c hc => by rw [hzeros c hc]; rfl
  have hdrop : zeros.dropWhile (· = char '0') = [] :=
    List.dropWhile_eq_nil_iff.2 fun c hc => by simpa using hzeros c hc
  simp [seedDigits, hnone, hall, List.dropWhile_append, hdrop]

/-- The seed of a value is the number of the text that it is shown as, and zero when that number has
more than 64 bits; counting digits first never changes it, and neither does anything inserted that
is no ASCII digit, nor zeros inserted before the first digit. -/
theorem seed_is_number_of_digits :
    (∀ v, seedOf v = if number v.display ≤ 2 ^ 64 - 1 then number v.display else 0) ∧
    (∀ v, seedOf v ≤ 2 ^ 64 - 1) ∧
    (∀ s, maxSeedDigits < (seedDigits s).length → 2 ^ 64 - 1 < number s) ∧
    (∀ before inserted after, (∀ c ∈ inserted, Decimal.isDigit c = false) →
      seed (before ++ inserted ++ after) = seed (before ++ after)) ∧
    (∀ before zeros after, (∀ c ∈ before, Decimal.isDigit c = false) → (∀ c ∈ zeros, c = char '0') →
      seed (before ++ zeros ++ after) = seed (before ++ after)) := by
  refine ⟨fun v => ?_, fun v => ?_, fun s h => maxSeed_lt_number h,
    fun before inserted after h => ?_, fun before zeros after hbefore hzeros => ?_⟩
  · rw [seedOf_eq_seed]
    exact seed_eq_number v.display
  · rw [seedOf_eq_seed]
    exact seed_le v.display
  · exact seed_congr (seedDigits_insert h)
  · exact seed_congr (seedDigits_insert_zeros hbefore hzeros)

/-- The greatest seed between zeros, hyphens and digits of another script, and a number of one digit
more. -/
theorem greatest_seed_found_in_key :
    let key := "key".toText
    let zeros := List.replicate 30 (char '0')
    let other := [char '-', char '\u0663']
    let rest := "8446744073709551615".toText
    (∀ c ∈ key, Decimal.isDigit c = false) ∧ (∀ c ∈ zeros, c = char '0') ∧
    (∀ c ∈ other, Decimal.isDigit c = false) ∧
    seed (key ++ zeros ++ (char '1' :: rest)) = 18446744073709551615 ∧
    seed (key ++ [char '1'] ++ other ++ rest) = 18446744073709551615 ∧
    maxSeedDigits < (seedDigits (key ++ char '1' :: char '0' :: rest)).length ∧
    2 ^ 64 - 1 < number (key ++ char '1' :: char '0' :: rest) := by
  intro key zeros other rest
  have hnone {s : Text} (h : s.all (fun c => !Decimal.isDigit c) = true) :
      ∀ c ∈ s, Decimal.isDigit c = false := by
    simpa using h
  have hkey : ∀ c ∈ key, Decimal.isDigit c = false := hnone (by decide)
  have hzeros : ∀ c ∈ zeros, c = char '0' := fun c hc => List.eq_of_mem_replicate hc
  have hother : ∀ c ∈ other, Decimal.isDigit c = false := hnone (by decide)
  have hlong : maxSeedDigits < (seedDigits (key ++ char '1' :: char '0' :: rest)).length := by
    decide +kernel
  obtain ⟨-, -, hgreat, hinsert, hpad⟩ := seed_is_number_of_digits
  refine ⟨hkey, hzeros, hother, ?_, ?_, hlong, hgreat _ hlong⟩
  · rw [hpad key zeros (char '1' :: rest) hkey hzeros]
    decide +kernel
  · rw [hinsert (key ++ [char '1']) other rest hother]
    decide +kernel

end Identity

end WorkloadTrace
