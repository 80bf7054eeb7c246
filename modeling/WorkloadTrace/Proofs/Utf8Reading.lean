import WorkloadTrace.Text.Utf8

/-!
# Reading what was written as UTF-8

The reader takes the bytes of a character back to the character, whatever follows them. The first
byte announces how many bytes follow and in which range the second one lies; that range excludes
the overlong forms, the surrogates and what lies beyond the last plane, none of which is written.
-/

namespace WorkloadTrace.Text

variable {rest : List UInt8}

theorem toNat_ofNat_byte {n : Nat} (h : n < 256) : (UInt8.ofNat n).toNat = n := by
  rw [UInt8.toNat_ofNat', Nat.mod_eq_of_lt h]

theorem scanUtf8_of_ascii {b : UInt8} {n : Nat} (h : LeadByte.ofNat b.toNat = .ascii n) :
    scanUtf8 (b :: rest) = some (CodePoint.ofNat n) :: scanUtf8 rest := by
  rw [scanUtf8, h]

/-- A first byte and all the bytes that it announces are read as one character. -/
theorem scanUtf8_of_leads {b : UInt8} {bs : List UInt8} {value n : Nat} {tails : List (Nat × Nat)}
    (hlead : LeadByte.ofNat b.toNat = .leads value tails)
    (htake : takeTails value tails (bs ++ rest) = (some n, rest)) :
    scanUtf8 (b :: (bs ++ rest)) = some (CodePoint.ofNat n) :: scanUtf8 rest := by
  rw [scanUtf8, hlead]
  simp only [htake, Option.map_some]

/-- A following byte adds its six bits. -/
theorem takeTails_ofNat {value lo hi d : Nat} {tails : List (Nat × Nat)} (hd : d < 64)
    (hlo : lo ≤ d + 128) (hhi : d + 128 ≤ hi) (bs : List UInt8) :
    takeTails value ((lo, hi) :: tails) (UInt8.ofNat (d + 128) :: bs) =
      takeTails (value * 64 + d) tails bs := by
  rw [takeTails, toNat_ofNat_byte (by omega), if_pos ⟨hlo, hhi⟩, Nat.add_sub_cancel]

/-- The bytes of a character of two bytes. -/
theorem scanUtf8_two {n : Nat} (hlow : 0x80 ≤ n) (hhigh : n < 0x800) :
    scanUtf8 (UInt8.ofNat (n / 64 + 192) :: ([UInt8.ofNat (n % 64 + 128)] ++ rest)) =
      some (CodePoint.ofNat n) :: scanUtf8 rest := by
  have hlead : LeadByte.ofNat (n / 64 + 192) = .leads (n / 64) [(0x80, 0xBF)] := by
    unfold LeadByte.ofNat
    rw [if_neg (by omega), if_neg (by omega), if_pos (by omega), Nat.add_sub_cancel]
  refine scanUtf8_of_leads (by rwa [toNat_ofNat_byte (by omega)]) ?_
  rw [List.cons_append, takeTails_ofNat (by omega) (by omega) (by omega)]
  have hvalue : n / 64 * 64 + n % 64 = n := by omega
  rw [hvalue]
  rfl

/-- What the first byte of a character of three bytes announces. -/
theorem leadByte_three {n : Nat} (hlow : 0x800 ≤ n) (hhigh : n < 0x10000)
    (hvalid : n < 0xD800 ∨ 0xDFFF < n) :
    ∃ lo hi, LeadByte.ofNat (n / 4096 + 224) = .leads (n / 4096) [(lo, hi), (0x80, 0xBF)] ∧
      lo ≤ n / 64 % 64 + 128 ∧ n / 64 % 64 + 128 ≤ hi := by
  unfold LeadByte.ofNat
  rw [if_neg (by omega), if_neg (by omega), if_neg (by omega)]
  by_cases hzero : n / 4096 = 0
  · exact ⟨0xA0, 0xBF, by rw [if_pos (by omega), hzero], by omega, by omega⟩
  rw [if_neg (by omega)]
  by_cases hsurrogates : n / 4096 = 0xD
  · exact ⟨0x80, 0x9F, by rw [if_pos (by omega), hsurrogates], by omega, by omega⟩
  · refine ⟨0x80, 0xBF, ?_, by omega, by omega⟩
    rw [if_neg (by omega), if_pos (by omega), Nat.add_sub_cancel]

/-- The bytes of a character of three bytes. -/
theorem scanUtf8_three {n : Nat} (hlow : 0x800 ≤ n) (hhigh : n < 0x10000)
    (hvalid : n < 0xD800 ∨ 0xDFFF < n) :
    scanUtf8 (UInt8.ofNat (n / 4096 + 224) ::
        ([UInt8.ofNat (n / 64 % 64 + 128), UInt8.ofNat (n % 64 + 128)] ++ rest)) =
      some (CodePoint.ofNat n) :: scanUtf8 rest := by
  obtain ⟨lo, hi, hlead, hlo, hhi⟩ := leadByte_three hlow hhigh hvalid
  refine scanUtf8_of_leads (by rwa [toNat_ofNat_byte (by omega)]) ?_
  rw [List.cons_append, takeTails_ofNat (by omega) hlo hhi, List.cons_append,
    takeTails_ofNat (by omega) (by omega) (by omega)]
  have hvalue : (n / 4096 * 64 + n / 64 % 64) * 64 + n % 64 = n := by omega
  rw [hvalue]
  rfl

/-- What the first byte of a character of four bytes announces. -/
theorem leadByte_four {n : Nat} (hlow : 0x10000 ≤ n) (hhigh : n < 0x110000) :
    ∃ lo hi, LeadByte.ofNat (n / 262144 + 240) =
        .leads (n / 262144) [(lo, hi), (0x80, 0xBF), (0x80, 0xBF)] ∧
      lo ≤ n / 4096 % 64 + 128 ∧ n / 4096 % 64 + 128 ≤ hi := by
  unfold LeadByte.ofNat
  rw [if_neg (by omega), if_neg (by omega), if_neg (by omega), if_neg (by omega),
    if_neg (by omega), if_neg (by omega)]
  by_cases hzero : n / 262144 = 0
  · exact ⟨0x90, 0xBF, by rw [if_pos (by omega), hzero], by omega, by omega⟩
  rw [if_neg (by omega)]
  by_cases hlast : n / 262144 = 4
  · refine ⟨0x80, 0x8F, ?_, by omega, by omega⟩
    rw [if_neg (by omega), if_pos (by omega), hlast]
  · refine ⟨0x80, 0xBF, ?_, by omega, by omega⟩
    rw [if_pos (by omega), Nat.add_sub_cancel]

/-- The bytes of a character of four bytes. -/
theorem scanUtf8_four {n : Nat} (hlow : 0x10000 ≤ n) (hhigh : n < 0x110000) :
    scanUtf8 (UInt8.ofNat (n / 262144 + 240) ::
        ([UInt8.ofNat (n / 4096 % 64 + 128), UInt8.ofNat (n / 64 % 64 + 128),
          UInt8.ofNat (n % 64 + 128)] ++ rest)) =
      some (CodePoint.ofNat n) :: scanUtf8 rest := by
  obtain ⟨lo, hi, hlead, hlo, hhi⟩ := leadByte_four hlow hhigh
  refine scanUtf8_of_leads (by rwa [toNat_ofNat_byte (by omega)]) ?_
  rw [List.cons_append, takeTails_ofNat (by omega) hlo hhi, List.cons_append,
    takeTails_ofNat (by omega) (by omega) (by omega), List.cons_append,
    takeTails_ofNat (by omega) (by omega) (by omega)]
  have hvalue : ((n / 262144 * 64 + n / 4096 % 64) * 64 + n / 64 % 64) * 64 + n % 64 = n := by
    omega
  rw [hvalue]
  rfl

/-- The bytes of a character are read as the character, whatever follows them. -/
theorem scanUtf8_utf8EncodeChar (c : Char) (rest : List UInt8) :
    scanUtf8 (String.utf8EncodeChar c ++ rest) = some (char c) :: scanUtf8 rest := by
  have hvalid : c.toNat < 0xD800 ∨ 0xDFFF < c.toNat ∧ c.toNat < 0x110000 := c.valid
  have hc : CodePoint.ofNat c.toNat = char c := CodePoint.ofNat_toNat (char c)
  have hn : c.val.toNat = c.toNat := rfl
  simp only [String.utf8EncodeChar, hn]
  split
  · next hone =>
    have hlead : LeadByte.ofNat c.toNat = .ascii c.toNat := by
      rw [LeadByte.ofNat, if_pos (by omega)]
    rw [List.singleton_append, scanUtf8_of_ascii (by rwa [toNat_ofNat_byte (by omega)]), hc]
  · split
    · next hone htwo =>
      have hfirst : c.toNat / 64 % 32 = c.toNat / 64 := by omega
      rw [hfirst, List.cons_append, scanUtf8_two (by omega) (by omega), hc]
    · split
      · next hone htwo hthree =>
        have hfirst : c.toNat / 4096 % 16 = c.toNat / 4096 := by omega
        rw [hfirst, List.cons_append, scanUtf8_three (by omega) (by omega) (by omega), hc]
      · next hone htwo hthree =>
        have hfirst : c.toNat / 262144 % 8 = c.toNat / 262144 := by omega
        rw [hfirst, List.cons_append, scanUtf8_four (by omega) (by omega), hc]

/-- Reading the bytes of a text without surrogates gives its characters and no gap. -/
theorem scanUtf8_utf8 {s : Text} (h : hasSurrogate s = false) :
    scanUtf8 (utf8 s) = s.map some := by
  induction s with
  | nil => rw [utf8, List.flatMap_nil, scanUtf8, List.map_nil]
  | cons c s ih =>
    obtain ⟨hc, hs⟩ : c.isSurrogate = false ∧ hasSurrogate s = false := by
      simpa [hasSurrogate] using h
    cases c with
    | surrogate place => cases hc
    | char c =>
      have hcons : utf8 (char c :: s) = String.utf8EncodeChar c ++ utf8 s := rfl
      rw [hcons, scanUtf8_utf8EncodeChar, ih hs, List.map_cons]

/-- The forgiving reader takes the bytes of a text without surrogates back to the text. -/
theorem ofUtf8Lossy_utf8 {s : Text} (h : hasSurrogate s = false) : ofUtf8Lossy (utf8 s) = s := by
  rw [ofUtf8Lossy, scanUtf8_utf8 h, List.map_map]
  exact List.map_id s

end WorkloadTrace.Text
