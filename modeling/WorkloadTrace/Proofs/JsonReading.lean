import WorkloadTrace.Proofs.JsonWriting

/-!
# Reading the forms of a document

The reader takes every form of a value to the value: it reads the value and leaves what follows. It
does so under all rules, except that rules which ask surrogates to form pairs know only the forms in
which they do. What may follow a numeral has to end it, which a blank, a comma, a brace and the end
of the text do.
-/

namespace WorkloadTrace

/-- Only the numeral of zero begins with a zero. -/
theorem Decimal.head?_ofNat_eq_zero {n : Nat} : (ofNat n).head? = some (char '0') ↔ n = 0 := by
  induction n using Nat.strongRecOn with
  | ind n ih =>
    have hdigits : ofNat n = if n < 10 then [char n.digitChar]
        else ofNat (n / 10) ++ [char (n % 10).digitChar] := by
      simp only [ofNat]
      rw [Nat.toDigits_eq_if (by decide)]
      split <;> simp
    rw [hdigits]
    by_cases hn : n < 10
    · simp [hn]
    · have hsmaller := ih (n / 10) (by omega)
      obtain ⟨c, cs, hcs⟩ := List.exists_cons_of_ne_nil (ofNat_ne_nil (n / 10))
      rw [hcs, List.head?_cons, Option.some.injEq] at hsmaller
      rw [if_neg hn, hcs, List.cons_append, List.head?_cons, Option.some.injEq, hsmaller]
      omega

namespace Json

/-- What may follow a value: nothing, a blank, a comma or a closing brace. -/
def Follows (rest : Text) : Prop :=
  ∀ c ∈ rest.head?, isBlank c = true ∨ c = char ',' ∨ c = char '\x7d'

variable {paired : Bool}

section Characters

/-- A hexadecimal digit is read as its value. -/
theorem hexValue?_of_isHexDigit {d : Nat} {c : CodePoint} (h : IsHexDigit d c) :
    hexValue? c = some d := by
  obtain ⟨hd, hc⟩ := h
  have hall : ∀ d < 16, hexValue? (char d.digitChar) = some d ∧
      hexValue? (char d.digitChar.toUpper) = some d := by decide
  rcases hc with rfl | rfl
  · exact (hall d hd).1
  · exact (hall d hd).2

/-- Every code point has at least one byte. -/
theorem length_le_utf8Length (s : Text) : s.length ≤ Text.utf8Length s := by
  induction s with
  | nil => exact Nat.zero_le _
  | cons c cs ih =>
    have hc : 0 < (Text.utf8Bytes c).length := by
      cases c with
      | char c =>
        rw [Text.utf8Bytes, String.length_utf8EncodeChar]
        exact c.utf8Size_pos
      | surrogate place => exact Nat.succ_pos _
    simp only [Text.utf8Length, Text.utf8, List.flatMap_cons, List.length_append,
      List.length_cons] at ih ⊢
    omega

/-- Four hexadecimal digits are read as the unit that they write. -/
theorem hexCode_unitForm {n : Nat} {ds : Text} (h : UnitForm n ds) (rest : Text) :
    hexCode (ds ++ rest) = .ok (n, rest) := by
  cases h with
  | @digits d₃ d₂ d₁ d₀ c₃ c₂ c₁ c₀ h₃ h₂ h₁ h₀ =>
    have hbytes := length_le_utf8Length [c₃, c₂, c₁, c₀]
    have hlong : ¬Text.utf8Length [c₃, c₂, c₁, c₀] < 4 := Nat.not_lt.2 hbytes
    simp [hexCode, hlong, hexDigits, hexValue?_of_isHexDigit h₃, hexValue?_of_isHexDigit h₂,
      hexValue?_of_isHexDigit h₁, hexValue?_of_isHexDigit h₀]

/-- The two surrogates that mean a character beyond the first plane. -/
theorem combine_surrogates {c : Char} (hc : 0x10000 ≤ c.toNat) :
    let opening := 0xD800 + (c.toNat - 0x10000) / 0x400
    let closing := 0xDC00 + (c.toNat - 0x10000) % 0x400
    CodePoint.opensPair opening = true ∧ CodePoint.closesPair opening = false ∧
      CodePoint.closesPair closing = true ∧ CodePoint.combine opening closing = char c := by
  intro opening closing
  have hvalid : c.toNat < 0x110000 := CodePoint.toNat_lt (char c)
  have hsum : 0x10000 + (opening - 0xD800) * 0x400 + (closing - 0xDC00) = c.toNat := by omega
  refine ⟨?_, ?_, ?_, ?_⟩
  · simp only [CodePoint.opensPair, Bool.and_eq_true, decide_eq_true_eq]
    omega
  · simp only [CodePoint.closesPair, Bool.and_eq_false_iff, decide_eq_false_iff_not]
    omega
  · simp only [CodePoint.closesPair, Bool.and_eq_true, decide_eq_true_eq]
    omega
  · rw [CodePoint.combine, hsum]
    exact CodePoint.ofNat_toNat (char c)

/-- A unit that is a character is read as the character, where surrogates have to form pairs. -/
theorem pairedEscape_unitForm {c : Char} {ds : Text} (h : UnitForm c.toNat ds) (rest : Text) :
    pairedEscape (ds ++ rest) = .ok (char c, rest) := by
  have hc : CodePoint.ofNat c.toNat = char c := CodePoint.ofNat_toNat (char c)
  simp [pairedEscape, hexCode_unitForm h, CodePoint.closesPair_toNat, CodePoint.opensPair_toNat,
    hc, bind, Except.bind, pure, Except.pure]

/-- An escape that forms no pair with what follows is read by itself. -/
theorem looseEscape_of_unpaired {c : CodePoint} {ds rest : Text} (h : UnitForm c.toNat ds)
    (hpair : pair? c.toNat rest = none) : looseEscape (ds ++ rest) = .ok (c, rest) := by
  simp [looseEscape, hexCode_unitForm h, hpair, bind, Except.bind, pure, Except.pure]

/-- Nothing is paired with a unit that opens no pair. -/
theorem pair?_eq_none_of_not_opens {unit : Nat} (h : CodePoint.opensPair unit = false)
    (rest : Text) : pair? unit rest = none := by
  unfold pair?
  split
  · split <;> simp [h]
  · rfl

/-- A unit that is a character is read as it also where surrogates may stand alone. -/
theorem looseEscape_unitForm {c : Char} {ds : Text} (h : UnitForm c.toNat ds) (rest : Text) :
    looseEscape (ds ++ rest) = .ok (char c, rest) :=
  looseEscape_of_unpaired (c := char c) h
    (pair?_eq_none_of_not_opens (CodePoint.opensPair_toNat c) rest)

/-- Two units that write a character beyond the first plane are read as it. -/
theorem pairedEscape_pair {c : Char} {ds es : Text} (hc : 0x10000 ≤ c.toNat)
    (hopening : UnitForm (0xD800 + (c.toNat - 0x10000) / 0x400) ds)
    (hclosing : UnitForm (0xDC00 + (c.toNat - 0x10000) % 0x400) es) (rest : Text) :
    pairedEscape (ds ++ char '\\' :: char 'u' :: (es ++ rest)) = .ok (char c, rest) := by
  obtain ⟨hopens, hnot, hcloses, hcombine⟩ := combine_surrogates hc
  simp [pairedEscape, hexCode_unitForm hopening, hexCode_unitForm hclosing, hopens, hnot, hcloses,
    hcombine, bind, Except.bind, pure, Except.pure]

/-- They are so also where surrogates may stand alone. -/
theorem looseEscape_pair {c : Char} {ds es : Text} (hc : 0x10000 ≤ c.toNat)
    (hopening : UnitForm (0xD800 + (c.toNat - 0x10000) / 0x400) ds)
    (hclosing : UnitForm (0xDC00 + (c.toNat - 0x10000) % 0x400) es) (rest : Text) :
    looseEscape (ds ++ char '\\' :: char 'u' :: (es ++ rest)) = .ok (char c, rest) := by
  obtain ⟨hopens, -, hcloses, hcombine⟩ := combine_surrogates hc
  simp [looseEscape, pair?, hexCode_unitForm hopening, hexCode_unitForm hclosing, hopens, hcloses,
    hcombine, bind, Except.bind, pure, Except.pure]

/-- A hexadecimal escape means the same whether or not surrogates have to form pairs. -/
theorem escape_u {rules : Rules} {s rest : Text} {c : CodePoint}
    (hpaired : pairedEscape s = .ok (c, rest)) (hloose : looseEscape s = .ok (c, rest)) :
    escape rules (char 'u' :: s) = .ok (c, rest) := by
  have hu : escape rules (char 'u' :: s) =
      if rules.pairedSurrogates then pairedEscape s else looseEscape s := rfl
  rw [hu, hpaired, hloose, ite_self]

/-- A character that is escaped is read before the rest of its text. -/
theorem quotedWithin_backslash {rules : Rules} {s rest : Text} {c : CodePoint}
    (h : escape rules s = .ok (c, rest)) (fuel : Nat) :
    quotedWithin rules (fuel + 1) (char '\\' :: s) =
      (quotedWithin rules fuel rest).map fun r => (c :: r.1, r.2) := by
  have hquote : char '\\' ≠ char '\x22' := by decide
  simp only [quotedWithin, hquote, if_false, if_true, h]
  rfl

/-- A form of a character is read as the character. -/
theorem quotedWithin_charForm (rules : Rules) {c : CodePoint} {t : Text} (h : CharForm c t)
    (fuel : Nat) (rest : Text) :
    quotedWithin rules (fuel + 1) (t ++ rest) =
      (quotedWithin rules fuel rest).map fun r => (c :: r.1, r.2) := by
  cases h with
  | @plain c hcontrol hquote hbackslash =>
    have hplain : ¬(char c).toNat < 0x20 := Nat.not_lt.2 hcontrol
    rw [List.singleton_append, quotedWithin, if_neg hquote, if_neg hbackslash, if_neg hplain,
      if_neg (by simp [CodePoint.isSurrogate])]
    rfl
  | short h =>
    simp only [shortEscapes, List.mem_cons, Prod.mk.injEq, List.not_mem_nil, or_false] at h
    refine quotedWithin_backslash ?_ fuel
    rcases h with ⟨rfl, rfl⟩ | ⟨rfl, rfl⟩ | ⟨rfl, rfl⟩ | ⟨rfl, rfl⟩ | ⟨rfl, rfl⟩ | ⟨rfl, rfl⟩ |
      ⟨rfl, rfl⟩ | ⟨rfl, rfl⟩ <;> rfl
  | escape h =>
    exact quotedWithin_backslash
      (escape_u (pairedEscape_unitForm h rest) (looseEscape_unitForm h rest)) fuel
  | pair hc hopening hclosing =>
    rw [List.append_assoc]
    exact quotedWithin_backslash (escape_u (pairedEscape_pair hc hopening hclosing rest)
      (looseEscape_pair hc hopening hclosing rest)) fuel

/-- What follows a surrogate that stands for itself does not begin with the escape of one that would
close a pair with it. -/
theorem pair?_eq_none_of_textForm {place : Fin 0x800} {s t : Text} (h : TextForm false s t)
    (halone : Unpaired (.surrogate place) s) (rest : Text) :
    pair? (CodePoint.surrogate place).toNat (t ++ char '\x22' :: rest) = none := by
  cases hopens : CodePoint.opensPair (CodePoint.surrogate place).toNat with
  | false => exact pair?_eq_none_of_not_opens hopens _
  | true =>
    have hbackslash {c : Char} (hc : char c ≠ char '\\') (u : Text) :
        pair? (CodePoint.surrogate place).toNat (char c :: u) = none := by
      unfold pair?
      split
      · next heq => exact absurd (List.cons.inj heq).1 hc
      · rfl
    have hunit {n : Nat} {ds u : Text} (hds : UnitForm n ds)
        (hn : CodePoint.closesPair n = false) :
        pair? (CodePoint.surrogate place).toNat (char '\\' :: char 'u' :: (ds ++ u)) = none := by
      simp [pair?, hexCode_unitForm hds, hn]
    cases h with
    | nil => exact hbackslash (by decide) rest
    | @cons c s t u hc hrest =>
      cases hc with
      | plain hcontrol hquote hne => exact hbackslash hne _
      | @short c e h =>
        simp only [shortEscapes, List.mem_cons, Prod.mk.injEq, List.not_mem_nil, or_false] at h
        have hu : e ≠ char 'u' := by
          rcases h with ⟨rfl, -⟩ | ⟨rfl, -⟩ | ⟨rfl, -⟩ | ⟨rfl, -⟩ | ⟨rfl, -⟩ | ⟨rfl, -⟩ |
            ⟨rfl, -⟩ | ⟨rfl, -⟩ <;> decide
        unfold pair?
        split
        · next heq => exact absurd (List.cons.inj (List.cons.inj heq).2).1 hu
        · rfl
      | @escape c ds h =>
        simpa using hunit (u := u ++ char '\x22' :: rest) h (CodePoint.closesPair_toNat c)
      | @pair c ds es hc hopening hclosing =>
        simpa using hunit (u := char '\\' :: char 'u' :: (es ++ (u ++ char '\x22' :: rest)))
          hopening (combine_surrogates hc).2.1
    | @surrogate next s ds u hpaired h halone' hrest =>
      have hcloses := halone hopens (.surrogate next) rfl
      simpa using hunit (u := u ++ char '\x22' :: rest) h hcloses

/-- A form of a text and a quote are read as the text. -/
theorem quotedWithin_textForm {rules : Rules}
    (hrules : rules.pairedSurrogates = true → paired = true)
    {s t : Text} (h : TextForm paired s t) (fuel : Nat) (hfuel : s.length < fuel) (rest : Text) :
    quotedWithin rules fuel (t ++ char '\x22' :: rest) = .ok (s, rest) := by
  induction h generalizing fuel with
  | nil =>
    obtain ⟨fuel, rfl⟩ := Nat.exists_eq_add_of_lt hfuel
    rfl
  | @cons c s t u hc hrest ih =>
    obtain ⟨fuel, rfl⟩ : ∃ n, fuel = n + 1 := ⟨fuel - 1, by omega⟩
    rw [List.append_assoc, quotedWithin_charForm rules hc,
      ih fuel (Nat.lt_of_succ_lt_succ hfuel)]
    rfl
  | @surrogate place s ds u hpaired h halone hrest ih =>
    obtain ⟨fuel, rfl⟩ : ∃ n, fuel = n + 1 := ⟨fuel - 1, by omega⟩
    subst hpaired
    have hloose : rules.pairedSurrogates = false := by simpa using hrules
    have hescape : escape rules (char 'u' :: (ds ++ (u ++ char '\x22' :: rest))) =
        .ok (.surrogate place, u ++ char '\x22' :: rest) := by
      have hu : escape rules (char 'u' :: (ds ++ (u ++ char '\x22' :: rest))) =
          looseEscape (ds ++ (u ++ char '\x22' :: rest)) := by
        simp [escape, hloose]
      rw [hu, looseEscape_of_unpaired h (pair?_eq_none_of_textForm hrest halone rest)]
    rw [List.append_assoc]
    refine (quotedWithin_backslash hescape fuel).trans ?_
    rw [ih fuel (Nat.lt_of_succ_lt_succ hfuel)]
    rfl

/-- A quoted text is read up to its quote, with the fuel that its length gives. -/
theorem quoted_textForm {rules : Rules} (hrules : rules.pairedSurrogates = true → paired = true)
    {s t : Text} (h : TextForm paired s t) (rest : Text) :
    quoted rules (t ++ char '\x22' :: rest) = .ok (s, rest) := by
  refine quotedWithin_textForm hrules h _ ?_ rest
  have hlength := length_le_of_textForm h
  rw [List.length_append, List.length_cons]
  omega

end Characters

section Numerals

/-- What may follow a numeral does not go on with it. -/
theorem not_isDigit_of_follows {rest : Text} (h : Follows rest) :
    ∀ c ∈ rest.head?, Decimal.isDigit c = false ∧ c ≠ char '.' ∧ c ≠ char 'e' ∧ c ≠ char 'E' := by
  intro c hc
  rcases h c hc with hblank | rfl | rfl
  · simp only [isBlank, Bool.or_eq_true, decide_eq_true_eq] at hblank
    rcases hblank with ((rfl | rfl) | rfl) | rfl <;> decide
  · decide
  · decide

/-- The digits of a numeral are read as far as they go. -/
theorem someDigits_ofNat (n : Nat) {rest : Text} (h : Follows rest) :
    someDigits (Decimal.ofNat n ++ rest) = .ok (Decimal.ofNat n, rest) := by
  have hdigits : ∀ c ∈ Decimal.ofNat n, Decimal.isDigit c = true := fun c hc =>
    Decimal.isDigit_of_mem_ofNat hc
  have hend : rest.takeWhile Decimal.isDigit = [] ∧ rest.dropWhile Decimal.isDigit = rest := by
    cases rest with
    | nil => exact ⟨rfl, rfl⟩
    | cons c cs =>
      have hc := (not_isDigit_of_follows h c rfl).1
      simp [hc]
  obtain ⟨c, cs, hcs⟩ := List.exists_cons_of_ne_nil (Decimal.ofNat_ne_nil n)
  have hsome : someDigits (Decimal.ofNat n ++ rest) =
      .ok ((Decimal.ofNat n ++ rest).takeWhile Decimal.isDigit,
        (Decimal.ofNat n ++ rest).dropWhile Decimal.isDigit) := by
    have hc : Decimal.isDigit c = true := hdigits c (by simp [hcs])
    simp [someDigits, hcs, hc]
  rw [hsome, List.takeWhile_append_of_pos hdigits, List.dropWhile_append_of_pos hdigits, hend.1,
    hend.2, List.append_nil]

/-- There are no decimal places in what may follow a numeral. -/
theorem fraction_of_follows {rest : Text} (h : Follows rest) :
    fraction rest = .ok (none, rest) := by
  cases rest with
  | nil => rfl
  | cons c cs =>
    have hc := (not_isDigit_of_follows h c rfl).2.1
    unfold fraction
    split
    · next heq => exact absurd (List.cons.inj heq).1 hc
    · rfl

/-- Nor is there an exponent. -/
theorem exponent_of_follows {rest : Text} (h : Follows rest) :
    exponent rest = .ok (none, rest) := by
  cases rest with
  | nil => rfl
  | cons c cs =>
    obtain ⟨-, -, he, hE⟩ := not_isDigit_of_follows h c rfl
    simp [exponent, he, hE]

/-- A numeral that is not too long is read as its number. -/
theorem number_ofNat (rules : Rules) {n : Nat} (hn : (Decimal.ofNat n).length ≤ maxIntegerDigits)
    {rest : Text} (h : Follows rest) :
    number rules (Decimal.ofNat n ++ rest) = .ok (.int n, rest) := by
  obtain ⟨c, cs, hcs⟩ := List.exists_cons_of_ne_nil (Decimal.ofNat_ne_nil n)
  have hdigit : Decimal.isDigit c = true := Decimal.isDigit_of_mem_ofNat (n := n) (by simp [hcs])
  have hminus : c ≠ char '-' := by rintro rfl; exact absurd hdigit (by decide)
  have hletter : c ≠ char 'I' := by rintro rfl; exact absurd hdigit (by decide)
  have hzero : ¬((Decimal.ofNat n).head? = some (char '0') ∧ 1 < (Decimal.ofNat n).length) := by
    rintro ⟨hhead, hlong⟩
    rw [Decimal.head?_ofNat_eq_zero.1 hhead] at hlong
    exact absurd hlong (by decide)
  have hnumber : number rules (Decimal.ofNat n ++ rest) =
      unsignedNumber rules false (Decimal.ofNat n ++ rest) (Decimal.ofNat n ++ rest) := by
    rw [hcs, List.cons_append]
    unfold number
    split
    · next heq => exact absurd (List.cons.inj heq).1 hminus
    · rfl
  have hlong : ¬maxIntegerDigits < (Decimal.ofNat n).length := Nat.not_lt.2 hn
  rw [hnumber]
  unfold unsignedNumber
  split
  · next heq => exact absurd heq (by simp [hcs])
  · next heq => exact absurd (List.cons.inj (hcs ▸ heq)).1 hletter
  · simp only [someDigits_ofNat n h, fraction_of_follows h, exponent_of_follows h, bind,
      Except.bind, pure, Except.pure]
    simp [hzero, hlong]

end Numerals

section Values

/-- Blanks are skipped. -/
theorem skipBlanks_append {ws : Text} (h : Blanks ws) (rest : Text) :
    skipBlanks (ws ++ rest) = skipBlanks rest := by
  induction ws with
  | nil => rfl
  | cons c cs ih =>
    have hc : isBlank c = true := h c List.mem_cons_self
    have hcs := ih fun d hd => h d (List.mem_cons_of_mem c hd)
    simpa [skipBlanks, List.dropWhile_cons, hc] using hcs

/-- Nothing else is. -/
theorem skipBlanks_cons {c : CodePoint} (h : isBlank c = false) (rest : Text) :
    skipBlanks (c :: rest) = c :: rest := by
  simp [skipBlanks, h]

/-- What may follow a numeral may do so behind blanks. -/
theorem Follows.append_of_blanks {ws rest : Text} (h : Blanks ws) (hrest : Follows rest) :
    Follows (ws ++ rest) := by
  cases ws with
  | nil => exact hrest
  | cons c cs =>
    intro d hd
    obtain rfl : c = d := by simpa using hd
    exact .inl (h c List.mem_cons_self)

/-- The form of a value that is no list and no object is read as the value. -/
theorem scalar_scalarForm {rules : Rules} (hrules : rules.pairedSurrogates = true → paired = true)
    {v : Value} {t rest : Text} (h : ScalarForm paired v t) (hrest : Follows rest) :
    scalar rules (t ++ rest) = .ok (v, rest) := by
  cases h with
  | @text s t h =>
    have hquoted := quoted_textForm hrules h rest
    have happend : (char '\x22' :: t ++ [char '\x22']) ++ rest =
        char '\x22' :: (t ++ char '\x22' :: rest) := by simp
    rw [happend]
    simp [scalar, hquoted, bind, Except.bind, pure, Except.pure]
  | @natural n h =>
    have hnumber := number_ofNat rules h hrest
    obtain ⟨c, cs, hcs⟩ := List.exists_cons_of_ne_nil (Decimal.ofNat_ne_nil n)
    have hdigit : Decimal.isDigit c = true := Decimal.isDigit_of_mem_ofNat (n := n) (by simp [hcs])
    have hother : ∀ d : CodePoint, Decimal.isDigit d = false → c ≠ d := by
      rintro d hd rfl
      exact absurd hdigit (by simp [hd])
    have hscalar : scalar rules (Decimal.ofNat n ++ rest) =
        number rules (Decimal.ofNat n ++ rest) := by
      rw [hcs, List.cons_append]
      simp [scalar, hdigit, hother (char '\x22') (by decide), hother (char 't') (by decide),
        hother (char 'f') (by decide), hother (char 'n') (by decide), hother (char 'N') (by decide)]
    rw [hscalar, hnumber]

/-- It is so behind blanks, however many objects may be opened. -/
theorem value_scalarForm {rules : Rules} (hrules : rules.pairedSurrogates = true → paired = true)
    (depth : Nat) {v : Value} {ws t rest : Text} (h : ScalarForm paired v t) (hws : Blanks ws)
    (hrest : Follows rest) :
    value rules depth (ws ++ t ++ rest) = .ok (v, rest) := by
  have hscalar := scalar_scalarForm hrules h hrest
  obtain ⟨c, cs, rfl, hc⟩ := scalarForm_head h
  have hother : ∀ d : CodePoint, d ≠ char '\x22' → Decimal.isDigit d = false → c ≠ d := by
    rintro d hquote hd rfl
    rcases hc with rfl | hc
    · exact hquote rfl
    · exact absurd hc (by simp [hd])
  have hblank : isBlank c = false := by
    simp [isBlank, hother (char ' ') (by decide) (by decide),
      hother (char '\t') (by decide) (by decide),
      hother (char '\n') (by decide) (by decide), hother (char '\r') (by decide) (by decide)]
  have hskip : skipBlanks (ws ++ (c :: cs) ++ rest) = c :: (cs ++ rest) := by
    rw [List.append_assoc, skipBlanks_append hws, List.cons_append, skipBlanks_cons hblank]
  cases depth with
  | zero =>
    unfold value
    rw [hskip]
    split
    · next heq => exact absurd (List.cons.inj heq).1 (hother (char '[') (by decide) (by decide))
    · next heq => exact absurd (List.cons.inj heq).1 (hother (char '\x7b') (by decide) (by decide))
    · exact hscalar
  | succ depth =>
    unfold value
    rw [hskip]
    split
    · next heq => exact absurd (List.cons.inj heq).1 (hother (char '[') (by decide) (by decide))
    · next heq => exact absurd (List.cons.inj heq).1 (hother (char '\x7b') (by decide) (by decide))
    · exact hscalar

end Values

section Objects

/-- A reader of values that takes every form of a value to the value. -/
def Reads (read : Text → Outcome (Value × Text)) (member : Value → Text → Prop) : Prop :=
  ∀ {v : Value} {ws t rest : Text}, member v t → Blanks ws → Follows rest →
    read (ws ++ t ++ rest) = .ok (v, rest)

variable {read : Text → Outcome (Value × Text)} {member : Value → Text → Prop} {rules : Rules}
  (hrules : rules.pairedSurrogates = true → paired = true)

include hrules

/-- A name is read with the colon behind it, before which there may be blanks. -/
theorem name_textForm {k t before rest : Text} (h : TextForm paired k t)
    (hbefore : Blanks before) :
    name rules (char '\x22' :: (t ++ char '\x22' :: (before ++ char ':' :: rest))) =
      .ok (k, rest) := by
  have hskip : skipBlanks (before ++ char ':' :: rest) = char ':' :: rest := by
    rw [skipBlanks_append hbefore, skipBlanks_cons (by decide)]
  simp [name, quoted_textForm hrules h, hskip, bind, Except.bind, pure, Except.pure]

/-- A form of an entry is read as its name and its value, up to blanks. -/
theorem entry_entryForm (hread : Reads read member) {e : Text × Value} {t : Text}
    (h : EntryForm paired member e t) {rest : Text} (hrest : Follows rest) :
    ∃ middle behind, name rules (t ++ rest) = .ok (e.1, middle) ∧
      read middle = .ok (e.2, behind) ∧ skipBlanks behind = skipBlanks rest := by
  cases h with
  | @mk k t before after u behind v hk hbefore hafter hv hbehind =>
    refine ⟨after ++ u ++ (behind ++ rest), behind ++ rest, ?_,
      hread hv hafter (hrest.append_of_blanks hbehind), skipBlanks_append hbehind rest⟩
    have happend :
        char '\x22' :: t ++ char '\x22' :: before ++ char ':' :: after ++ u ++ behind ++ rest =
          char '\x22' :: (t ++ char '\x22' ::
            (before ++ char ':' :: (after ++ u ++ (behind ++ rest)))) := by simp
    rw [happend]
    exact name_textForm hrules hk hbefore

/-- Entries are read one by one up to the brace, if the fuel is enough for all of them. -/
theorem entries_entriesForm (hread : Reads read member) {es : List (Text × Value)} {t : Text}
    (h : EntriesForm paired member es t) (fuel : Nat) (hfuel : es.length ≤ fuel) (rest : Text) :
    entries rules read fuel (t ++ char '\x7d' :: rest) = .ok (es, rest) := by
  induction h generalizing fuel with
  | @last e t h =>
    obtain ⟨fuel, rfl⟩ : ∃ n, fuel = n + 1 := ⟨fuel - 1, by simp at hfuel; omega⟩
    have hclosing : Follows (char '\x7d' :: rest) :=
      fun c hc => .inr (.inr (by simpa using hc.symm))
    obtain ⟨middle, behind, hname, hvalue, hskip⟩ := entry_entryForm hrules hread h hclosing
    rw [skipBlanks_cons (by decide)] at hskip
    simp [entries, hname, hvalue, hskip, bind, Except.bind, pure, Except.pure]
  | @cons e es t before u h hbefore hrest ih =>
    obtain ⟨fuel, rfl⟩ : ∃ n, fuel = n + 1 := ⟨fuel - 1, by simp at hfuel; omega⟩
    have hmore := ih fuel (Nat.le_of_succ_le_succ hfuel)
    obtain ⟨cs, rfl⟩ := entriesForm_head hrest
    have hcomma : Follows (char ',' :: (before ++ char '\x22' :: (cs ++ char '\x7d' :: rest))) :=
      fun c hc => .inr (.inl (by simpa using hc.symm))
    obtain ⟨middle, behind, hname, hvalue, hskip⟩ := entry_entryForm hrules hread h hcomma
    rw [skipBlanks_cons (by decide)] at hskip
    have hnext : skipBlanks (before ++ char '\x22' :: (cs ++ char '\x7d' :: rest)) =
        char '\x22' :: (cs ++ char '\x7d' :: rest) := by
      rw [skipBlanks_append hbefore, skipBlanks_cons (by decide)]
    have happend : t ++ char ',' :: before ++ char '\x22' :: cs ++ char '\x7d' :: rest =
        t ++ char ',' :: (before ++ char '\x22' :: (cs ++ char '\x7d' :: rest)) := by simp
    rw [happend]
    rw [List.cons_append] at hmore
    simp [entries, hname, hvalue, hskip, hnext, hmore, bind, Except.bind, pure, Except.pure]

/-- A form of an object is read as its entries after the opening brace. -/
theorem object_objectForm (hread : Reads read member) {es : List (Text × Value)} {t : Text}
    (h : ObjectForm paired member es t) :
    ∃ u, t = char '\x7b' :: u ∧ ∀ rest, object rules read (u ++ rest) = .ok (es, rest) := by
  cases h with
  | @empty ws h =>
    refine ⟨ws ++ [char '\x7d'], rfl, fun rest => ?_⟩
    have hskip : skipBlanks (ws ++ [char '\x7d'] ++ rest) = char '\x7d' :: rest := by
      rw [List.append_assoc, skipBlanks_append h]
      exact skipBlanks_cons (by decide) rest
    simp only [object, hskip]
    rfl
  | @entries _ ws t h hes =>
    refine ⟨ws ++ t ++ [char '\x7d'], by simp, fun rest => ?_⟩
    have hlength := length_le_of_entriesForm hes
    obtain ⟨cs, rfl⟩ := entriesForm_head hes
    have hskip : skipBlanks (ws ++ char '\x22' :: cs ++ [char '\x7d'] ++ rest) =
        char '\x22' :: (cs ++ char '\x7d' :: rest) := by
      rw [List.append_assoc, List.append_assoc, skipBlanks_append h, List.cons_append,
        skipBlanks_cons (by decide)]
      rfl
    have hentries := entries_entriesForm hrules hread hes ((cs ++ char '\x7d' :: rest).length + 1)
      (by simp only [List.length_cons, List.length_append] at hlength ⊢; omega) rest
    rw [List.cons_append] at hentries
    simp only [object, hskip]
    exact hentries

end Objects

/-- Every form of a value, with blanks around it, is read as the value. -/
theorem reads_form {rules : Rules} (hrules : rules.pairedSurrogates = true → paired = true)
    (depth : Nat) : Reads (value rules depth) (Form paired depth) := by
  induction depth with
  | zero =>
    intro v ws t rest h hws hrest
    exact value_scalarForm hrules 0 h hws hrest
  | succ depth ih =>
    intro v ws t rest h hws hrest
    rcases h with h | ⟨es, rfl, h⟩
    · exact value_scalarForm hrules (depth + 1) h hws hrest
    · obtain ⟨u, rfl, hobject⟩ := object_objectForm hrules ih h
      have hskip : skipBlanks (ws ++ char '\x7b' :: u ++ rest) = char '\x7b' :: (u ++ rest) := by
        rw [List.append_assoc, skipBlanks_append hws, List.cons_append, skipBlanks_cons (by decide)]
      simp only [value, hskip, hobject rest, bind, Except.bind, pure, Except.pure]

/-- A document that is a form of a value with blanks around it is read as the value. -/
theorem read_form {rules : Rules} (hrules : rules.pairedSurrogates = true → paired = true)
    {v : Value} {before t behind : Text} (h : Form paired rules.maxDepth v t)
    (hbefore : Blanks before) (hbehind : Blanks behind) :
    read rules (before ++ t ++ behind) = .ok v := by
  have hend : Follows ([] : Text) := by simp [Follows]
  have hvalue := reads_form hrules rules.maxDepth h hbefore (hend.append_of_blanks hbehind)
  have hskip : skipBlanks behind = [] := by
    rw [← List.append_nil behind, skipBlanks_append hbehind]
    rfl
  rw [List.append_nil] at hvalue
  simp only [read, hvalue, finish, hskip, bind, Except.bind]

/-- An object of texts is read back by every reader that lets an object be open. The names and the
texts are what they are, but for pairs of surrogates, and a reader that asks for pairs takes no
other surrogates. -/
theorem read_write_texts {rules : Rules} (hdepth : 0 < rules.maxDepth) {sep : Separators}
    (hsep : sep.IsBlank) {values : Fields Text}
    (hrules : rules.pairedSurrogates = true →
      ∀ f ∈ values, Text.hasSurrogate f.1 = false ∧ Text.hasSurrogate f.2 = false) :
    read rules (write sep (.object (values.map fun f => (f.1, .text f.2)))) =
      .ok (.object ((joinedTexts values).map fun f => (f.1, .text f.2))) := by
  have hlegible : ∀ f ∈ joinedTexts values,
      Legible rules.pairedSurrogates f.1 ∧ Legible rules.pairedSurrogates f.2 := by
    cases hpaired : rules.pairedSurrogates with
    | false => exact List.forall_mem_map.2 fun f _ => ⟨legible_joined f.1, legible_joined f.2⟩
    | true =>
      have hwhole : ∀ f ∈ values, Legible true f.1 ∧ Legible true f.2 := fun f hf =>
        ⟨legible_of_hasSurrogate true (hrules hpaired f hf).1,
          legible_of_hasSurrogate true (hrules hpaired f hf).2⟩
      rwa [joinedTexts_eq_self hwhole]
  obtain ⟨depth, hdepth⟩ : ∃ depth, rules.maxDepth = depth + 1 := ⟨rules.maxDepth - 1, by omega⟩
  have hform : Form rules.pairedSurrogates rules.maxDepth
      (.object ((joinedTexts values).map fun f => (f.1, .text f.2)))
      (write sep (.object (values.map fun f => (f.1, .text f.2)))) := by
    rw [hdepth, ← write_joinedTexts]
    exact form_write hsep (plain_texts depth hlegible)
  have hnone : Blanks [] := List.forall_mem_nil _
  simpa using read_form id hform hnone hnone

end Json

end WorkloadTrace
