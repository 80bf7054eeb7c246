import WorkloadTrace.Json.Reader

/-!
# The forms of a JSON document

A value has many written forms: a character stands in a quoted text as itself, after a backslash or
as a hexadecimal escape, and blanks stand between the parts of an object. The relations of this
module say which texts are forms of a text, of a natural number and of an object made of these,
whatever wrote them. Half of a pair of surrogates is no character, and a form stands for it only
where surrogates do not have to be `paired`; then it must not look like half of a pair.
-/

namespace WorkloadTrace

/-- A character opens no pair. -/
theorem CodePoint.opensPair_toNat (c : Char) : opensPair c.toNat = false := by
  have hrange := toNat_char_range c
  simp only [opensPair, Bool.and_eq_false_iff, decide_eq_false_iff_not]
  omega

/-- Nor does it close one. -/
theorem CodePoint.closesPair_toNat (c : Char) : closesPair c.toNat = false := by
  have hrange := toNat_char_range c
  simp only [closesPair, Bool.and_eq_false_iff, decide_eq_false_iff_not]
  omega

/-- A number that is not of a surrogate is the number of its character. -/
theorem CodePoint.ofNat_eq_char {n : Nat} (h : n.isValidChar) :
    ∃ c : Char, CodePoint.ofNat n = char c ∧ c.toNat = n := by
  have hrange : ¬(firstSurrogate ≤ n ∧ n < 0xE000) := by
    simp only [Nat.isValidChar, firstSurrogate] at h ⊢
    omega
  refine ⟨Char.ofNat n, dif_neg hrange, ?_⟩
  rw [Char.ofNat, dif_pos h]
  exact UInt32.toNat_ofNatLT

/-- The halves of a pair mean a character beyond the first plane. -/
theorem CodePoint.combine_eq_char {opening closing : Nat} (hopening : opensPair opening = true)
    (hclosing : closesPair closing = true) : ∃ c : Char, combine opening closing = char c ∧
      c.toNat = 0x10000 + (opening - 0xD800) * 0x400 + (closing - 0xDC00) := by
  simp only [opensPair, closesPair, Bool.and_eq_true, decide_eq_true_eq] at hopening hclosing
  exact ofNat_eq_char (.inr ⟨by omega, by omega⟩)

namespace Json

/-- A hexadecimal digit, in lower or in upper case. -/
def IsHexDigit (d : Nat) (c : CodePoint) : Prop :=
  d < 16 ∧ (c = char d.digitChar ∨ c = char d.digitChar.toUpper)

/-- The forms of a code unit: four hexadecimal digits. -/
inductive UnitForm : Nat → Text → Prop where
  /-- The digits, the most significant one first. -/
  | digits {d₃ d₂ d₁ d₀ : Nat} {c₃ c₂ c₁ c₀ : CodePoint} (h₃ : IsHexDigit d₃ c₃)
    (h₂ : IsHexDigit d₂ c₂)
    (h₁ : IsHexDigit d₁ c₁) (h₀ : IsHexDigit d₀ c₀) :
    UnitForm (((d₃ * 16 + d₂) * 16 + d₁) * 16 + d₀) [c₃, c₂, c₁, c₀]

/-- The characters that may stand after a backslash, with the ones that they mean there. -/
def shortEscapes : List (CodePoint × CodePoint) :=
  [(char '\x22', char '\x22'), (char '\\', char '\\'), (char '/', char '/'),
    (char 'b', char '\x08'), (char 'f', char '\x0c'), (char 'n', char '\n'),
    (char 'r', char '\r'), (char 't', char '\t')]

/-- The forms of a character inside a quoted text. -/
inductive CharForm : CodePoint → Text → Prop where
  /-- Itself. -/
  | plain {c : Char} (hcontrol : 0x20 ≤ c.toNat) (hquote : char c ≠ char '\x22')
    (hbackslash : char c ≠ char '\\') : CharForm (char c) [char c]
  /-- A backslash and another character. -/
  | short {c e : CodePoint} (h : (e, c) ∈ shortEscapes) : CharForm c [char '\\', e]
  /-- The escape of its number. -/
  | escape {c : Char} {ds : Text} (h : UnitForm c.toNat ds) :
    CharForm (char c) (char '\\' :: char 'u' :: ds)
  /-- The escapes of the surrogates that mean it. -/
  | pair {c : Char} {ds es : Text} (hc : 0x10000 ≤ c.toNat)
    (hopening : UnitForm (0xD800 + (c.toNat - 0x10000) / 0x400) ds)
    (hclosing : UnitForm (0xDC00 + (c.toNat - 0x10000) % 0x400) es) :
    CharForm (char c) (char '\\' :: char 'u' :: ds ++ char '\\' :: char 'u' :: es)

/-- Whether a code point is no surrogate that opens a pair with what follows it. -/
def Unpaired (c : CodePoint) (s : Text) : Prop :=
  CodePoint.opensPair c.toNat = true → ∀ d ∈ s.head?, CodePoint.closesPair d.toNat = false

/-- The forms of a text between quotes. -/
inductive TextForm (paired : Bool) : Text → Text → Prop where
  /-- The end of the text. -/
  | nil : TextForm paired [] []
  /-- One more character in front. -/
  | cons {c : CodePoint} {s t u : Text} (h : CharForm c t) (hrest : TextForm paired s u) :
    TextForm paired (c :: s) (t ++ u)
  /-- One more surrogate in front, which stands for itself. -/
  | surrogate {place : Fin 0x800} {s ds u : Text} (hpaired : paired = false)
    (h : UnitForm (CodePoint.surrogate place).toNat ds) (halone : Unpaired (.surrogate place) s)
    (hrest : TextForm paired s u) :
    TextForm paired (.surrogate place :: s) (char '\\' :: char 'u' :: ds ++ u)

/-- Text that consists of blanks. -/
def Blanks (ws : Text) : Prop := ∀ c ∈ ws, isBlank c = true

/-- The forms of a value without entries: of a text and of a natural number. -/
inductive ScalarForm (paired : Bool) : Value → Text → Prop where
  /-- A quoted text. -/
  | text {s t : Text} (h : TextForm paired s t) :
    ScalarForm paired (.text s) (char '\x22' :: t ++ [char '\x22'])
  /-- A numeral that is not too long. -/
  | natural {n : Nat} (h : (Decimal.ofNat n).length ≤ maxIntegerDigits) :
    ScalarForm paired (.int n) (Decimal.ofNat n)

section Objects

variable (paired : Bool) (member : Value → Text → Prop)

/-- The forms of an entry with the blanks after it, when the values have the forms `member`. -/
inductive EntryForm : Text × Value → Text → Prop where
  /-- A name, a colon and a value. -/
  | mk {k t before after u behind : Text} {v : Value} (hk : TextForm paired k t)
    (hbefore : Blanks before)
    (hafter : Blanks after) (hv : member v u) (hbehind : Blanks behind) :
    EntryForm (k, v) (char '\x22' :: t ++ char '\x22' :: before ++ char ':' :: after ++ u ++ behind)

/-- The forms of entries, of which there is at least one. -/
inductive EntriesForm : List (Text × Value) → Text → Prop where
  /-- The last entry. -/
  | last {e : Text × Value} {t : Text} (h : EntryForm paired member e t) : EntriesForm [e] t
  /-- One more entry in front. -/
  | cons {e : Text × Value} {es : List (Text × Value)} {t before u : Text}
    (h : EntryForm paired member e t) (hbefore : Blanks before) (hrest : EntriesForm es u) :
    EntriesForm (e :: es) (t ++ char ',' :: before ++ u)

/-- The forms of an object. -/
inductive ObjectForm : List (Text × Value) → Text → Prop where
  /-- An object without entries. -/
  | empty {ws : Text} (h : Blanks ws) : ObjectForm [] (char '\x7b' :: ws ++ [char '\x7d'])
  /-- An object with entries. -/
  | entries {es : List (Text × Value)} {ws t : Text} (h : Blanks ws)
    (hes : EntriesForm paired member es t) : ObjectForm es (char '\x7b' :: ws ++ t ++ [char '\x7d'])

end Objects

/-- The forms of a value in which at most `depth` objects are open at a time. -/
def Form (paired : Bool) : Nat → Value → Text → Prop
  | 0, v, t => ScalarForm paired v t
  | depth + 1, v, t =>
    ScalarForm paired v t ∨ ∃ es, v = .object es ∧ ObjectForm paired (Form paired depth) es t

variable {paired : Bool}

theorem ScalarForm.form {v : Value} {t : Text} (h : ScalarForm paired v t) (depth : Nat) :
    Form paired depth v t := by
  cases depth with
  | zero => exact h
  | succ depth => exact .inl h

/-- A form of an object begins and ends with a brace. -/
theorem Form.braces {depth : Nat} {es : List (Text × Value)} {t : Text}
    (h : Form paired depth (.object es) t) : ∃ u, t = char '\x7b' :: (u ++ [char '\x7d']) := by
  cases depth with
  | zero => cases h
  | succ depth =>
    rcases h with h | ⟨es', -, h⟩
    · cases h
    · cases h with
      | @empty ws h => exact ⟨ws, rfl⟩
      | @entries _ ws t h hes => exact ⟨ws ++ t, rfl⟩

/-- No form of a character is empty. -/
theorem CharForm.ne_nil {c : CodePoint} {t : Text} (h : CharForm c t) : t ≠ [] := by
  cases h <;> simp

/-- A text is not longer than its forms. -/
theorem length_le_of_textForm {s t : Text} (h : TextForm paired s t) : s.length ≤ t.length := by
  induction h with
  | nil => exact Nat.le_refl _
  | cons hc hrest ih =>
    have hpos := List.length_pos_iff.2 hc.ne_nil
    rw [List.length_cons, List.length_append]
    omega
  | surrogate hpaired h halone hrest ih =>
    simp only [List.length_cons, List.length_append]
    omega

/-- What a form of a value without entries begins with. -/
theorem scalarForm_head {v : Value} {t : Text} (h : ScalarForm paired v t) :
    ∃ c cs, t = c :: cs ∧ (c = char '\x22' ∨ Decimal.isDigit c = true) := by
  cases h with
  | text h => exact ⟨_, _, rfl, .inl rfl⟩
  | @natural n h =>
    obtain ⟨c, cs, hcs⟩ := List.exists_cons_of_ne_nil (Decimal.ofNat_ne_nil n)
    exact ⟨c, cs, hcs, .inr (Decimal.isDigit_of_mem_ofNat (n := n) (by simp [hcs]))⟩

section Heads

variable {member : Value → Text → Prop}

/-- An entry begins with a quote. -/
theorem entryForm_head {e : Text × Value} {t : Text} (h : EntryForm paired member e t) :
    ∃ cs, t = char '\x22' :: cs := by
  cases h
  exact ⟨_, rfl⟩

/-- So do entries, which are some. -/
theorem entriesForm_head {es : List (Text × Value)} {t : Text}
    (h : EntriesForm paired member es t) :
    ∃ cs, t = char '\x22' :: cs := by
  cases h with
  | last h => exact entryForm_head h
  | cons h hbefore hrest =>
    obtain ⟨cs, rfl⟩ := entryForm_head h
    exact ⟨_, rfl⟩

/-- There are no more entries than characters in their form. -/
theorem length_le_of_entriesForm {es : List (Text × Value)} {t : Text}
    (h : EntriesForm paired member es t) : es.length ≤ t.length := by
  induction h with
  | last h =>
    obtain ⟨cs, rfl⟩ := entryForm_head h
    simp
  | cons h hbefore hrest ih =>
    simp only [List.length_cons, List.length_append]
    omega

end Heads

/-! ## Surrogates

A form has no surrogate, whatever it is a form of: surrogates are written as escapes. -/

section Surrogates

/-- Hexadecimal digits are no surrogates. -/
theorem UnitForm.hasSurrogate {n : Nat} {t : Text} (h : UnitForm n t) :
    Text.hasSurrogate t = false := by
  have hdigit {d : Nat} {c : CodePoint} (h : IsHexDigit d c) : c.isSurrogate = false := by
    obtain ⟨-, rfl | rfl⟩ := h <;> rfl
  cases h with
  | digits h₃ h₂ h₁ h₀ => simp [hdigit h₃, hdigit h₂, hdigit h₁, hdigit h₀]

/-- Only characters have forms of their own, and these have no surrogates. -/
theorem CharForm.hasSurrogate {c : CodePoint} {t : Text} (h : CharForm c t) :
    c.isSurrogate = false ∧ Text.hasSurrogate t = false := by
  cases h with
  | plain => exact ⟨rfl, rfl⟩
  | @short c e h =>
    have hboth : ∀ p ∈ shortEscapes, p.2.isSurrogate = false ∧ p.1.isSurrogate = false := by decide
    obtain ⟨hc, he⟩ := hboth _ h
    exact ⟨hc, by simp [he]⟩
  | escape h => exact ⟨rfl, by simp [h.hasSurrogate]⟩
  | pair hc hopening hclosing =>
    exact ⟨rfl, by simp [hopening.hasSurrogate, hclosing.hasSurrogate]⟩

/-- The form of a text has no surrogates, even if the text does. -/
theorem TextForm.hasSurrogate {s t : Text} (h : TextForm paired s t) :
    Text.hasSurrogate t = false := by
  induction h with
  | nil => rfl
  | cons h hrest ih => simp [h.hasSurrogate.2, ih]
  | surrogate hpaired h halone hrest ih => simp [h.hasSurrogate, ih]

/-- Where surrogates have to be paired, a text that has a form has none. -/
theorem TextForm.hasSurrogate_text {s t : Text} (h : TextForm true s t) :
    Text.hasSurrogate s = false := by
  induction s generalizing t with
  | nil => rfl
  | cons c s ih =>
    cases h with
    | cons h hrest => simp [h.hasSurrogate.1, ih hrest]
    | surrogate hpaired => cases hpaired

/-- Blanks are no surrogates. -/
theorem Blanks.hasSurrogate {ws : Text} (h : Blanks ws) : Text.hasSurrogate ws = false := by
  rw [Text.hasSurrogate_eq_false_iff]
  intro c hc
  have hblank := h c hc
  cases c with
  | char c => rfl
  | surrogate place => exact absurd hblank (by simp [isBlank])

/-- The form of a value without parts has no surrogates. -/
theorem ScalarForm.hasSurrogate {v : Value} {t : Text} (h : ScalarForm paired v t) :
    Text.hasSurrogate t = false := by
  cases h with
  | text h => simp [h.hasSurrogate]
  | natural h =>
    simp [Text.hasSurrogate_eq_false_iff, Decimal.ofNat]

variable {member : Value → Text → Prop}
  (hmember : ∀ v t, member v t → Text.hasSurrogate t = false)
include hmember

/-- Nor has that of an entry. -/
theorem EntryForm.hasSurrogate {e : Text × Value} {t : Text} (h : EntryForm paired member e t) :
    Text.hasSurrogate t = false := by
  cases h with
  | mk hk hbefore hafter hv hbehind =>
    simp [hk.hasSurrogate, hbefore.hasSurrogate, hafter.hasSurrogate, hmember _ _ hv,
      hbehind.hasSurrogate]

/-- Nor has that of entries. -/
theorem EntriesForm.hasSurrogate {es : List (Text × Value)} {t : Text}
    (h : EntriesForm paired member es t) : Text.hasSurrogate t = false := by
  induction h with
  | last h => exact h.hasSurrogate hmember
  | cons h hbefore hrest ih => simp [h.hasSurrogate hmember, hbefore.hasSurrogate, ih]

/-- Nor has that of an object. -/
theorem ObjectForm.hasSurrogate {es : List (Text × Value)} {t : Text}
    (h : ObjectForm paired member es t) : Text.hasSurrogate t = false := by
  cases h with
  | empty h => simp [h.hasSurrogate]
  | entries h hes => simp [h.hasSurrogate, hes.hasSurrogate hmember]

omit hmember

/-- So no form of a value has surrogates, however deep it goes. -/
theorem Form.hasSurrogate {depth : Nat} {v : Value} {t : Text} (h : Form paired depth v t) :
    Text.hasSurrogate t = false := by
  induction depth generalizing v t with
  | zero => exact ScalarForm.hasSurrogate h
  | succ depth ih =>
    rcases h with h | ⟨es, rfl, h⟩
    · exact h.hasSurrogate
    · exact h.hasSurrogate fun v t hv => ih hv

end Surrogates

end Json

end WorkloadTrace
