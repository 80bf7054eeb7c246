import Mathlib.Data.List.TakeWhile
import WorkloadTrace.Proofs.JsonReading
import WorkloadTrace.Proofs.OperationEntries

/-!
# Accepted documents are JSON

The whole grammar of JSON documents, with the words `NaN` and `Infinity` as numbers, as a relation
between a value and its written forms. It says nothing of a reader, of how deep brackets are nested
or of what is read first; whatever a reader that asks surrogates to form pairs accepts is a form of
the value that it reads, between blanks.
-/

namespace WorkloadTrace.Json

/-- One digit or more. -/
def Digits (ds : Text) : Prop := ds ≠ [] ∧ ∀ c ∈ ds, Decimal.isDigit c = true

/-- The whole part of a number: a zero alone, or digits of which the first is not zero. -/
def Whole (ds : Text) : Prop := Digits ds ∧ (ds.head? = some (char '0') → ds.length = 1)

/-- The forms of the places after the point, which may be absent. -/
inductive PlacesForm : Option Text → Text → Prop where
  /-- There is no point. -/
  | none : PlacesForm none []
  /-- Digits after a point. -/
  | some {ds : Text} (h : Digits ds) : PlacesForm (some ds) (char '.' :: ds)

/-- The forms of an exponent, which may be absent. -/
inductive ExponentForm : Option Int → Text → Prop where
  /-- There is no exponent. -/
  | none : ExponentForm none []
  /-- An exponent without a sign. -/
  | plain {e : CodePoint} {ds : Text} (he : e = char 'e' ∨ e = char 'E') (h : Digits ds) :
    ExponentForm (some (Decimal.value ds)) (e :: ds)
  /-- An exponent with a plus sign. -/
  | plus {e : CodePoint} {ds : Text} (he : e = char 'e' ∨ e = char 'E') (h : Digits ds) :
    ExponentForm (some (Decimal.value ds)) (e :: char '+' :: ds)
  /-- An exponent with a minus sign. -/
  | minus {e : CodePoint} {ds : Text} (he : e = char 'e' ∨ e = char 'E') (h : Digits ds) :
    ExponentForm (some (-(Decimal.value ds : Int))) (e :: char '-' :: ds)

/-- The forms of a number after its sign. -/
inductive NumberForm (negative : Bool) : Value → Text → Prop where
  /-- The word for an infinite number. -/
  | infinity : NumberForm negative (.real (.infinite negative)) "Infinity".toText
  /-- An integer, whose digits are not too many. -/
  | integer {ds : Text} (h : Whole ds) (hlength : ds.length ≤ maxIntegerDigits) :
    NumberForm negative
      (.int (if negative then -(Decimal.value ds : Int) else (Decimal.value ds : Int))) ds
  /-- A number with places after the point, with an exponent or with both. -/
  | real {ds t u : Text} {places : Option Text} {power : Option Int} (h : Whole ds)
    (hplaces : PlacesForm places t) (hpower : ExponentForm power u)
    (hsome : places.isSome = true ∨ power.isSome = true) :
    NumberForm negative
      (.real (Binary64.ofDecimal negative (Decimal.value (ds ++ places.getD []))
        (power.getD 0 - (places.getD []).length))) (ds ++ (t ++ u))

/-- The words with the values that they mean. -/
def words : List (Text × Value) :=
  [("true".toText, .bool true), ("false".toText, .bool false), ("null".toText, .null),
    ("NaN".toText, .real .nan)]

section Lists

variable (member : Value → Text → Prop)

/-- The forms of the members of a list, of which there is at least one. -/
inductive MembersForm : List Value → Text → Prop where
  /-- The last member. -/
  | last {v : Value} {u behind : Text} (hv : member v u) (hbehind : Blanks behind) :
    MembersForm [v] (u ++ behind)
  /-- One more member in front. -/
  | cons {v : Value} {vs : List Value} {u behind before t : Text} (hv : member v u)
    (hbehind : Blanks behind) (hbefore : Blanks before) (hrest : MembersForm vs t) :
    MembersForm (v :: vs) (u ++ behind ++ char ',' :: before ++ t)

/-- The forms of a list. -/
inductive ListForm : List Value → Text → Prop where
  /-- A list without members. -/
  | empty {ws : Text} (h : Blanks ws) : ListForm [] (char '[' :: ws ++ [char ']'])
  /-- A list with members. -/
  | members {vs : List Value} {ws t : Text} (h : Blanks ws) (hvs : MembersForm member vs t) :
    ListForm vs (char '[' :: ws ++ t ++ [char ']'])

end Lists

/-- The forms of any value. -/
inductive Written : Value → Text → Prop where
  /-- A word. -/
  | word {v : Value} {t : Text} (h : (t, v) ∈ words) : Written v t
  /-- A quoted text. -/
  | text {s t : Text} (h : TextForm true s t) :
    Written (.text s) (char '\x22' :: t ++ [char '\x22'])
  /-- A number without a sign. -/
  | number {v : Value} {t : Text} (h : NumberForm false v t) : Written v t
  /-- A number with a minus sign. -/
  | negative {v : Value} {t : Text} (h : NumberForm true v t) : Written v (char '-' :: t)
  /-- A list. -/
  | list {vs : List Value} {t : Text} (h : ListForm Written vs t) : Written (.list vs) t
  /-- An object. -/
  | object {es : List (Text × Value)} {t : Text} (h : ObjectForm true Written es t) :
    Written (.object es) t

/-- A form of an object is braces around entries. -/
theorem Written.objectForm {es : List (Text × Value)} {t : Text} (h : Written (.object es) t) :
    ObjectForm true Written es t := by
  cases h with
  | word h => simp [words] at h
  | number h => cases h
  | negative h => cases h
  | object h => exact h

/-- The names of entries are texts that have forms, and their values are members. -/
theorem EntriesForm.forall_mem {member : Value → Text → Prop} {es : List (Text × Value)} {t : Text}
    (h : EntriesForm true member es t) :
    ∀ e ∈ es, Text.hasSurrogate e.1 = false ∧ ∃ u, member e.2 u := by
  have hentry {e : Text × Value} {t : Text} (h : EntryForm true member e t) :
      Text.hasSurrogate e.1 = false ∧ ∃ u, member e.2 u := by
    cases h with
    | mk hk hbefore hafter hv hbehind => exact ⟨hk.hasSurrogate_text, _, hv⟩
  induction h with
  | last h => exact List.forall_mem_singleton.2 (hentry h)
  | cons h hbefore hrest ih => exact List.forall_mem_cons.2 ⟨hentry h, ih⟩

/-- An object has texts as names, and for each of its values a form of the kind of its members. -/
theorem ObjectForm.forall_mem {member : Value → Text → Prop} {es : List (Text × Value)} {t : Text}
    (h : ObjectForm true member es t) :
    ∀ e ∈ es, Text.hasSurrogate e.1 = false ∧ ∃ u, member e.2 u := by
  cases h with
  | empty h => exact List.forall_mem_nil _
  | entries h hes => exact hes.forall_mem

/-- A text that is written in a document has no surrogate. -/
theorem Written.hasSurrogate_text {s t : Text} (h : Written (.text s) t) :
    Text.hasSurrogate s = false := by
  cases h with
  | word h => simp [words] at h
  | text h => exact h.hasSurrogate_text
  | number h => cases h
  | negative h => cases h

/-- What skipping leaves stands after blanks. -/
theorem blanks_of_skipBlanks {s rest : Text} (h : skipBlanks s = rest) :
    ∃ ws, Blanks ws ∧ s = ws ++ rest := by
  subst h
  exact ⟨s.takeWhile isBlank, fun _ hc => List.mem_takeWhile_imp hc,
    List.takeWhile_append_dropWhile.symm⟩

/-- Blanks behind blanks are blanks. -/
theorem Blanks.append {ws ws' : Text} (h : Blanks ws) (h' : Blanks ws') : Blanks (ws ++ ws') :=
  List.forall_mem_append.2 ⟨h, h'⟩

section Numbers

/-- A word that is taken stands at the head of what is read. -/
theorem eq_append_of_word {w s rest : Text} (h : word w s = .ok rest) : s = w ++ rest := by
  induction w generalizing s with
  | nil => exact Except.ok.inj h
  | cons c w ih =>
    cases s with
    | nil => cases h
    | cons d s =>
      simp only [word] at h
      split at h
      · next heq => rw [heq, ih h, List.cons_append]
      · cases h

/-- The digits that are taken are some, and stand at the head of what is read. -/
theorem digits_of_someDigits {s ds rest : Text} (h : someDigits s = .ok (ds, rest)) :
    Digits ds ∧ s = ds ++ rest := by
  cases s with
  | nil => cases h
  | cons c s =>
    simp only [someDigits] at h
    split at h
    · next hc =>
      obtain ⟨rfl, rfl⟩ := Prod.mk.inj (Except.ok.inj h)
      refine ⟨⟨?_, fun d hd => List.mem_takeWhile_imp hd⟩, List.takeWhile_append_dropWhile.symm⟩
      simp [hc]
    · cases h

/-- So does the form of the decimal places. -/
theorem placesForm_of_fraction {s rest : Text} {places : Option Text}
    (h : fraction s = .ok (places, rest)) : ∃ t, PlacesForm places t ∧ s = t ++ rest := by
  unfold fraction at h
  split at h
  · obtain ⟨⟨ds, rest'⟩, hds, h⟩ := bind_eq_ok_iff.1 h
    obtain ⟨rfl, rfl⟩ := Prod.mk.inj (Except.ok.inj h)
    obtain ⟨hdigits, rfl⟩ := digits_of_someDigits hds
    exact ⟨_, .some hdigits, rfl⟩
  · obtain ⟨rfl, rfl⟩ := Prod.mk.inj (Except.ok.inj h)
    exact ⟨[], .none, rfl⟩

/-- So does the form of the exponent. -/
theorem exponentForm_of_exponent {s rest : Text} {power : Option Int}
    (h : exponent s = .ok (power, rest)) : ∃ t, ExponentForm power t ∧ s = t ++ rest := by
  cases s with
  | nil =>
    obtain ⟨rfl, rfl⟩ := Prod.mk.inj (Except.ok.inj h)
    exact ⟨[], .none, rfl⟩
  | cons c s =>
    simp only [exponent] at h
    split at h
    · next hc =>
      split at h
      all_goals
        obtain ⟨⟨ds, rest'⟩, hds, h⟩ := bind_eq_ok_iff.1 h
        obtain ⟨rfl, rfl⟩ := Prod.mk.inj (Except.ok.inj h)
        obtain ⟨hdigits, rfl⟩ := digits_of_someDigits hds
      · exact ⟨_, .minus hc hdigits, rfl⟩
      · exact ⟨_, .plus hc hdigits, rfl⟩
      · exact ⟨_, .plain hc hdigits, rfl⟩
    · obtain ⟨rfl, rfl⟩ := Prod.mk.inj (Except.ok.inj h)
      exact ⟨[], .none, rfl⟩

/-- A number that is accepted without its sign is written in the form of numbers. -/
theorem numberForm_of_unsignedNumber {rules : Rules} {negative : Bool} {start s rest : Text}
    {v : Value} (h : unsignedNumber rules negative start s = .ok (v, rest)) :
    ∃ t, NumberForm negative v t ∧ s = t ++ rest := by
  unfold unsignedNumber at h
  split at h
  · cases h
  · obtain ⟨rest', hword, h⟩ := bind_eq_ok_iff.1 h
    obtain ⟨rfl, rfl⟩ := Prod.mk.inj (Except.ok.inj h)
    exact ⟨_, .infinity, eq_append_of_word hword⟩
  · obtain ⟨⟨ds, afterWhole⟩, hds, h⟩ := bind_eq_ok_iff.1 h
    obtain ⟨hdigits, rfl⟩ := digits_of_someDigits hds
    simp only at h
    split at h
    · cases h
    · next hzero =>
      have hwhole : Whole ds := by
        refine ⟨hdigits, fun hhead => ?_⟩
        have hpos := List.length_pos_iff.2 hdigits.1
        have hshort : ¬1 < ds.length := fun hlong => hzero ⟨hhead, hlong⟩
        omega
      split at h
      · cases h
      · obtain ⟨⟨places, afterPlaces⟩, hplaces, h'⟩ := bind_eq_ok_iff.1 h
        obtain ⟨⟨power, rest'⟩, hpower, hvalue⟩ := bind_eq_ok_iff.1 h'
        clear h h'
        obtain ⟨t, htform, rfl⟩ := placesForm_of_fraction hplaces
        obtain ⟨u, huform, rfl⟩ := exponentForm_of_exponent hpower
        have hreal (hsome : places.isSome = true ∨ power.isSome = true) :
            NumberForm negative (.real (Binary64.ofDecimal negative
              (Decimal.value (ds ++ places.getD [])) (power.getD 0 - (places.getD []).length)))
              (ds ++ (t ++ u)) := .real hwhole htform huform hsome
        have happend : ds ++ (t ++ (u ++ rest')) = ds ++ (t ++ u) ++ rest' := by simp
        cases places with
        | some ds' =>
          obtain ⟨rfl, rfl⟩ := Prod.mk.inj (Except.ok.inj hvalue)
          exact ⟨_, hreal (.inl rfl), happend⟩
        | none =>
          cases power with
          | some n =>
            obtain ⟨rfl, rfl⟩ := Prod.mk.inj (Except.ok.inj hvalue)
            exact ⟨_, hreal (.inr rfl), happend⟩
          | none =>
            cases htform
            cases huform
            have hinteger : (if maxIntegerDigits < ds.length then
                refuse .numberTooLong (start.drop (maxIntegerDigits + 1))
              else .ok (.int (if negative then -(Decimal.value ds : Int)
                else (Decimal.value ds : Int)), rest')) = .ok (v, rest) := hvalue
            split at hinteger
            · cases hinteger
            · next hlength =>
              obtain ⟨rfl, rfl⟩ := Prod.mk.inj (Except.ok.inj hinteger)
              exact ⟨ds, .integer hwhole (Nat.not_lt.1 hlength), by simp⟩

end Numbers

section Characters

/-- What the reader takes for a hexadecimal digit is one. -/
theorem isHexDigit_of_hexValue? {c : CodePoint} {d : Nat} (h : hexValue? c = some d) :
    IsHexDigit d c := by
  have hall : ∀ n < 0x67, ∀ d, hexValue? (CodePoint.ofNat n) = some d →
      IsHexDigit d (CodePoint.ofNat n) := by
    have hdigits : ∀ n < 0x67, (hexValue? (CodePoint.ofNat n)).all fun d =>
        d < 16 && (CodePoint.ofNat n = char d.digitChar ||
          CodePoint.ofNat n = char d.digitChar.toUpper) := by
      decide +kernel
    intro n hn d hd
    have hone := hdigits n hn
    simpa [hd, IsHexDigit] using hone
  have hbound : c.toNat < 0x67 := by
    simp only [hexValue?, Decimal.isDigit, CodePoint.le_def, Bool.and_eq_true,
      decide_eq_true_eq] at h
    have hsmall : (char 'f').toNat = 0x66 := rfl
    have hcapital : (char 'F').toNat = 0x46 := rfl
    split at h
    · omega
    · split at h
      · omega
      · split at h
        · omega
        · cases h
  rw [← CodePoint.ofNat_toNat c] at h ⊢
  exact hall c.toNat hbound d h

/-- Each hexadecimal digit that is accepted takes the reader one step further. -/
theorem exists_of_hexDigits {count m n : Nat} {s rest : Text}
    (h : hexDigits (count + 1) m s = .ok (n, rest)) :
    ∃ c d s', s = c :: s' ∧ IsHexDigit d c ∧ hexDigits count (m * 16 + d) s' = .ok (n, rest) := by
  cases s with
  | nil => cases h
  | cons c s' =>
    simp only [hexDigits] at h
    cases hd : hexValue? c with
    | none => exact absurd h (by simp [hd, refuse])
    | some d => exact ⟨c, d, s', rfl, isHexDigit_of_hexValue? hd, by simpa [hd] using h⟩

/-- Four hexadecimal digits that are accepted are a form of the unit that they are read as. -/
theorem unitForm_of_hexCode {s rest : Text} {n : Nat} (h : hexCode s = .ok (n, rest)) :
    ∃ ds, UnitForm n ds ∧ s = ds ++ rest := by
  unfold hexCode at h
  split at h
  · cases h
  · obtain ⟨c₃, d₃, s₃, rfl, h₃, h⟩ := exists_of_hexDigits h
    obtain ⟨c₂, d₂, s₂, rfl, h₂, h⟩ := exists_of_hexDigits h
    obtain ⟨c₁, d₁, s₁, rfl, h₁, h⟩ := exists_of_hexDigits h
    obtain ⟨c₀, d₀, s₀, rfl, h₀, h⟩ := exists_of_hexDigits h
    obtain ⟨rfl, rfl⟩ := Prod.mk.inj (Except.ok.inj h)
    rw [Nat.zero_mul, Nat.zero_add]
    exact ⟨[c₃, c₂, c₁, c₀], .digits h₃ h₂ h₁ h₀, rfl⟩

/-- Four hexadecimal digits write a number of sixteen bits. -/
theorem unitForm_lt {n : Nat} {ds : Text} (h : UnitForm n ds) : n < 0x10000 := by
  cases h with
  | digits h₃ h₂ h₁ h₀ =>
    have := h₃.1
    have := h₂.1
    have := h₁.1
    have := h₀.1
    omega

/-- A pair of surrogates means the character that it is read as. -/
theorem surrogates_of_combine {opening closing : Nat}
    (hopening : CodePoint.opensPair opening = true)
    (hclosing : CodePoint.closesPair closing = true) :
    ∃ c : Char, CodePoint.combine opening closing = char c ∧ 0x10000 ≤ c.toNat ∧
      opening = 0xD800 + (c.toNat - 0x10000) / 0x400 ∧
      closing = 0xDC00 + (c.toNat - 0x10000) % 0x400 := by
  obtain ⟨c, hc, hnumber⟩ := CodePoint.combine_eq_char hopening hclosing
  simp only [CodePoint.opensPair, CodePoint.closesPair, Bool.and_eq_true, decide_eq_true_eq]
    at hopening hclosing
  exact ⟨c, hc, by omega, by omega, by omega⟩

/-- An escape by units that is accepted, alone or in a pair, is a form of its character. -/
theorem charForm_of_pairedEscape {s rest : Text} {x : CodePoint}
    (h : pairedEscape s = .ok (x, rest)) :
    ∃ t, CharForm x (char '\\' :: char 'u' :: t) ∧ s = t ++ rest := by
  obtain ⟨⟨unit, after⟩, hunit, h⟩ := bind_eq_ok_iff.1 h
  obtain ⟨ds, hds, rfl⟩ := unitForm_of_hexCode hunit
  simp only at h
  split at h
  · cases h
  · next hcloses =>
    split at h
    · next hopens =>
      split at h
      · cases h
      · cases h
      · obtain ⟨⟨low, after'⟩, hlow, h⟩ := bind_eq_ok_iff.1 h
        obtain ⟨es, hes, rfl⟩ := unitForm_of_hexCode hlow
        simp only at h
        split at h
        · next hlow =>
          obtain ⟨rfl, rfl⟩ := Prod.mk.inj (Except.ok.inj h)
          obtain ⟨c, hc, hlarge, hopening, hclosing⟩ := surrogates_of_combine hopens hlow
          rw [hc]
          exact ⟨_, .pair hlarge (hopening ▸ hds) (hclosing ▸ hes), by simp⟩
        · cases h
      · cases h
      · cases h
    · next hopens =>
      obtain ⟨rfl, rfl⟩ := Prod.mk.inj (Except.ok.inj h)
      have hvalid : unit.isValidChar := by
        have hlt := unitForm_lt hds
        simp only [CodePoint.opensPair, CodePoint.closesPair, Bool.and_eq_true,
          decide_eq_true_eq] at hopens hcloses
        unfold Nat.isValidChar
        omega
      obtain ⟨c, hc, hnumber⟩ := CodePoint.ofNat_eq_char hvalid
      exact ⟨ds, hc ▸ .escape (hnumber.symm ▸ hds), rfl⟩

/-- Every escape that is accepted is a form of its character, if surrogates have to form pairs. -/
theorem charForm_of_escape {rules : Rules} (hrules : rules.pairedSurrogates = true) {s rest : Text}
    {x : CodePoint} (h : escape rules s = .ok (x, rest)) :
    ∃ t, CharForm x (char '\\' :: t) ∧ s = t ++ rest := by
  cases s with
  | nil => cases h
  | cons e s =>
    have hshort {c : CodePoint} (hmem : (e, c) ∈ shortEscapes)
        (hok : Except.ok (c, s) = (Except.ok (x, rest) : Outcome _)) :
        ∃ t, CharForm x (char '\\' :: t) ∧ e :: s = t ++ rest := by
      obtain ⟨rfl, rfl⟩ := Prod.mk.inj (Except.ok.inj hok)
      exact ⟨[e], .short hmem, rfl⟩
    simp only [escape, hrules, if_true] at h
    split_ifs at h with hquote hbackslash hslash hb hf hn hr ht hu
    · exact hshort (by rw [hquote]; decide) h
    · exact hshort (by rw [hbackslash]; decide) h
    · exact hshort (by rw [hslash]; decide) h
    · exact hshort (by rw [hb]; decide) h
    · exact hshort (by rw [hf]; decide) h
    · exact hshort (by rw [hn]; decide) h
    · exact hshort (by rw [hr]; decide) h
    · exact hshort (by rw [ht]; decide) h
    · obtain ⟨t, hform, rfl⟩ := charForm_of_pairedEscape h
      exact ⟨char 'u' :: t, hform, by rw [hu, List.cons_append]⟩
    · cases h

/-- What is accepted up to the quote is a form of the text that it is read as. -/
theorem textForm_of_quotedWithin {rules : Rules} (hrules : rules.pairedSurrogates = true)
    {fuel : Nat} {s rest k : Text} (h : quotedWithin rules fuel s = .ok (k, rest)) :
    ∃ t, TextForm true k t ∧ s = t ++ char '\x22' :: rest := by
  induction fuel generalizing s k with
  | zero => cases h
  | succ fuel ih =>
    cases s with
    | nil => cases h
    | cons c s =>
      simp only [quotedWithin] at h
      split at h
      · next hc =>
        obtain ⟨rfl, rfl⟩ := Prod.mk.inj (Except.ok.inj h)
        exact ⟨[], .nil, by rw [hc]; rfl⟩
      · next hquote =>
        split at h
        · next hc =>
          obtain ⟨⟨x, afterEscape⟩, hx, h⟩ := bind_eq_ok_iff.1 h
          obtain ⟨⟨ys, rest'⟩, hys, h⟩ := bind_eq_ok_iff.1 h
          obtain ⟨rfl, rfl⟩ := Prod.mk.inj (Except.ok.inj h)
          obtain ⟨t, hchar, rfl⟩ := charForm_of_escape hrules hx
          obtain ⟨u, htext, rfl⟩ := ih hys
          exact ⟨char '\\' :: t ++ u, .cons hchar htext, by simp [hc]⟩
        · next hbackslash =>
          split at h
          · cases h
          · next hcontrol =>
            split at h
            · cases h
            · next hraw =>
              obtain ⟨⟨ys, rest'⟩, hys, h⟩ := bind_eq_ok_iff.1 h
              obtain ⟨rfl, rfl⟩ := Prod.mk.inj (Except.ok.inj h)
              obtain ⟨u, htext, rfl⟩ := ih hys
              cases c with
              | char c =>
                have hplain : CharForm (char c) [char c] :=
                  .plain (Nat.not_lt.1 hcontrol) hquote hbackslash
                exact ⟨[char c] ++ u, .cons hplain htext, rfl⟩
              | surrogate place => simp [CodePoint.isSurrogate, hrules] at hraw

/-- So it is whatever the fuel was that the length of the input gave. -/
theorem textForm_of_quoted {rules : Rules} (hrules : rules.pairedSurrogates = true)
    {s rest k : Text} (h : quoted rules s = .ok (k, rest)) :
    ∃ t, TextForm true k t ∧ s = t ++ char '\x22' :: rest :=
  textForm_of_quotedWithin hrules h

end Characters

section Values

/-- A number that is accepted is written as the grammar says. -/
theorem written_of_number {rules : Rules} {s rest : Text} {v : Value}
    (h : number rules s = .ok (v, rest)) : ∃ t, Written v t ∧ s = t ++ rest := by
  unfold number at h
  split at h
  · obtain ⟨t, ht, rfl⟩ := numberForm_of_unsignedNumber h
    exact ⟨char '-' :: t, .negative ht, rfl⟩
  · obtain ⟨t, ht, rfl⟩ := numberForm_of_unsignedNumber h
    exact ⟨t, .number ht, rfl⟩

/-- So is every value that is neither a list nor an object. -/
theorem written_of_scalar {rules : Rules} (hrules : rules.pairedSurrogates = true) {s rest : Text}
    {v : Value} (h : scalar rules s = .ok (v, rest)) : ∃ t, Written v t ∧ s = t ++ rest := by
  have hword {w : Text} {x : Value} (hmem : (w, x) ∈ words)
      (hread : (do return (x, ← word w s)) = (Except.ok (v, rest) : Outcome _)) :
      ∃ t, Written v t ∧ s = t ++ rest := by
    obtain ⟨rest', hrest, hvalue⟩ := bind_eq_ok_iff.1 hread
    obtain ⟨rfl, rfl⟩ := Prod.mk.inj (Except.ok.inj hvalue)
    exact ⟨w, .word hmem, eq_append_of_word hrest⟩
  cases s with
  | nil => cases h
  | cons c s =>
    simp only [scalar] at h
    split_ifs at h with hquote ht hf hn hN hnumber
    · obtain ⟨⟨k, rest'⟩, hk, hvalue⟩ := bind_eq_ok_iff.1 h
      obtain ⟨rfl, rfl⟩ := Prod.mk.inj (Except.ok.inj hvalue)
      obtain ⟨t, htext, rfl⟩ := textForm_of_quoted hrules hk
      exact ⟨char '\x22' :: t ++ [char '\x22'], .text htext, by simp [hquote]⟩
    · exact hword (by simp [words]) h
    · exact hword (by simp [words]) h
    · exact hword (by simp [words]) h
    · exact hword (by simp [words]) h
    · exact written_of_number h
    · cases h

end Values

section Containers

/-- A reader that accepts nothing but blanks and a form of the value that it reads. -/
def Accepts (read : Text → Outcome (Value × Text)) (member : Value → Text → Prop) : Prop :=
  ∀ {v : Value} {s rest : Text}, read s = .ok (v, rest) →
    ∃ ws t, Blanks ws ∧ member v t ∧ s = ws ++ t ++ rest

variable {read : Text → Outcome (Value × Text)} {member : Value → Text → Prop}

/-- The members of a list that is accepted, up to its bracket, are forms with commas between them.
-/
theorem membersForm_of_members (hread : Accepts read member) {fuel : Nat} {s rest : Text}
    {vs : List Value} (h : members read fuel s = .ok (vs, rest)) :
    ∃ ws t, Blanks ws ∧ MembersForm member vs t ∧ s = ws ++ t ++ char ']' :: rest := by
  induction fuel generalizing s vs with
  | zero => cases h
  | succ fuel ih =>
    obtain ⟨⟨v, afterValue⟩, hv, hnext⟩ := bind_eq_ok_iff.1 h
    obtain ⟨ws, u, hws, hu, rfl⟩ := hread hv
    simp only at hnext
    split at hnext
    · cases hnext
    · next c afterMark hskip =>
      obtain ⟨behind, hbehind, rfl⟩ := blanks_of_skipBlanks hskip
      split at hnext
      · next hc =>
        obtain ⟨rfl, rfl⟩ := Prod.mk.inj (Except.ok.inj hnext)
        exact ⟨ws, u ++ behind, hws, .last hu hbehind, by simp [hc]⟩
      · split at hnext
        · next hc =>
          split at hnext
          · cases hnext
          · next d more hskip' =>
            obtain ⟨before, hbefore, rfl⟩ := blanks_of_skipBlanks hskip'
            split at hnext
            · cases hnext
            · obtain ⟨⟨vs', rest'⟩, hvs, hlast⟩ := bind_eq_ok_iff.1 hnext
              obtain ⟨rfl, rfl⟩ := Prod.mk.inj (Except.ok.inj hlast)
              obtain ⟨ws', t, hws', ht, hrest⟩ := ih hvs
              exact ⟨ws, _, hws, .cons hu hbehind (hbefore.append hws') ht,
                by simp [hc, hrest]⟩
        · cases hnext

/-- A list whose members are accepted is written as a list. -/
theorem listForm_of_list (hread : Accepts read member) {s rest : Text} {v : Value}
    (h : list read s = .ok (v, rest)) :
    ∃ vs t, v = .list vs ∧ ListForm member vs (char '[' :: t) ∧ s = t ++ rest := by
  unfold list at h
  split at h
  · cases h
  · next c more hskip =>
    obtain ⟨ws, hws, rfl⟩ := blanks_of_skipBlanks hskip
    split at h
    · next hc =>
      obtain ⟨rfl, rfl⟩ := Prod.mk.inj (Except.ok.inj h)
      exact ⟨[], ws ++ [char ']'], rfl, .empty hws, by simp [hc]⟩
    · obtain ⟨⟨vs, rest'⟩, hvs, hvalue⟩ := bind_eq_ok_iff.1 h
      obtain ⟨rfl, rfl⟩ := Prod.mk.inj (Except.ok.inj hvalue)
      obtain ⟨ws', t, hws', ht, hmore⟩ := membersForm_of_members hread hvs
      exact ⟨vs, ws ++ ws' ++ t ++ [char ']'], rfl, .members (hws.append hws') ht, by simp [hmore]⟩

/-- A name that is accepted is a quoted text, and its colon may have blanks before it. -/
theorem textForm_of_name {rules : Rules} (hrules : rules.pairedSurrogates = true) {s rest : Text}
    {k : Text} (h : name rules s = .ok (k, rest)) :
    ∃ t before, TextForm true k t ∧ Blanks before ∧
      s = char '\x22' :: t ++ char '\x22' :: before ++ char ':' :: rest := by
  unfold name at h
  split at h
  · obtain ⟨⟨ys, afterQuote⟩, hys, hnext⟩ := bind_eq_ok_iff.1 h
    obtain ⟨t, ht, rfl⟩ := textForm_of_quoted hrules hys
    simp only at hnext
    split at hnext
    · cases hnext
    · next c more hskip =>
      obtain ⟨before, hbefore, rfl⟩ := blanks_of_skipBlanks hskip
      split at hnext
      · next hc =>
        obtain ⟨rfl, rfl⟩ := Prod.mk.inj (Except.ok.inj hnext)
        exact ⟨t, before, ht, hbefore, by simp [hc]⟩
      · cases hnext
  · cases h

/-- The entries of an object that is accepted, up to its brace, are forms with commas between them.
-/
theorem entriesForm_of_entries {rules : Rules} (hrules : rules.pairedSurrogates = true)
    (hread : Accepts read member) {fuel : Nat} {s rest : Text} {es : List (Text × Value)}
    (h : entries rules read fuel s = .ok (es, rest)) :
    ∃ t, EntriesForm true member es t ∧ s = t ++ char '\x7d' :: rest := by
  induction fuel generalizing s es with
  | zero => cases h
  | succ fuel ih =>
    obtain ⟨⟨k, afterName⟩, hname, hvalue⟩ := bind_eq_ok_iff.1 h
    obtain ⟨t, before, ht, hbefore, rfl⟩ := textForm_of_name hrules hname
    obtain ⟨⟨v, afterValue⟩, hv, hnext⟩ := bind_eq_ok_iff.1 hvalue
    obtain ⟨ws, u, hws, hu, rfl⟩ := hread hv
    simp only at hnext
    split at hnext
    · cases hnext
    · next c afterMark hskip =>
      obtain ⟨behind, hbehind, rfl⟩ := blanks_of_skipBlanks hskip
      have hentry := EntryForm.mk ht hbefore hws hu hbehind
      split at hnext
      · next hc =>
        obtain ⟨rfl, rfl⟩ := Prod.mk.inj (Except.ok.inj hnext)
        exact ⟨_, .last hentry, by simp [hc]⟩
      · split at hnext
        · next hc =>
          split at hnext
          · cases hnext
          · next d more hskip' =>
            obtain ⟨gap, hgap, rfl⟩ := blanks_of_skipBlanks hskip'
            split at hnext
            · cases hnext
            · obtain ⟨⟨es', rest'⟩, hes, hlast⟩ := bind_eq_ok_iff.1 hnext
              obtain ⟨rfl, rfl⟩ := Prod.mk.inj (Except.ok.inj hlast)
              obtain ⟨t', hform, hrest⟩ := ih hes
              exact ⟨_, .cons hentry hgap hform, by simp [hc, hrest]⟩
        · cases hnext

/-- An object whose entries are accepted is written as an object. -/
theorem objectForm_of_object {rules : Rules} (hrules : rules.pairedSurrogates = true)
    (hread : Accepts read member) {s rest : Text} {es : List (Text × Value)}
    (h : object rules read s = .ok (es, rest)) :
    ∃ t, ObjectForm true member es (char '\x7b' :: t) ∧ s = t ++ rest := by
  unfold object at h
  split at h
  · cases h
  · next c more hskip =>
    obtain ⟨ws, hws, rfl⟩ := blanks_of_skipBlanks hskip
    split at h
    · next hc =>
      obtain ⟨rfl, rfl⟩ := Prod.mk.inj (Except.ok.inj h)
      exact ⟨ws ++ [char '\x7d'], .empty hws, by simp [hc]⟩
    · obtain ⟨t, ht, hmore⟩ := entriesForm_of_entries hrules hread h
      exact ⟨ws ++ t ++ [char '\x7d'], .entries hws ht, by simp [hmore]⟩

end Containers

section Documents

variable {rules : Rules}

/-- Beyond the greatest depth an object is accepted when it is empty. -/
theorem written_of_emptyObject {s rest : Text} {v : Value}
    (h : emptyObject rules s = .ok (v, rest)) :
    ∃ t, Written v (char '\x7b' :: t) ∧ s = t ++ rest := by
  unfold emptyObject at h
  split at h
  · cases h
  · next c more hskip =>
    obtain ⟨ws, hws, rfl⟩ := blanks_of_skipBlanks hskip
    split at h
    · next hc =>
      obtain ⟨rfl, rfl⟩ := Prod.mk.inj (Except.ok.inj h)
      exact ⟨ws ++ [char '\x7d'], .object (.empty hws), by simp [hc]⟩
    · obtain ⟨_, -, h⟩ := bind_eq_ok_iff.1 h
      simp only at h
      split at h <;> cases h

/-- Where no list may be opened any more, only the one without members is accepted. -/
theorem written_of_emptyList {s rest : Text} {v : Value} (h : emptyList s = .ok (v, rest)) :
    ∃ t, Written v (char '[' :: t) ∧ s = t ++ rest := by
  unfold emptyList at h
  split at h
  · cases h
  · next c more hskip =>
    obtain ⟨ws, hws, rfl⟩ := blanks_of_skipBlanks hskip
    split at h
    · next hc =>
      obtain ⟨rfl, rfl⟩ := Prod.mk.inj (Except.ok.inj h)
      exact ⟨ws ++ [char ']'], .list (.empty hws), by simp [hc]⟩
    · cases h

/-- What is accepted as a value is a form of the value. -/
theorem accepts_value (hrules : rules.pairedSurrogates = true) (depth : Nat) :
    Accepts (value rules depth) Written := by
  induction depth with
  | zero =>
    intro v s rest h
    unfold value at h
    split at h
    · next more hskip =>
      obtain ⟨ws, hws, rfl⟩ := blanks_of_skipBlanks hskip
      split at h
      · obtain ⟨t, ht, rfl⟩ := written_of_emptyList h
        exact ⟨ws, _, hws, ht, by simp⟩
      · cases h
    · next more hskip =>
      obtain ⟨ws, hws, rfl⟩ := blanks_of_skipBlanks hskip
      split at h
      · obtain ⟨t, ht, rfl⟩ := written_of_emptyObject h
        exact ⟨ws, _, hws, ht, by simp⟩
      · cases h
    · obtain ⟨t, ht, hskip⟩ := written_of_scalar hrules h
      obtain ⟨ws, hws, rfl⟩ := blanks_of_skipBlanks hskip
      exact ⟨ws, t, hws, ht, (List.append_assoc _ _ _).symm⟩
  | succ depth ih =>
    intro v s rest h
    unfold value at h
    split at h
    · next more hskip =>
      obtain ⟨ws, hws, rfl⟩ := blanks_of_skipBlanks hskip
      obtain ⟨vs, t, rfl, ht, rfl⟩ := listForm_of_list ih h
      exact ⟨ws, _, hws, .list ht, by simp⟩
    · next more hskip =>
      obtain ⟨ws, hws, rfl⟩ := blanks_of_skipBlanks hskip
      obtain ⟨⟨es, rest'⟩, hes, hvalue⟩ := bind_eq_ok_iff.1 h
      obtain ⟨rfl, rfl⟩ := Prod.mk.inj (Except.ok.inj hvalue)
      obtain ⟨t, ht, rfl⟩ := objectForm_of_object hrules ih hes
      exact ⟨ws, _, hws, .object ht, by simp⟩
    · obtain ⟨t, ht, hskip⟩ := written_of_scalar hrules h
      obtain ⟨ws, hws, rfl⟩ := blanks_of_skipBlanks hskip
      exact ⟨ws, t, hws, ht, (List.append_assoc _ _ _).symm⟩

/-- An accepted document is a form of the value that is read, between blanks. -/
theorem written_of_read (hrules : rules.pairedSurrogates = true) {s : Text} {v : Value}
    (h : read rules s = .ok v) :
    ∃ before t behind, Blanks before ∧ Written v t ∧ Blanks behind ∧ s = before ++ t ++ behind := by
  obtain ⟨⟨v', rest⟩, hvalue, hfinish⟩ := bind_eq_ok_iff.1 h
  obtain ⟨before, t, hbefore, ht, rfl⟩ := accepts_value hrules _ hvalue
  simp only [finish] at hfinish
  split at hfinish
  · next hskip =>
    obtain rfl := Except.ok.inj hfinish
    obtain ⟨behind, hbehind, rfl⟩ := blanks_of_skipBlanks hskip
    exact ⟨before, t, behind, hbefore, ht, hbehind, by rw [List.append_nil]⟩
  · cases hfinish

end Documents

end WorkloadTrace.Json
