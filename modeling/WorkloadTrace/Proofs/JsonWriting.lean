import Mathlib.Tactic.SplitIfs
import WorkloadTrace.Json.Writer
import WorkloadTrace.Proofs.JsonForms

/-!
# Written documents are forms

What the writer makes of a text, of a natural number and of an object made of these is one of its
forms, with or without blanks after commas and colons, when surrogates in its texts do not look like
the halves of a pair. A pair of surrogates is written like the character that it means.
-/

namespace WorkloadTrace.Json

/-- The last of several hexadecimal digits is the remainder, and the others are those of the
quotient. -/
theorem hexDigits_succ {width : Nat} (hwidth : 0 < width) (n : Nat) :
    Text.hexDigits (width + 1) n = Text.hexDigits width (n / 16) ++ [char (n % 16).digitChar] := by
  unfold Text.hexDigits
  by_cases hn : n < 16
  · obtain ⟨w, rfl⟩ := Nat.exists_eq_succ_of_ne_zero (Nat.ne_of_gt hwidth)
    rw [Nat.toDigits_of_lt_base hn, Nat.div_eq_of_lt hn, Nat.mod_eq_of_lt hn]
    exact congrArg (· ++ [char n.digitChar]) List.replicate_succ'
  · have hdigits : Nat.toDigits 16 n = Nat.toDigits 16 (n / 16) ++ [(n % 16).digitChar] := by
      rw [Nat.toDigits_eq_if (by decide), if_neg hn]
    rw [hdigits]
    simp only [List.map_append, List.map_cons, List.map_nil, List.length_append,
      List.length_singleton, Nat.add_sub_add_right, List.append_assoc]

/-- The four hexadecimal digits of a code unit. -/
theorem hexDigits_four {n : Nat} (hn : n < 0x10000) :
    Text.hexDigits 4 n = [(n / 0x1000).digitChar, (n / 0x100 % 16).digitChar,
      (n / 0x10 % 16).digitChar, (n % 16).digitChar].map char := by
  have h₂ : n / 16 / 16 = n / 0x100 := by omega
  have h₃ : n / 0x100 / 16 = n / 0x1000 := by omega
  have hone : Text.hexDigits 1 (n / 0x1000) = [char (n / 0x1000).digitChar] := by
    rw [Text.hexDigits, Nat.toDigits_of_lt_base (by omega)]
    rfl
  rw [hexDigits_succ (by decide), hexDigits_succ (by decide), hexDigits_succ (by decide), h₂, h₃,
    hone]
  rfl

/-- A unit is written in four hexadecimal digits. -/
theorem unitForm_hexDigits {n : Nat} (hn : n < 0x10000) : UnitForm n (Text.hexDigits 4 n) := by
  have hvalue : n = ((n / 0x1000 * 16 + n / 0x100 % 16) * 16 + n / 0x10 % 16) * 16 + n % 16 := by
    omega
  have hdigit : ∀ d, d < 16 → IsHexDigit d (char d.digitChar) := fun d hd => ⟨hd, .inl rfl⟩
  rw [hexDigits_four hn]
  have hform : UnitForm _ _ := .digits (hdigit (n / 0x1000) (by omega))
    (hdigit (n / 0x100 % 16) (by omega)) (hdigit (n / 0x10 % 16) (by omega))
    (hdigit (n % 16) (by omega))
  rwa [← hvalue] at hform

theorem unitEscape_eq (n : Nat) : unitEscape n = char '\\' :: char 'u' :: Text.hexDigits 4 n := rfl

/-- The escapes of a character beyond the first plane. -/
theorem charForm_surrogates {c : Char} (hc : ¬c.toNat < 0x10000) :
    CharForm (char c) (unitEscape (0xD800 + (c.toNat - 0x10000) / 0x400) ++
      unitEscape (0xDC00 + (c.toNat - 0x10000) % 0x400)) := by
  have hvalid : c.toNat < 0x110000 := (char c).toNat_lt
  have hopening : 0xD800 + (c.toNat - 0x10000) / 0x400 < 0x10000 := by omega
  have hclosing : 0xDC00 + (c.toNat - 0x10000) % 0x400 < 0x10000 := by omega
  rw [unitEscape_eq, unitEscape_eq]
  exact .pair (Nat.not_lt.1 hc) (unitForm_hexDigits hopening) (unitForm_hexDigits hclosing)

/-- A character is written in one of its forms. -/
theorem charForm_quoteChar (c : Char) : CharForm (char c) (quoteChar (char c)) := by
  unfold quoteChar
  split_ifs with hquote hbackslash hn hr ht hf hb hplain hshort
  · rw [hquote]; exact .short (by decide)
  · rw [hbackslash]; exact .short (by decide)
  · rw [hn]; exact .short (by decide)
  · rw [hr]; exact .short (by decide)
  · rw [ht]; exact .short (by decide)
  · rw [hf]; exact .short (by decide)
  · rw [hb]; exact .short (by decide)
  · exact .plain hplain.1 hquote hbackslash
  · exact .escape (unitForm_hexDigits hshort)
  · exact charForm_surrogates hshort

/-- A surrogate is written as its escape. -/
theorem quoteChar_surrogate (place : Fin 0x800) :
    quoteChar (.surrogate place) = unitEscape (CodePoint.surrogate place).toNat := by
  have hplain : ¬(0x20 ≤ (CodePoint.surrogate place).toNat ∧
      (CodePoint.surrogate place).toNat < 0x7f) := by
    rw [CodePoint.toNat_surrogate]
    omega
  have hshort : (CodePoint.surrogate place).toNat < 0x10000 := by
    rw [CodePoint.toNat_surrogate]
    omega
  rw [quoteChar, if_neg nofun, if_neg nofun, if_neg nofun, if_neg nofun, if_neg nofun,
    if_neg nofun, if_neg nofun, if_neg hplain, if_pos hshort]

/-- Whether what is written of a text is one of its forms: it has no surrogates where they have to
be `paired`, and otherwise none that opens a pair with the code point behind it. -/
def Legible (paired : Bool) : Text → Prop
  | [] => True
  | c :: s => (c.isSurrogate = true → paired = false ∧ Unpaired c s) ∧ Legible paired s

/-- A text is legible when its first code point is, before the rest, and the rest is. -/
theorem legible_cons {paired : Bool} {c : CodePoint} {s : Text} : Legible paired (c :: s) ↔
    (c.isSurrogate = true → paired = false ∧ Unpaired c s) ∧ Legible paired s := Iff.rfl

/-- A text without surrogates is legible. -/
theorem legible_of_hasSurrogate (paired : Bool) {s : Text} (h : Text.hasSurrogate s = false) :
    Legible paired s := by
  induction s with
  | nil => trivial
  | cons c s ih =>
    rw [Text.hasSurrogate, List.any_cons, Bool.or_eq_false_iff] at h
    exact ⟨fun hc => absurd hc (by simp [h.1]), ih h.2⟩

/-- Where surrogates have to be paired there are none. -/
theorem hasSurrogate_of_legible {s : Text} (h : Legible true s) : Text.hasSurrogate s = false := by
  induction s with
  | nil => rfl
  | cons c s ih =>
    rw [Text.hasSurrogate_cons, ih h.2, Bool.or_false, ← Bool.not_eq_true]
    exact fun hc => absurd (h.1 hc).1 nofun

/-- So is every literal. -/
theorem legible_toText (paired : Bool) (s : String) : Legible paired s.toText :=
  legible_of_hasSurrogate paired (Text.hasSurrogate_toText s)

/-- What is written of a text is one of its forms. -/
theorem textForm_flatMap_quoteChar {paired : Bool} {s : Text} (h : Legible paired s) :
    TextForm paired s (s.flatMap quoteChar) := by
  induction s with
  | nil => exact .nil
  | cons c s ih =>
    cases c with
    | char c => exact .cons (charForm_quoteChar c) (ih h.2)
    | surrogate place =>
      have hunit : (CodePoint.surrogate place).toNat < 0x10000 := by
        rw [CodePoint.toNat_surrogate]
        omega
      obtain ⟨hpaired, halone⟩ := h.1 rfl
      rw [List.flatMap_cons, quoteChar_surrogate, unitEscape_eq]
      exact .surrogate hpaired (unitForm_hexDigits hunit) halone (ih h.2)

section Pairs

/-- A code point in front of a text, as one character with the first of the text when the two are
the halves of a pair. -/
def join (c : CodePoint) : Text → Text
  | [] => [c]
  | d :: s =>
    if CodePoint.opensPair c.toNat && CodePoint.closesPair d.toNat then
      CodePoint.combine c.toNat d.toNat :: s
    else c :: d :: s

/-- The text with each pair of surrogates replaced by the character that it means. -/
def joined (s : Text) : Text := s.foldr join []

theorem joined_cons (c : CodePoint) (s : Text) : joined (c :: s) = join c (joined s) := rfl

/-- A surrogate is written as the escape of its unit. -/
theorem quoteChar_of_isSurrogate {c : CodePoint} (h : 0xD800 ≤ c.toNat) (hlt : c.toNat < 0xE000) :
    quoteChar c = unitEscape c.toNat := by
  cases c with
  | char c =>
    have hrange := CodePoint.toNat_char_range c
    simp only [CodePoint.toNat_char] at h hlt
    omega
  | surrogate place => exact quoteChar_surrogate place

/-- The halves of a pair are written like the character that the pair means. -/
theorem quoteChar_combine {c d : CodePoint} (hc : CodePoint.opensPair c.toNat = true)
    (hd : CodePoint.closesPair d.toNat = true) :
    quoteChar (CodePoint.combine c.toNat d.toNat) = quoteChar c ++ quoteChar d := by
  obtain ⟨e, he, hnumber⟩ := CodePoint.combine_eq_char hc hd
  simp only [CodePoint.opensPair, CodePoint.closesPair, Bool.and_eq_true, decide_eq_true_eq]
    at hc hd
  have hbig : 0x10000 ≤ (char e).toNat := by rw [CodePoint.toNat_char]; omega
  have hother : ∀ a : Char, a.toNat < 0x10000 → char e ≠ char a := by
    rintro a ha h
    rw [CodePoint.char.inj h] at hbig
    exact absurd ha (Nat.not_lt.2 hbig)
  have hopening : 0xD800 + ((char e).toNat - 0x10000) / 0x400 = c.toNat := by
    rw [CodePoint.toNat_char]
    omega
  have hclosing : 0xDC00 + ((char e).toNat - 0x10000) % 0x400 = d.toNat := by
    rw [CodePoint.toNat_char]
    omega
  rw [he, quoteChar_of_isSurrogate hc.1 (by omega), quoteChar_of_isSurrogate (by omega) hd.2,
    quoteChar, if_neg (hother _ (by decide)), if_neg (hother _ (by decide)),
    if_neg (hother _ (by decide)), if_neg (hother _ (by decide)), if_neg (hother _ (by decide)),
    if_neg (hother _ (by decide)), if_neg (hother _ (by decide)), if_neg (by omega),
    if_neg (by omega), ← hopening, ← hclosing]

/-- Two halves of a pair are written alike whether they are joined or not. -/
theorem flatMap_quoteChar_join (c : CodePoint) (s : Text) :
    (join c s).flatMap quoteChar = quoteChar c ++ s.flatMap quoteChar := by
  cases s with
  | nil => simp [join]
  | cons d s =>
    rw [join]
    split
    · next h =>
      rw [Bool.and_eq_true] at h
      rw [List.flatMap_cons, quoteChar_combine h.1 h.2, List.append_assoc, List.flatMap_cons]
    · rw [List.flatMap_cons]

/-- A text is written like the text of the characters that its pairs mean. -/
theorem flatMap_quoteChar_joined (s : Text) :
    (joined s).flatMap quoteChar = s.flatMap quoteChar := by
  induction s with
  | nil => rfl
  | cons c s ih => rw [joined_cons, flatMap_quoteChar_join, ih, List.flatMap_cons]

/-- Joining leaves a text legible. -/
theorem legible_join {c : CodePoint} {s : Text} (h : Legible false s) :
    Legible false (join c s) := by
  cases s with
  | nil => simp [join, Legible, Unpaired]
  | cons d s =>
    rw [join]
    split
    · next hpair =>
      rw [Bool.and_eq_true] at hpair
      obtain ⟨e, he, -⟩ := CodePoint.combine_eq_char hpair.1 hpair.2
      rw [he, legible_cons]
      exact ⟨nofun, h.2⟩
    · next hpair =>
      have halone : Unpaired c (d :: s) := by
        intro hopens
        simpa [hopens] using hpair
      rw [legible_cons]
      exact ⟨fun _ => ⟨rfl, halone⟩, h⟩

/-- Without pairs of surrogates, every text is written as one of its forms. -/
theorem legible_joined (s : Text) : Legible false (joined s) := by
  induction s with
  | nil => trivial
  | cons c s ih => exact legible_join ih

/-- Nothing is joined in a text whose surrogates do not look like pairs. -/
theorem joined_eq_self {paired : Bool} {s : Text} (h : Legible paired s) : joined s = s := by
  induction s with
  | nil => rfl
  | cons c s ih =>
    rw [joined_cons, ih h.2]
    cases s with
    | nil => rfl
    | cons d s =>
      rw [join, if_neg]
      rw [Bool.and_eq_true]
      rintro ⟨hopens, hcloses⟩
      cases c with
      | char c => simp [CodePoint.opensPair_toNat] at hopens
      | surrogate place => simpa [hcloses] using (h.1 rfl).2 hopens d rfl

/-- A text is written as it is quoted. -/
theorem write_text (sep : Separators) (s : Text) : write sep (.text s) = quote s := by
  simp [write, scalarText]

/-- Names and texts with their pairs of surrogates replaced. -/
def joinedTexts (values : Fields Text) : Fields Text :=
  values.map fun f => (joined f.1, joined f.2)

/-- An object of texts is written like the one without pairs of surrogates. -/
theorem write_joinedTexts (sep : Separators) (values : Fields Text) :
    write sep (.object ((joinedTexts values).map fun f => (f.1, .text f.2))) =
      write sep (.object (values.map fun f => (f.1, .text f.2))) := by
  have hquote (s : Text) : quote (joined s) = quote s := by
    rw [quote, flatMap_quoteChar_joined, ← quote]
  have hentries : writeEntries sep ((joinedTexts values).map fun f => (f.1, .text f.2)) =
      writeEntries sep (values.map fun f => (f.1, .text f.2)) := by
    induction values with
    | nil => rfl
    | cons f rest ih =>
      simp only [joinedTexts, List.map_cons, writeEntries, write_text, hquote] at ih ⊢
      rw [ih]
  rw [write, write, hentries]

/-- Nothing is joined in names and texts that are legible. -/
theorem joinedTexts_eq_self {paired : Bool} {values : Fields Text}
    (h : ∀ f ∈ values, Legible paired f.1 ∧ Legible paired f.2) : joinedTexts values = values := by
  have hself : ∀ f ∈ values, (joined f.1, joined f.2) = f := fun f hf => by
    rw [joined_eq_self (h f hf).1, joined_eq_self (h f hf).2]
  rw [joinedTexts, List.map_congr_left hself, List.map_id']

end Pairs

/-- What is written of a legible text is one of its forms. -/
theorem scalarForm_write_text {paired : Bool} (sep : Separators) {s : Text} (h : Legible paired s) :
    ScalarForm paired (.text s) (write sep (.text s)) := by
  rw [write_text]
  exact .text (textForm_flatMap_quoteChar h)

/-- What is written of a natural number is its only form. -/
theorem scalarForm_write_natural (paired : Bool) (sep : Separators) {n : Nat}
    (hn : (Decimal.ofNat n).length ≤ maxIntegerDigits) :
    ScalarForm paired (.int n) (write sep (.int n)) := by
  have hwrite : write sep (.int n) = Decimal.ofNat n := by simp [write, scalarText]; rfl
  rw [hwrite]
  exact .natural hn

/-- Separators that are a comma and a colon, each followed by blanks. -/
structure Separators.IsBlank (sep : Separators) : Prop where
  /-- Blanks follow the comma. -/
  item : ∃ ws, Blanks ws ∧ sep.item = char ',' :: ws
  /-- Blanks follow the colon. -/
  colon : ∃ ws, Blanks ws ∧ sep.colon = char ':' :: ws

/-- Separators may have a blank behind them. -/
theorem Separators.isBlank_spaced : spaced.IsBlank where
  item := ⟨[char ' '], by simp [Blanks, Json.isBlank], rfl⟩
  colon := ⟨[char ' '], by simp [Blanks, Json.isBlank], rfl⟩

/-- They may have none. -/
theorem Separators.isBlank_compact : compact.IsBlank where
  item := ⟨[], by simp [Blanks], rfl⟩
  colon := ⟨[], by simp [Blanks], rfl⟩

variable {paired : Bool} {member : Value → Text → Prop} {sep : Separators}

/-- An entry is written as an entry. -/
theorem entryForm_write (hsep : sep.IsBlank) {k : Text} {v : Value} (hk : Legible paired k)
    (h : member v (write sep v)) :
    EntryForm paired member (k, v) (quote k ++ sep.colon ++ write sep v) := by
  obtain ⟨ws, hws, hcolon⟩ := hsep.colon
  have hnone : Blanks [] := by simp [Blanks]
  have hform := EntryForm.mk (textForm_flatMap_quoteChar hk) hnone hws h hnone
  simpa [quote, hcolon] using hform

/-- Parts with a separator between them, the first part in front. -/
theorem joinWith_cons {item ws : Text} (hitem : item = char ',' :: ws) (part : Text)
    {parts : List Text}
    (hne : parts ≠ []) :
    Text.joinWith item (part :: parts) = part ++ char ',' :: ws ++ Text.joinWith item parts := by
  obtain ⟨next, parts, rfl⟩ := List.exists_cons_of_ne_nil hne
  simp [Text.joinWith, hitem]

/-- Entries are written with commas between them. -/
theorem entriesForm_write (hsep : sep.IsBlank) {es : List (Text × Value)} (hne : es ≠ [])
    (h : ∀ e ∈ es, Legible paired e.1 ∧ member e.2 (write sep e.2)) :
    EntriesForm paired member es (Text.joinWith sep.item (writeEntries sep es)) := by
  induction es with
  | nil => exact absurd rfl hne
  | cons e es ih =>
    obtain ⟨hfirst, hrest⟩ := List.forall_mem_cons.1 h
    have hentry := entryForm_write hsep hfirst.1 hfirst.2
    cases es with
    | nil => simpa [writeEntries, Text.joinWith] using EntriesForm.last hentry
    | cons e' es =>
      obtain ⟨ws, hws, hitem⟩ := hsep.item
      have hform := EntriesForm.cons hentry hws (ih (by simp) hrest)
      rw [writeEntries, joinWith_cons hitem]
      · exact hform
      · simp [writeEntries]

/-- An object is written in one of its forms when its values are. -/
theorem objectForm_write (hsep : sep.IsBlank) {es : List (Text × Value)}
    (h : ∀ e ∈ es, Legible paired e.1 ∧ member e.2 (write sep e.2)) :
    ObjectForm paired member es (write sep (.object es)) := by
  have hnone : Blanks [] := by simp [Blanks]
  cases es with
  | nil => simpa [write, writeEntries, Text.joinWith] using ObjectForm.empty hnone
  | cons e es =>
    have hform := ObjectForm.entries hnone (entriesForm_write hsep (by simp) h)
    simpa [write] using hform

/-- The values that are written in one of their forms: legible texts, natural numbers and objects of
these, of which at most `depth` are open at a time. -/
inductive Plain (paired : Bool) : Nat → Value → Prop where
  /-- A text. -/
  | text (depth : Nat) {s : Text} (h : Legible paired s) : Plain paired depth (.text s)
  /-- A natural number whose numeral is not too long. -/
  | natural (depth : Nat) {n : Nat} (h : (Decimal.ofNat n).length ≤ maxIntegerDigits) :
    Plain paired depth (.int n)
  /-- An object. -/
  | object {depth : Nat} {es : List (Text × Value)} (hnames : ∀ e ∈ es, Legible paired e.1)
    (h : ∀ e ∈ es, Plain paired depth e.2) : Plain paired (depth + 1) (.object es)

/-- Legible texts under legible names make an object that is written in one of its forms. -/
theorem plain_texts (depth : Nat) {values : Fields Text}
    (h : ∀ f ∈ values, Legible paired f.1 ∧ Legible paired f.2) :
    Plain paired (depth + 1) (.object (values.map fun f => (f.1, .text f.2))) := by
  refine .object (fun e he => ?_) (fun e he => ?_)
  · obtain ⟨f, hf, rfl⟩ := List.mem_map.1 he
    exact (h f hf).1
  · obtain ⟨f, hf, rfl⟩ := List.mem_map.1 he
    exact .text depth (h f hf).2

/-- A value is written in one of its forms. -/
theorem form_write (hsep : sep.IsBlank) {depth : Nat} {v : Value} (h : Plain paired depth v) :
    Form paired depth v (write sep v) := by
  induction h with
  | text depth hs => exact (scalarForm_write_text sep hs).form depth
  | natural depth hn => exact (scalarForm_write_natural paired sep hn).form depth
  | object hnames h ih =>
    exact .inr ⟨_, rfl, objectForm_write hsep fun e he => ⟨hnames e he, ih e he⟩⟩

end WorkloadTrace.Json
