import WorkloadTrace.Text
import WorkloadTrace.Text.Printable

/-!
# Quoted forms

The form in which messages show a text or a byte string: between single quotes, or between
double quotes when the content has a single quote and no double quote. The backslash, the quote
in use and every character that is not printable are written as a backslash and a code.
-/

namespace WorkloadTrace.Text

/-- The hexadecimal digits of a number, in lower case and in at least the given width. -/
def hexDigits (width n : Nat) : Text :=
  let ds := (Nat.toDigits 16 n).map char
  List.replicate (width - ds.length) (char '0') ++ ds

/-- The quote that stands around a content. -/
def quoteFor (content : List Nat) : CodePoint :=
  if content.contains 0x27 && !content.contains 0x22 then char '\x22' else char '\x27'

/-- The backslash form that a character has in every quoted content, if it has one. -/
def shortEscape? (quote : CodePoint) (c : CodePoint) : Option Text :=
  if c = quote ∨ c = char '\\' then some [char '\\', c]
  else if c = char '\n' then some [char '\\', char 'n']
  else if c = char '\r' then some [char '\\', char 'r']
  else if c = char '\t' then some [char '\\', char 't']
  else none

/-- One character of a quoted text. -/
def quoteChar (quote c : CodePoint) : Text :=
  match shortEscape? quote c with
  | some e => e
  | none =>
    if isPrintable c then [c]
    else if c.toNat < 0x100 then [char '\\', char 'x'] ++ hexDigits 2 c.toNat
    else if c.toNat < 0x10000 then [char '\\', char 'u'] ++ hexDigits 4 c.toNat
    else [char '\\', char 'U'] ++ hexDigits 8 c.toNat

/-- A text as messages show it. -/
def quoted (s : Text) : Text :=
  let quote := quoteFor (s.map CodePoint.toNat)
  quote :: s.flatMap (quoteChar quote) ++ [quote]

/-- One byte of a quoted byte string. -/
def quoteByte (quote : CodePoint) (b : UInt8) : Text :=
  match shortEscape? quote (CodePoint.ofNat b.toNat) with
  | some e => e
  | none =>
    if 0x20 ≤ b.toNat ∧ b.toNat < 0x7F then [CodePoint.ofNat b.toNat]
    else [char '\\', char 'x'] ++ hexDigits 2 b.toNat

/-- A byte string as messages show it, after the letter `b`. -/
def quotedBytes (bs : List UInt8) : Text :=
  let quote := quoteFor (bs.map UInt8.toNat)
  (char 'b') :: quote :: bs.flatMap (quoteByte quote) ++ [quote]

end WorkloadTrace.Text
