import WorkloadTrace.Decimal

/-!
# Style sequences

A terminal shows some sequences of characters as a change of style: an escape character, a bracket,
digits and marks, and a letter. Printed text does not have them. Text is read once from the left, so
what is left can look like a sequence again.
-/

namespace WorkloadTrace.Text

/-- The escape character. -/
def escapeCharacter : CodePoint := char '\x1b'

/-- A digit or a mark inside a style sequence. -/
def isStyleMark (c : CodePoint) : Bool := c = char ';' || c = char '?' || Decimal.isDigit c

/-- An ASCII letter, which ends a style sequence. -/
def endsStyle (c : CodePoint) : Bool :=
  (char 'a' ≤ c && c ≤ char 'z') || (char 'A' ≤ c && c ≤ char 'Z')

/-- The number of characters after the escape character of a style sequence, if one goes on like
this. -/
def styleLength? : Text → Option Nat
  | char '[' :: rest =>
    match rest.dropWhile isStyleMark with
    | c :: _ => if endsStyle c then some ((rest.takeWhile isStyleMark).length + 2) else none
    | [] => none
  | _ => none

/-- Text without its first characters, and without the style sequences in the rest. -/
def dropStylesAfter : Nat → Text → Text
  | _, [] => []
  | n + 1, _ :: rest => dropStylesAfter n rest
  | 0, c :: rest =>
    match (if c = escapeCharacter then styleLength? rest else none) with
    | some n => dropStylesAfter n rest
    | none => c :: dropStylesAfter 0 rest

/-- Text without style sequences. -/
def dropStyles (s : Text) : Text := dropStylesAfter 0 s

end WorkloadTrace.Text
