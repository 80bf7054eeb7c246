import WorkloadTrace.Text.CodePoint

/-!
# Text

Text is a finite list of code points, so every statement about a line of a trace is a statement
about a list. This module holds the operations that the other modules share: splitting and
joining at a separator, and removing blanks from both ends for two sets of blanks. Cutting, joining
and removing at the ends do not depend on what the elements of a list are.
-/

namespace WorkloadTrace

/-- Text as a list of code points. -/
abbrev Text := List CodePoint

namespace Text

/-- A character with the Unicode property `White_Space`. -/
def isSpace (c : CodePoint) : Bool :=
  let n := c.toNat
  (9 ≤ n && n ≤ 13) || n == 0x20 || n == 0x85 || n == 0xA0 || n == 0x1680 ||
    (0x2000 ≤ n && n ≤ 0x200A) || n == 0x2028 || n == 0x2029 || n == 0x202F || n == 0x205F ||
    n == 0x3000

/-- A blank: a white-space character or one of the four information separators. -/
def isBlank (c : CodePoint) : Bool :=
  isSpace c || (0x1C ≤ c.toNat && c.toNat ≤ 0x1F)

/-- The lower case of an ASCII letter. -/
def asciiLower (c : CodePoint) : CodePoint :=
  if char 'A' ≤ c ∧ c ≤ char 'Z' then .ofNat (c.toNat + 0x20) else c

/-- The upper case of an ASCII letter. -/
def asciiUpper (c : CodePoint) : CodePoint :=
  if char 'a' ≤ c ∧ c ≤ char 'z' then .ofNat (c.toNat - 0x20) else c

/-- Removes from both ends the longest runs of elements with a property. -/
def trimBy {α : Type} (p : α → Bool) (s : List α) : List α :=
  ((s.dropWhile p).reverse.dropWhile p).reverse

/-- Removes the blanks at both ends. -/
def strip (s : Text) : Text := trimBy isBlank s

/-- Cuts at every occurrence of a separator; there is always at least one piece. -/
def splitOn {α : Type} [DecidableEq α] (sep : α) : List α → List (List α)
  | [] => [[]]
  | c :: cs =>
    match splitOn sep cs with
    | [] => if c = sep then [[], []] else [[c]]
    | w :: ws => if c = sep then [] :: w :: ws else (c :: w) :: ws

/-- Puts a separator between neighbours. -/
def joinWith {α : Type} (sep : List α) (parts : List (List α)) : List α := sep.intercalate parts

/-- Cuts at the first occurrence of a separator, if there is one. -/
def cutAt? (sep : CodePoint) : Text → Option (Text × Text)
  | [] => none
  | c :: cs => if c = sep then some ([], cs) else (cutAt? sep cs).map fun (a, b) => (c :: a, b)

/-- Removes a given beginning, if the text has it. -/
def dropHead? : Text → Text → Option Text
  | [], s => some s
  | _ :: _, [] => none
  | p :: ps, c :: cs => if p = c then dropHead? ps cs else none

/-- Whether the text begins with the given one. -/
def startsWith (head s : Text) : Bool := (dropHead? head s).isSome

/-- Cuts at every occurrence of a separator text, scanning from the left; `fuel` bounds the
length of the text. -/
def splitOnTextWithin (sep : Text) : Nat → Text → Text → List Text
  | 0, piece, s => [piece.reverse ++ s]
  | _ + 1, piece, [] => [piece.reverse]
  | fuel + 1, piece, c :: cs =>
    match dropHead? sep (c :: cs) with
    | some rest => piece.reverse :: splitOnTextWithin sep fuel [] rest
    | none => splitOnTextWithin sep fuel (c :: piece) cs

/-- Cuts at every occurrence of a separator text, scanning from the left. -/
def splitOnText (sep s : Text) : List Text := splitOnTextWithin sep (s.length + 1) [] s

/-- Two texts in the order of their characters' code points. -/
def le : Text → Text → Bool
  | [], _ => true
  | _ :: _, [] => false
  | a :: as, b :: bs => if a = b then le as bs else decide (a.toNat < b.toNat)

theorem splitOn_ne_nil (sep : CodePoint) (s : Text) : splitOn sep s ≠ [] := by
  cases s with
  | nil => simp [splitOn]
  | cons c cs =>
    simp only [splitOn]
    split <;> split <;> simp

@[simp] theorem splitOn_nil (sep : CodePoint) : splitOn sep [] = [[]] := rfl

/-- A separator opens a new piece. -/
theorem splitOn_cons_self (sep : CodePoint) (s : Text) :
    splitOn sep (sep :: s) = [] :: splitOn sep s := by
  rw [splitOn]
  cases h : splitOn sep s with
  | nil => exact absurd h (splitOn_ne_nil sep s)
  | cons w ws => simp

/-- Text without the separator is one piece, and continues the piece that follows it. -/
theorem splitOn_append_cons {sep : CodePoint} {a : Text} (h : sep ∉ a) (b : Text) :
    splitOn sep (a ++ sep :: b) = a :: splitOn sep b := by
  induction a with
  | nil => simpa using splitOn_cons_self sep b
  | cons c cs ih =>
    simp only [List.mem_cons, not_or] at h
    rw [List.cons_append, splitOn, ih h.2]
    simp [Ne.symm h.1]

theorem splitOn_eq_singleton {sep : CodePoint} {a : Text} (h : sep ∉ a) : splitOn sep a = [a] := by
  induction a with
  | nil => rfl
  | cons c cs ih =>
    simp only [List.mem_cons, not_or] at h
    rw [splitOn, ih h.2]
    simp [Ne.symm h.1]

/-- What is left after a beginning is removed, put back, is the text. -/
theorem dropHead?_eq_some_iff {head s rest : Text} :
    dropHead? head s = some rest ↔ s = head ++ rest := by
  induction head generalizing s with
  | nil => simp [dropHead?, eq_comm]
  | cons p ps ih =>
    cases s with
    | nil => simp [dropHead?]
    | cons c cs =>
      by_cases hc : p = c
      · subst hc; simp [dropHead?, ih]
      · simp [dropHead?, hc, Ne.symm hc]

/-- The two sides of the first separator: the left one does not contain it. -/
theorem cutAt?_eq_some_iff {sep : CodePoint} {s a b : Text} :
    cutAt? sep s = some (a, b) ↔ sep ∉ a ∧ s = a ++ sep :: b := by
  induction s generalizing a with
  | nil => simp [cutAt?]
  | cons c cs ih =>
    by_cases hc : c = sep
    · subst hc
      cases a with
      | nil => simp [cutAt?]
      | cons x xs =>
        simp only [cutAt?, if_true, Option.some.injEq, Prod.mk.injEq, List.cons_append,
          List.cons.injEq, List.mem_cons, not_or]
        constructor
        · rintro ⟨h, _⟩; exact absurd h (by simp)
        · rintro ⟨⟨h, _⟩, rfl, _⟩; exact absurd rfl h
    · cases a with
      | nil => simp [cutAt?, hc]
      | cons x xs =>
        simp only [cutAt?, hc, if_false, Option.map_eq_some_iff, Prod.exists, Prod.mk.injEq,
          List.cons.injEq, List.cons_append, List.mem_cons, not_or]
        constructor
        · rintro ⟨a', b', h, ⟨rfl, rfl⟩, rfl⟩
          obtain ⟨h1, h2⟩ := ih.1 h
          exact ⟨⟨Ne.symm hc, h1⟩, rfl, h2⟩
        · rintro ⟨⟨_, h1⟩, rfl, h2⟩
          exact ⟨xs, b, ih.2 ⟨h1, h2⟩, ⟨rfl, rfl⟩, rfl⟩

end Text

end WorkloadTrace
