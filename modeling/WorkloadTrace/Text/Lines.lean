import WorkloadTrace.Text

/-!
# Lines

A text file is read with every line break as a line feed, and is cut into lines that keep the
line feed that ends them. The last line may lack it; an empty text has no lines.
-/

namespace WorkloadTrace.Text

/-- Every line break as a line feed: a carriage return counts alone or with a line feed. -/
def unifyBreaks : Text → Text
  | [] => []
  | char '\r' :: char '\n' :: rest => char '\n' :: unifyBreaks rest
  | char '\r' :: rest => char '\n' :: unifyBreaks rest
  | c :: rest => c :: unifyBreaks rest

/-- The lines of a text, each with the line feed that ends it. -/
def lines : Text → List Text
  | [] => []
  | c :: rest =>
    if c = char '\n' then [char '\n'] :: lines rest
    else
      match lines rest with
      | [] => [[c]]
      | l :: ls => (c :: l) :: ls

/-- A character that ends a printed line. -/
def isBreak (c : CodePoint) : Bool :=
  let n := c.toNat
  (0x0A ≤ n && n ≤ 0x0D) || (0x1C ≤ n && n ≤ 0x1E) || n == 0x85 || n == 0x2028 || n == 0x2029

/-- The lines of a printed text that are not empty. -/
def printedLines : Text → List Text
  | [] => []
  | c :: rest =>
    if isBreak c then printedLines rest
    else
      match rest with
      | [] => [[c]]
      | d :: _ =>
        match isBreak d, printedLines rest with
        | false, l :: ls => (c :: l) :: ls
        | _, ls => [c] :: ls

end WorkloadTrace.Text
