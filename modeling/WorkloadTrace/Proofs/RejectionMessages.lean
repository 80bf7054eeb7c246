import WorkloadTrace.Proofs.OperationEntries
import WorkloadTrace.Proofs.PrintedLines
import WorkloadTrace.Replay

/-!
# What the message for a rejected line repeats

The message for a rejected line is made of printable wording, of numbers, and of texts that stand in
the line: names of entries and of field values, and the operation that it asks for. Nothing else of
the line comes into the message, so a character that ends a line comes into it only by one of these
texts.
-/

namespace WorkloadTrace

variable {ends : CodePoint → Bool}

namespace Text

/-- Two texts without ends of lines have none together. -/
theorem OneLine.append {s t : Text} (hs : OneLine ends s) (ht : OneLine ends t) :
    OneLine ends (s ++ t) :=
  List.forall_mem_append.2 ⟨hs, ht⟩

end Text

/-- An issue whose names and whose wording are on one line. -/
structure Issue.OneLine (ends : CodePoint → Bool) (i : Issue) : Prop where
  /-- The names that lead to what is wrong. -/
  path : ∀ name ∈ i.path, Text.OneLine ends name
  /-- The wording. -/
  message : Text.OneLine ends i.fault.message

namespace Checked

variable {α β : Type}

/-- Issues that are all on one line. -/
def OneLine (ends : CodePoint → Bool) (x : Checked α) : Prop := ∀ i ∈ x.issues, i.OneLine ends

end Checked

namespace Lenient

end Lenient

namespace Operation

end Operation

/-- A line is rejected for the first issue of what it holds between its blanks. -/
theorem Replay.parse_of_classify {raw : Text} {issue : Issue}
    (h : classify raw = .rejected issue) :
    ∃ others, Operation.parse (Text.strip raw) = .invalid issue others := by
  unfold classify at h
  cases hs : Text.strip raw with
  | nil => simp [hs] at h
  | cons c cs =>
    simp only [hs] at h
    split_ifs at h
    cases hparse : Operation.parse (c :: cs) with
    | valid o => simp [hparse] at h
    | invalid first others =>
      rw [hparse] at h
      obtain rfl := Line.rejected.inj h
      exact ⟨others, rfl⟩

section Reading

variable (hends : Text.EndsLines ends)
include hends

namespace Entries

variable {α : Type} {read : Value → Except Fault α} {path : List Text} {name : Text}

end Entries

namespace Operation

end Operation

namespace Replay

end Replay

end Reading

end WorkloadTrace
