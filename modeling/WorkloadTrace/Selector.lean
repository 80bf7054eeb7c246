/-!
# Selectors

The operations on metadata of a run are numbered from one, in the order in which they are made.
The number of the latest one is the count of selectors taken.
-/

namespace WorkloadTrace.Selector

/-- What an operation wants of the count. -/
inductive Request where
  /-- The next selector. -/
  | next
  /-- The count as it is. -/
  | current
deriving DecidableEq, Repr

/-- The count after a request, which is also its answer. -/
def Request.after : Request → Nat → Nat
  | .next, taken => taken + 1
  | .current, taken => taken

/-- The answers to requests in order. -/
def answers : Nat → List Request → List Nat
  | _, [] => []
  | taken, r :: rest => r.after taken :: answers (r.after taken) rest

/-- There is one answer to each request. -/
@[simp] theorem length_answers (taken : Nat) (rs : List Request) :
    (answers taken rs).length = rs.length := by
  induction rs generalizing taken with
  | nil => rfl
  | cons r rest ih => simp [answers, ih]

end WorkloadTrace.Selector
