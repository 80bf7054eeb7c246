import WorkloadTrace.Value

/-!
# The shape of a workload

How many records, users, purposes and objections a workload has. The counts are positive, so the
remainders that spread identities over them are always defined.
-/

namespace WorkloadTrace

/-- The shape of a workload. -/
structure Workload where
  /-- The number of records. -/
  recordCount : Nat := 1000
  /-- The number of users. -/
  userCount : Nat := 100
  /-- The number of purposes. -/
  purposeCount : Nat := 100
  /-- The number of the first objection. -/
  objectionStart : Nat := 0
  /-- The number of objections. -/
  objectionCount : Nat := 100
  /-- There is a record. -/
  recordCount_pos : 0 < recordCount := by decide
  /-- There is a user. -/
  userCount_pos : 0 < userCount := by decide
  /-- There is a purpose. -/
  purposeCount_pos : 0 < purposeCount := by decide
  /-- There is an objection. -/
  objectionCount_pos : 0 < objectionCount := by decide
deriving DecidableEq, Repr

/-- The workload that is meant when nothing is said about it. -/
def Workload.standard : Workload := {}

/-- The numbers that describe a workload. -/
def Workload.numbers (w : Workload) : List Nat :=
  [w.recordCount, w.userCount, w.purposeCount, w.objectionStart, w.objectionCount]

instance : Inhabited Workload := ⟨.standard⟩

end WorkloadTrace
