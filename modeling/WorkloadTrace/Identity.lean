import WorkloadTrace.FieldKind
import WorkloadTrace.Workload

/-!
# Identities

Who performs a traced operation, and for what purpose. Keys and conditions carry a number, the
seed; the identity is the seed's remainder by the counts of the workload, so independent
operations on one key agree on it. For a condition, a selector that grows with each such
operation spreads the other side of the identity over the records.
-/

namespace WorkloadTrace

/-- Who asks, and why. -/
structure Identity where
  /-- The user. -/
  user : Text
  /-- The purpose. -/
  purpose : Text
deriving DecidableEq, Repr

namespace Identity

/-- The greatest seed: all 64 bits are set. -/
def maxSeed : Nat := 18446744073709551615

/-- The number of digits that the greatest seed has. -/
def maxSeedDigits : Nat := (Decimal.ofNat maxSeed).length

/-- All ASCII digits of a text together, without the zeros in front. -/
def seedDigits (s : Text) : Text := (s.filter Decimal.isDigit).dropWhile (· = char '0')

/-- The number that all ASCII digits of a text form together, or zero when it is too great. Digits
that are too many for a seed are not read at all. -/
def seed (s : Text) : Nat :=
  let digits := seedDigits s
  if digits.isEmpty || maxSeedDigits < digits.length then 0
  else
    let n := Decimal.value digits
    if maxSeed < n then 0 else n

/-- The seed of a value: of its display form, and zero when it is absent. -/
def seedOf : Value → Nat
  | .null => 0
  | v => seed v.display

/-- A seed is at most the greatest one. -/
theorem seed_le (s : Text) : seed s ≤ maxSeed := by
  simp only [seed]
  split
  · exact Nat.zero_le _
  · split
    · exact Nat.zero_le _
    · rename_i h
      exact Nat.not_lt.1 h

/-- The identity for a key. -/
def ofKey (w : Workload) (key : Value) : Identity :=
  let n := seedOf key
  ⟨Decimal.ofNat (n % w.userCount), Decimal.ofNat (n % w.purposeCount)⟩

/-- The record that a selector reaches from a base in steps of a stride. -/
def recordSlot (w : Workload) (stride : Nat) (selector base : Int) : Nat :=
  ((stride * selector + base) % w.recordCount).toNat

/-- The identity of an operation that names neither a key nor a known condition. -/
def anonymous : Identity := ⟨[char '0'], [char '0']⟩

/-- The identity for a condition on a field of a kind. A purpose or a user condition is its own
side of the identity as it stands. -/
def ofCondition (w : Workload) (condition : Value) (kind : Option FieldKind) (selector : Int) :
    Identity :=
  let n : Int := seedOf condition
  match kind with
  | some .purpose =>
    let slot := recordSlot w w.purposeCount selector n
    ⟨Decimal.ofNat (slot % w.userCount), condition.display⟩
  | some .objection =>
    let slot := recordSlot w w.objectionCount selector (n - w.objectionStart)
    ⟨Decimal.ofNat (slot % w.userCount), Decimal.ofNat (slot % w.purposeCount)⟩
  | some .user =>
    let slot := recordSlot w w.userCount selector n
    ⟨condition.display, Decimal.ofNat (slot % w.purposeCount)⟩
  | _ => anonymous

/-- The numbers whose numerals are sides of the identity for a condition, in the order in which they
are written. -/
def derived (w : Workload) (condition : Value) (kind : Option FieldKind) (selector : Int) :
    List Nat :=
  let n : Int := seedOf condition
  match kind with
  | some .purpose => [recordSlot w w.purposeCount selector n % w.userCount]
  | some .objection =>
    let slot := recordSlot w w.objectionCount selector (n - w.objectionStart)
    [slot % w.userCount, slot % w.purposeCount]
  | some .user => [recordSlot w w.userCount selector n % w.purposeCount]
  | _ => []

/-- What is raised instead of the identity for a condition: the condition is read first, and then
the numerals of its sides are written. -/
def conditionTrouble? (levels : Nat) (w : Workload) (condition : Value) (kind : Option FieldKind)
    (selector : Int) : Option Trouble :=
  (condition.trouble? levels).or ((derived w condition kind selector).findSome? Decimal.trouble?)

/-- The identity for a condition, unless something is raised. -/
def ofCondition? (levels : Nat) (w : Workload) (condition : Value) (kind : Option FieldKind)
    (selector : Int) : Except Trouble Identity :=
  match conditionTrouble? levels w condition kind selector with
  | some t => .error t
  | none => .ok (ofCondition w condition kind selector)

/-- A slot is the remainder of a linear function of the selector. -/
theorem natCast_recordSlot (w : Workload) (stride : Nat) (selector base : Int) :
    (recordSlot w stride selector base : Int) = (stride * selector + base) % w.recordCount :=
  Int.toNat_of_nonneg
    (Int.emod_nonneg _ (Int.natCast_ne_zero.2 (Nat.ne_of_gt w.recordCount_pos)))

/-- A slot is the number of a record. -/
theorem recordSlot_lt (w : Workload) (stride : Nat) (selector base : Int) :
    recordSlot w stride selector base < w.recordCount := by
  have h := Int.emod_lt_of_pos (stride * selector + base) (Int.natCast_pos.2 w.recordCount_pos)
  rw [← natCast_recordSlot] at h
  exact Int.ofNat_lt.1 h

end Identity

end WorkloadTrace
