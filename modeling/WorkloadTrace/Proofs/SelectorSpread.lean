import Mathlib.Data.Int.ModEq
import WorkloadTrace.Proofs.IdentityRanges

/-!
# How far the selector spreads identities

The record that a condition leads to is a linear function of the selector modulo the number of
records. The stride and the number of records have a greatest common divisor, the spacing: only
records at this distance from the base are reached. Each of them is reached by one selector among
any as many in a row as there are such records, and from then on the records come again in the same
order. Identities follow the records, so a side whose count divides the spacing never changes.
-/

namespace WorkloadTrace

namespace Identity

/-- A condition of a kind that leads to records, with the stride of the selector and the base. -/
inductive Leads (w : Workload) (condition : Value) : FieldKind → Nat → Int → Prop where
  /-- A purpose leads from its own number on, in steps of the number of purposes. -/
  | purpose : Leads w condition .purpose w.purposeCount (seedOf condition)
  /-- A user leads from its own number on, in steps of the number of users. -/
  | user : Leads w condition .user w.userCount (seedOf condition)
  /-- An objection leads from its distance to the first one on, in steps of the number of
  objections. -/
  | objection :
    Leads w condition .objection w.objectionCount (seedOf condition - w.objectionStart)

/-- The distance between the records that a stride reaches. -/
def spacing (w : Workload) (stride : Nat) : Nat := Nat.gcd stride w.recordCount

/-- The number of selectors after which the records come again. -/
def period (w : Workload) (stride : Nat) : Nat := w.recordCount / spacing w stride

/-- A record at a multiple of the spacing from the base. -/
def IsSpaced (w : Workload) (stride : Nat) (base : Int) (x : Nat) : Prop :=
  x < w.recordCount ∧ x ≡ base [ZMOD spacing w stride]

/-- A selector among the first ones, as many as there are in a period, from a given one on. -/
def InPeriod (w : Workload) (stride : Nat) (start selector : Int) : Prop :=
  start ≤ selector ∧ selector < start + period w stride

variable {w : Workload} {stride : Nat} {base : Int}

theorem spacing_mul_period (w : Workload) (stride : Nat) :
    spacing w stride * period w stride = w.recordCount :=
  Nat.mul_div_cancel' (Nat.gcd_dvd_right stride w.recordCount)

theorem period_pos (w : Workload) (stride : Nat) : 0 < period w stride :=
  Nat.pos_of_mul_pos_left (spacing_mul_period w stride ▸ w.recordCount_pos)

/-- A selector leads to a record exactly when the linear function agrees with it modulo the number
of records. -/
theorem recordSlot_eq_iff {selector : Int} {x : Nat} (hx : x < w.recordCount) :
    recordSlot w stride selector base = x ↔
      stride * selector + base ≡ x [ZMOD w.recordCount] := by
  have hmod : (x : Int) % w.recordCount = x :=
    Int.emod_eq_of_lt (Int.natCast_nonneg x) (Int.ofNat_lt.2 hx)
  rw [← Int.natCast_inj, natCast_recordSlot, Int.ModEq, hmod]

/-- Only records at the spacing are reached. -/
theorem isSpaced_recordSlot (w : Workload) (stride : Nat) (selector base : Int) :
    IsSpaced w stride base (recordSlot w stride selector base) := by
  refine ⟨recordSlot_lt w stride selector base, ?_⟩
  have hrecords : (spacing w stride : Int) ∣ w.recordCount :=
    Int.natCast_dvd_natCast.2 (Nat.gcd_dvd_right stride w.recordCount)
  have hstride : (spacing w stride : Int) ∣ stride :=
    Int.natCast_dvd_natCast.2 (Nat.gcd_dvd_left stride w.recordCount)
  have hzero : stride * selector ≡ 0 [ZMOD spacing w stride] :=
    Int.modEq_zero_iff_dvd.2 (hstride.mul_right selector)
  calc (recordSlot w stride selector base : Int)
      = (stride * selector + base) % w.recordCount := natCast_recordSlot w stride selector base
    _ ≡ stride * selector + base [ZMOD spacing w stride] := (Int.mod_modEq _ _).of_dvd hrecords
    _ ≡ 0 + base [ZMOD spacing w stride] := hzero.add_right base
    _ = base := Int.zero_add base

/-- Two selectors lead to one record exactly when they agree modulo the period. -/
theorem recordSlot_eq_recordSlot_iff {s t : Int} :
    recordSlot w stride s base = recordSlot w stride t base ↔ s ≡ t [ZMOD period w stride] := by
  rw [recordSlot_eq_iff (recordSlot_lt w stride t base), natCast_recordSlot]
  constructor
  · intro h
    have hmul : stride * s ≡ stride * t [ZMOD w.recordCount] :=
      (h.trans (Int.mod_modEq _ _)).add_right_cancel' base
    have hcancel := hmul.cancel_left_div_gcd (Int.natCast_pos.2 w.recordCount_pos)
    rwa [Int.gcd_natCast_natCast, Nat.gcd_comm, ← Int.natCast_ediv] at hcancel
  · intro h
    obtain ⟨k, hk⟩ : spacing w stride ∣ stride := Nat.gcd_dvd_left stride w.recordCount
    have hscaled : spacing w stride * s ≡ spacing w stride * t [ZMOD w.recordCount] := by
      have hmul := h.mul_left' (c := spacing w stride)
      rwa [← Int.natCast_mul, spacing_mul_period] at hmul
    have hstride (u : Int) : stride * u = k * (spacing w stride * u) := by
      rw [← Int.mul_assoc, Int.mul_comm k, ← Int.natCast_mul, ← hk]
    have hmul : stride * s ≡ stride * t [ZMOD w.recordCount] := by
      rw [hstride, hstride]
      exact hscaled.mul_left k
    exact (hmul.add_right base).trans (Int.mod_modEq _ _).symm

/-- Every record at the spacing is reached by some selector. -/
theorem exists_recordSlot_eq {x : Nat} (h : IsSpaced w stride base x) :
    ∃ selector, recordSlot w stride selector base = x := by
  obtain ⟨hlt, hspaced⟩ := h
  obtain ⟨k, hk⟩ := Int.modEq_iff_dvd.1 hspaced.symm
  have hbezout : stride * Nat.gcdA stride w.recordCount ≡ spacing w stride [ZMOD w.recordCount] :=
    Int.gcd_a_modEq stride w.recordCount
  refine ⟨Nat.gcdA stride w.recordCount * k, (recordSlot_eq_iff hlt).2 ?_⟩
  calc stride * (Nat.gcdA stride w.recordCount * k) + base
      = stride * Nat.gcdA stride w.recordCount * k + base := by rw [Int.mul_assoc]
    _ ≡ spacing w stride * k + base [ZMOD w.recordCount] := (hbezout.mul_right k).add_right base
    _ = x := by rw [← hk, Int.sub_add_cancel]

/-- Of as many integers in a row as a period has, one agrees with a given one modulo the period. -/
theorem existsUnique_inPeriod (w : Workload) (stride : Nat) (start t : Int) :
    ∃! s, InPeriod w stride start s ∧ s ≡ t [ZMOD period w stride] := by
  have hpos : (0 : Int) < period w stride := Int.natCast_pos.2 (period_pos w stride)
  have hlow := Int.emod_nonneg (t - start) (Int.ne_of_gt hpos)
  have hhigh := Int.emod_lt_of_pos (t - start) hpos
  refine ⟨start + (t - start) % period w stride, ⟨⟨by omega, by omega⟩, ?_⟩, ?_⟩
  · calc start + (t - start) % period w stride
        ≡ start + (t - start) [ZMOD period w stride] := (Int.mod_modEq _ _).add_left start
      _ = t := add_sub_cancel start t
  · rintro s ⟨⟨hs, hs'⟩, hmod⟩
    have hdist : (s - start) % period w stride = (t - start) % period w stride :=
      hmod.sub_right start
    rw [Int.emod_eq_of_lt (by omega) (by omega)] at hdist
    omega

/-- Every record at the spacing is reached exactly once in a period. -/
theorem existsUnique_recordSlot_eq {x : Nat} (h : IsSpaced w stride base x) (start : Int) :
    ∃! s, InPeriod w stride start s ∧ recordSlot w stride s base = x := by
  obtain ⟨t, rfl⟩ := exists_recordSlot_eq h
  simp only [recordSlot_eq_recordSlot_iff]
  exact existsUnique_inPeriod w stride start t

theorem recordSlot_add_period (w : Workload) (stride : Nat) (selector base : Int) :
    recordSlot w stride (selector + period w stride) base = recordSlot w stride selector base :=
  recordSlot_eq_recordSlot_iff.2 (Int.add_modulus_modEq_iff.2 rfl)

/-- A count that divides the spacing leaves one remainder of all records that are reached. -/
theorem recordSlot_mod_eq {count : Nat} (h : count ∣ spacing w stride) (s t : Int) :
    recordSlot w stride s base % count = recordSlot w stride t base % count := by
  have hspacing : (count : Int) ∣ spacing w stride := Int.natCast_dvd_natCast.2 h
  have hs := (isSpaced_recordSlot w stride s base).2.of_dvd hspacing
  have ht := (isSpaced_recordSlot w stride t base).2.of_dvd hspacing
  exact Int.natCast_modEq_iff.1 (hs.trans ht.symm)

/-- The record that is reached makes the sides that are not the condition. -/
theorem Leads.ofCondition_eq {condition : Value} {kind : FieldKind}
    (h : Leads w condition kind stride base) (selector : Int) :
    ofCondition w condition (some kind) selector =
      besides condition (some kind) (recordSlot w stride selector base % w.userCount)
        (recordSlot w stride selector base % w.purposeCount) := by
  cases h <;> rfl

theorem user_besides (condition : Value) (kind : Option FieldKind) (user purpose : Nat) :
    (besides condition kind user purpose).user =
      if kind = some .user then condition.display else Decimal.ofNat user := by
  unfold besides
  split <;> simp_all

theorem purpose_besides (condition : Value) (kind : Option FieldKind) (user purpose : Nat) :
    (besides condition kind user purpose).purpose =
      if kind = some .purpose then condition.display else Decimal.ofNat purpose := by
  unfold besides
  split <;> simp_all

/-- For a condition that leads to records, a selector reaches only records at the spacing, and any
selectors in a row, as many as a period has, reach each of them exactly once. The identities that
these selectors make are those of these records, they come again after a period, and the selector
has no influence on a side whose count divides the spacing. -/
theorem selector_reaches_spaced_records {condition : Value} {kind : FieldKind}
    (h : Leads w condition kind stride base) :
    let identity := ofCondition w condition (some kind)
    (∀ s, IsSpaced w stride base (recordSlot w stride s base)) ∧
    (∀ start x, IsSpaced w stride base x →
      ∃! s, InPeriod w stride start s ∧ recordSlot w stride s base = x) ∧
    (∀ start i, (∃ s, InPeriod w stride start s ∧ identity s = i) ↔
      ∃ x, IsSpaced w stride base x ∧
        i = besides condition (some kind) (x % w.userCount) (x % w.purposeCount)) ∧
    (∀ s, identity (s + period w stride) = identity s) ∧
    (w.userCount ∣ spacing w stride → ∀ s t, (identity s).user = (identity t).user) ∧
    (w.purposeCount ∣ spacing w stride → ∀ s t, (identity s).purpose = (identity t).purpose) := by
  intro identity
  have hidentity (s : Int) : identity s = _ := h.ofCondition_eq s
  refine ⟨fun s => isSpaced_recordSlot w stride s base,
    fun start x hx => existsUnique_recordSlot_eq hx start, fun start i => ⟨?_, ?_⟩,
    fun s => ?_, fun hcount s t => ?_, fun hcount s t => ?_⟩
  · rintro ⟨s, -, rfl⟩
    exact ⟨_, isSpaced_recordSlot w stride s base, hidentity s⟩
  · rintro ⟨x, hx, rfl⟩
    obtain ⟨s, ⟨hs, rfl⟩, -⟩ := existsUnique_recordSlot_eq hx start
    exact ⟨s, hs, hidentity s⟩
  · rw [hidentity, hidentity, recordSlot_add_period]
  · rw [hidentity, hidentity, user_besides, user_besides, recordSlot_mod_eq hcount s t]
  · rw [hidentity, hidentity, purpose_besides, purpose_besides, recordSlot_mod_eq hcount s t]

/-- An objection below the first one, of which every third selector reaches the same of three
records, so that there is one user only. -/
theorem records_3_7_11_of_obj4 :
    let w : Workload :=
      { recordCount := 12, userCount := 4, purposeCount := 5, objectionStart := 25,
        objectionCount := 8 }
    let condition : Value := .text "obj4".toText
    Leads w condition .objection 8 (-21) ∧
    (IsSpaced w 8 (-21) 7 ∧ ∃! s, InPeriod w 8 (-2) s ∧ recordSlot w 8 s (-21) = 7) ∧
    (∃ s, InPeriod w 8 (-2) s ∧
      ofCondition w condition (some .objection) s = ⟨[char '3'], [char '1']⟩) ∧
    ofCondition w condition (some .objection) 1 = ⟨[char '3'], [char '1']⟩ ∧
    (w.userCount ∣ spacing w 8 ∧
      ∀ s, (ofCondition w condition (some .objection) s).user = [char '3']) := by
  intro w condition
  have hbase : ((seedOf condition : Int) - w.objectionStart) = -21 := by decide +kernel
  have hleads : Leads w condition .objection 8 (-21) := hbase ▸ .objection
  obtain ⟨-, honce, htaken, -, husers, -⟩ := selector_reaches_spaced_records hleads
  have hseven : IsSpaced w 8 (-21) 7 := ⟨by decide, by decide⟩
  have heleven : IsSpaced w 8 (-21) 11 := ⟨by decide, by decide⟩
  have hdivides : w.userCount ∣ spacing w 8 := by decide
  have hone : ofCondition w condition (some .objection) 1 = ⟨[char '3'], [char '1']⟩ := by
    decide +kernel
  refine ⟨hleads, ⟨hseven, honce (-2) 7 hseven⟩, (htaken (-2) _).2 ⟨11, heleven, ?_⟩, hone,
    hdivides, fun s => ?_⟩
  · decide +kernel
  · rw [husers hdivides s 1, hone]

end Identity

end WorkloadTrace
