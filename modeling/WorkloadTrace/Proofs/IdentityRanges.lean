import Mathlib.Data.Nat.ModEq
import WorkloadTrace.Proofs.CallArguments
import WorkloadTrace.Proofs.ChangedEntry
import WorkloadTrace.Settings.Resolve

/-!
# The ranges of identities

The settings that result from their sources have exactly the five numbers that are given for the
workload, and four of them are positive. With five integers of which nothing is known, a derivation
of identities can divide by zero; with those of a workload it never does, and it comes to the
identity of the program: numerals of a user and a purpose below their counts, and of a number of a
record where a condition decides. Such a numeral can be too long, and then the derivation raises.
Where one number makes both sides they agree modulo the greatest common divisor of the counts.
-/

namespace WorkloadTrace

open Settings (Entry Layer Reads)

/-- The five numbers of a workload as integers of which nothing is known. -/
structure Figures where
  /-- The number of records. -/
  records : Int
  /-- The number of users. -/
  users : Int
  /-- The number of purposes. -/
  purposes : Int
  /-- The number of the first objection. -/
  objectionStart : Int
  /-- The number of objections. -/
  objections : Int
deriving DecidableEq, Repr

/-- The numbers of a workload. -/
def Workload.figures (w : Workload) : Figures :=
  ⟨w.recordCount, w.userCount, w.purposeCount, w.objectionStart, w.objectionCount⟩

namespace Figures

/-- The numbers are those that are given for the entries of the workload, or their defaults. -/
structure GivenBy (given : Entry → Option Value) (f : Figures) : Prop where
  /-- The number of records is the one given. -/
  records : Reads Lenient.integer Workload.standard.recordCount (given .recordCount) f.records
  /-- So is the number of users. -/
  users : Reads Lenient.integer Workload.standard.userCount (given .userCount) f.users
  /-- So is the number of purposes. -/
  purposes : Reads Lenient.integer Workload.standard.purposeCount (given .purposeCount) f.purposes
  /-- So is the number of the first objection. -/
  objectionStart : Reads Lenient.integer Workload.standard.objectionStart (given .objectionStart)
    f.objectionStart
  /-- So is the number of objections. -/
  objections : Reads Lenient.integer Workload.standard.objectionCount (given .objectionCount)
    f.objections

/-- The numbers are such as a workload can have. -/
structure Admissible (f : Figures) : Prop where
  /-- There is a record. -/
  records : 0 < f.records
  /-- There is a user. -/
  users : 0 < f.users
  /-- There is a purpose. -/
  purposes : 0 < f.purposes
  /-- The first objection has a number. -/
  objectionStart : 0 ≤ f.objectionStart
  /-- There is an objection. -/
  objections : 0 < f.objections

/-- The remainder of a division towards the floor, unless the division is by zero. -/
def remainder? (a b : Int) : Except Trouble Int :=
  if b = 0 then .error .division else .ok (a.fmod b)

/-- The numeral of an integer, unless it is too long. -/
def numeral? (n : Int) : Except Trouble Text :=
  match Decimal.trouble? n.natAbs with
  | some t => .error t
  | none => .ok (Decimal.ofInt n)

/-- The display form of a value, unless it has none. -/
def shown? (levels : Nat) (v : Value) : Except Trouble Text :=
  match v.trouble? levels with
  | some t => .error t
  | none => .ok v.display

/-- The record that a selector reaches. -/
def slot? (f : Figures) (stride selector base : Int) : Except Trouble Int :=
  remainder? (stride * selector + base) f.records

/-- The identity for a key, step by step. -/
def ofKey? (levels : Nat) (f : Figures) (key : Value) : Except Trouble Identity := do
  let _ ← shown? levels key
  let user ← numeral? (← remainder? (Identity.seedOf key) f.users)
  let purpose ← numeral? (← remainder? (Identity.seedOf key) f.purposes)
  return ⟨user, purpose⟩

/-- The identity for a condition, step by step. -/
def ofCondition? (levels : Nat) (f : Figures) (condition : Value) (kind : Option FieldKind)
    (selector : Int) : Except Trouble Identity := do
  let text ← shown? levels condition
  let n : Int := Identity.seedOf condition
  match kind with
  | some .purpose =>
    let slot ← f.slot? f.purposes selector n
    return ⟨← numeral? (← remainder? slot f.users), text⟩
  | some .objection =>
    let slot ← f.slot? f.objections selector (n - f.objectionStart)
    let user ← numeral? (← remainder? slot f.users)
    let purpose ← numeral? (← remainder? slot f.purposes)
    return ⟨user, purpose⟩
  | some .user =>
    let slot ← f.slot? f.users selector n
    return ⟨text, ← numeral? (← remainder? slot f.purposes)⟩
  | _ => return Identity.anonymous

/-- At most one run of numbers is given. -/
theorem GivenBy.unique {given : Entry → Option Value} {f g : Figures} (hf : f.GivenBy given)
    (hg : g.GivenBy given) : f = g := by
  have hreads {default m n : Int} {v : Option Value} (hm : Reads Lenient.integer default v m)
      (hn : Reads Lenient.integer default v n) : m = n := by
    cases v with
    | none => exact hm.trans hn.symm
    | some v => exact Except.ok.inj (hm.symm.trans hn)
  cases f
  cases g
  rw [Figures.mk.injEq]
  exact ⟨hreads hf.records hg.records, hreads hf.users hg.users, hreads hf.purposes hg.purposes,
    hreads hf.objectionStart hg.objectionStart, hreads hf.objections hg.objections⟩

theorem remainder?_of_pos (a : Int) {n : Nat} (h : 0 < n) : remainder? a n = .ok (a % n) := by
  have hn : (n : Int) ≠ 0 := Int.natCast_ne_zero.2 (Nat.ne_of_gt h)
  rw [remainder?, if_neg hn, Int.fmod_eq_emod_of_nonneg a (Int.natCast_nonneg n)]

/-- The remainder of a natural number is one. -/
theorem remainder?_natCast (a : Nat) {n : Nat} (h : 0 < n) :
    remainder? a n = .ok ((a % n : Nat) : Int) := by
  rw [remainder?_of_pos a h, Int.natCast_mod]

end Figures

namespace Workload

open Figures (remainder? numeral? shown?)

theorem admissible_figures (w : Workload) : w.figures.Admissible :=
  ⟨Int.natCast_pos.2 w.recordCount_pos, Int.natCast_pos.2 w.userCount_pos,
    Int.natCast_pos.2 w.purposeCount_pos, Int.natCast_nonneg _,
    Int.natCast_pos.2 w.objectionCount_pos⟩

theorem slot?_figures (w : Workload) (stride : Nat) (selector base : Int) :
    w.figures.slot? stride selector base =
      .ok (Identity.recordSlot w stride selector base : Int) := by
  rw [Identity.natCast_recordSlot]
  exact Figures.remainder?_of_pos _ w.recordCount_pos

/-- The numeral of a seed is never too long. -/
theorem numeral?_of_le_maxSeed {n : Nat} (h : n ≤ Identity.maxSeed) :
    numeral? n = .ok (Decimal.ofNat n) := by
  have hseed : Identity.maxSeed + 1 ≤ 10 ^ Decimal.maxDigits := Decimal.le_pow_maxDigits (by decide)
  have hfits : Decimal.trouble? n = none :=
    Decimal.trouble?_eq_none_iff_lt.2 (Nat.lt_of_le_of_lt h hseed)
  rw [numeral?, Int.natAbs_natCast, hfits]
  rfl

/-- A key that has a text has an identity. -/
theorem ofKey?_figures (levels : Nat) (w : Workload) {key : Value}
    (h : key.trouble? levels = none) :
    w.figures.ofKey? levels key = .ok (Identity.ofKey w key) := by
  have huser : remainder? (Identity.seedOf key) w.figures.users = _ :=
    Figures.remainder?_natCast _ w.userCount_pos
  have hpurpose : remainder? (Identity.seedOf key) w.figures.purposes = _ :=
    Figures.remainder?_natCast _ w.purposeCount_pos
  have hseed : Identity.seedOf key ≤ Identity.maxSeed := by
    cases key with
    | null => exact Nat.zero_le _
    | _ => exact Identity.seed_le _
  have hnumeral (n : Nat) : numeral? ((Identity.seedOf key % n : Nat) : Int) = _ :=
    numeral?_of_le_maxSeed ((Nat.mod_le _ n).trans hseed)
  simp only [Figures.ofKey?, shown?, h, huser, hpurpose, hnumeral, bind, Except.bind]
  rfl

theorem numeral?_natCast (n : Nat) :
    numeral? n = match Decimal.trouble? n with
      | some t => .error t
      | none => .ok (Decimal.ofNat n) := by
  rw [numeral?, Int.natAbs_natCast]
  rfl

/-- Step by step, a condition comes to the identity of the program, whatever the selector is. -/
theorem ofCondition?_figures (levels : Nat) (w : Workload) (condition : Value)
    (kind : Option FieldKind) (selector : Int) :
    w.figures.ofCondition? levels condition kind selector =
      Identity.ofCondition? levels w condition kind selector := by
  have huser (slot : Nat) : remainder? slot w.figures.users = .ok (slot % w.userCount : Nat) :=
    Figures.remainder?_natCast slot w.userCount_pos
  have hpurpose (slot : Nat) :
      remainder? slot w.figures.purposes = .ok (slot % w.purposeCount : Nat) :=
    Figures.remainder?_natCast slot w.purposeCount_pos
  rw [Figures.ofCondition?, Identity.ofCondition?, Identity.conditionTrouble?, shown?]
  cases condition.trouble? levels with
  | some t => rfl
  | none =>
    cases kind with
    | none => rfl
    | some k =>
      cases k with
      | purpose =>
        have hslot : w.figures.slot? w.figures.purposes selector (Identity.seedOf condition) = _ :=
          slot?_figures w w.purposeCount selector (Identity.seedOf condition)
        simp only [hslot, bind, Except.bind, huser, numeral?_natCast, Option.none_or,
          Identity.derived, List.findSome?_cons, List.findSome?_nil]
        cases Decimal.trouble? _ <;> rfl
      | objection =>
        have hslot : w.figures.slot? w.figures.objections selector
            (Identity.seedOf condition - w.figures.objectionStart) = _ :=
          slot?_figures w w.objectionCount selector (Identity.seedOf condition - w.objectionStart)
        simp only [hslot, bind, Except.bind, huser, hpurpose, numeral?_natCast, Option.none_or,
          Identity.derived, List.findSome?_cons, List.findSome?_nil]
        cases Decimal.trouble? _ with
        | some t => rfl
        | none => simp only; cases Decimal.trouble? _ <;> rfl
      | user =>
        have hslot : w.figures.slot? w.figures.users selector (Identity.seedOf condition) = _ :=
          slot?_figures w w.userCount selector (Identity.seedOf condition)
        simp only [hslot, bind, Except.bind, hpurpose, numeral?_natCast, Option.none_or,
          Identity.derived, List.findSome?_cons, List.findSome?_nil]
        cases Decimal.trouble? _ <;> rfl
      | _ => rfl

end Workload

namespace Settings

/-- A positive number is read as the integer that it is. -/
theorem reads_positive_iff_integer {default n : Nat} (hn : 0 < n) {v : Option Value} :
    Reads readPositive default v n ↔ Reads Lenient.integer default v n := by
  cases v with
  | none => exact Int.natCast_inj.symm
  | some v =>
    simp only [Reads, readPositive, Lenient.positive]
    cases Lenient.integer v with
    | error e => simp [bind, Except.bind, Except.map]
    | ok m =>
      by_cases hm : 0 < m.toNat
      · simp [bind, Except.bind, Except.map, pure, Except.pure, hm]
        omega
      · simp [bind, Except.bind, Except.map, hm, throw, throwThe, MonadExceptOf.throw]
        omega

/-- So is a natural number. -/
theorem reads_natural_iff_integer {default n : Nat} {v : Option Value} :
    Reads Lenient.natural default v n ↔ Reads Lenient.integer default v n := by
  cases v with
  | none => exact Int.natCast_inj.symm
  | some v =>
    simp only [Reads, Lenient.natural]
    cases Lenient.integer v with
    | error e => simp [bind, Except.bind]
    | ok m =>
      by_cases hm : m < 0
      · simp [bind, Except.bind, hm, throw, throwThe, MonadExceptOf.throw]
        omega
      · simp [bind, Except.bind, pure, Except.pure, hm]
        omega

/-- The layer that all sources together make. -/
def merge (params : Fields Value) (environment : Environment) (file : Option (List UInt8)) :
    Except LoadError Layer := do
  let file ← bytesLayer file
  let environment ← environment.layer
  return ((Layer.ofFields params).above environment).above file

section Resolved

variable {params : Fields Value} {environment : Environment} {file : Option (List UInt8)}
  {settings : Settings}

/-- Settings result when the layer of all sources passes the checks. -/
theorem check_of_resolve (h : resolve params environment file = .ok settings) :
    ∃ layer, merge params environment file = .ok layer ∧ check layer = .valid settings := by
  simp only [resolve, bind_eq_ok_iff] at h
  obtain ⟨low, hlow, middle, hmiddle, h⟩ := h
  refine ⟨((Layer.ofFields params).above middle).above low, ?_, ?_⟩
  · simp only [merge, hlow, hmiddle]
    rfl
  · rw [ofLayers] at h
    split at h
    · rename_i hcheck
      obtain rfl := Except.ok.inj h
      exact hcheck
    · exact absurd h (by simp)

/-- The numbers of a workload that results are the ones given. -/
theorem givenBy_figures {layer : Layer} (h : check layer = .valid settings) :
    settings.workload.figures.GivenBy layer.value? := by
  obtain ⟨-, hentries⟩ := check_eq_valid_iff.1 h
  exact ⟨(reads_positive_iff_integer settings.workload.recordCount_pos).1 (hentries .recordCount),
    (reads_positive_iff_integer settings.workload.userCount_pos).1 (hentries .userCount),
    (reads_positive_iff_integer settings.workload.purposeCount_pos).1 (hentries .purposeCount),
    reads_natural_iff_integer.1 (hentries .objectionStart),
    (reads_positive_iff_integer settings.workload.objectionCount_pos).1 (hentries .objectionCount)⟩

end Resolved

end Settings

namespace Identity

/-- The remainders of one number agree modulo the greatest common divisor. -/
theorem mod_modEq_mod_gcd (n a b : Nat) : n % a ≡ n % b [MOD Nat.gcd a b] :=
  ((Nat.mod_modEq n a).of_dvd (Nat.gcd_dvd_left a b)).trans
    ((Nat.mod_modEq n b).of_dvd (Nat.gcd_dvd_right a b)).symm

/-- A user and a purpose of a workload that one number makes. -/
structure Paired (w : Workload) (user purpose : Nat) : Prop where
  /-- The user is below the number of users. -/
  user_lt : user < w.userCount
  /-- The purpose is below the number of purposes. -/
  purpose_lt : purpose < w.purposeCount
  /-- They agree as far as the two counts let them. -/
  modEq : user ≡ purpose [MOD Nat.gcd w.userCount w.purposeCount]

theorem paired_mod (w : Workload) (n : Nat) : Paired w (n % w.userCount) (n % w.purposeCount) :=
  ⟨Nat.mod_lt _ w.userCount_pos, Nat.mod_lt _ w.purposeCount_pos, mod_modEq_mod_gcd _ _ _⟩

/-- The identity for a condition, of which a purpose or a user condition is its own side. -/
def besides (condition : Value) (kind : Option FieldKind) (user purpose : Nat) : Identity :=
  match kind with
  | some .purpose => ⟨Decimal.ofNat user, condition.display⟩
  | some .user => ⟨condition.display, Decimal.ofNat purpose⟩
  | _ => ⟨Decimal.ofNat user, Decimal.ofNat purpose⟩

/-- The sides of an identity for a condition that are not the condition itself. -/
def sides (kind : Option FieldKind) (user purpose : Nat) : List Nat :=
  match kind with
  | some .purpose => [user]
  | some .objection => [user, purpose]
  | some .user => [purpose]
  | _ => []

/-- Every condition leads to a record, whose number makes the sides that are not the condition. -/
theorem exists_slot (w : Workload) (condition : Value) (kind : Option FieldKind) (selector : Int) :
    ∃ slot < w.recordCount,
      derived w condition kind selector =
          sides kind (slot % w.userCount) (slot % w.purposeCount) ∧
        ofCondition w condition kind selector =
          besides condition kind (slot % w.userCount) (slot % w.purposeCount) := by
  have hzero (n : Nat) : Decimal.ofNat (0 % n) = [char '0'] := by rw [Nat.zero_mod]; decide
  have hanonymous : anonymous =
      ⟨Decimal.ofNat (0 % w.userCount), Decimal.ofNat (0 % w.purposeCount)⟩ := by
    rw [hzero, hzero, anonymous]
  cases kind with
  | none => exact ⟨0, w.recordCount_pos, rfl, hanonymous⟩
  | some k =>
    cases k with
    | purpose => exact ⟨_, recordSlot_lt w w.purposeCount selector (seedOf condition), rfl, rfl⟩
    | objection =>
      exact ⟨_, recordSlot_lt w w.objectionCount selector (seedOf condition - w.objectionStart),
        rfl, rfl⟩
    | user => exact ⟨_, recordSlot_lt w w.userCount selector (seedOf condition), rfl, rfl⟩
    | _ => exact ⟨0, w.recordCount_pos, rfl, hanonymous⟩

/-- An identity raises exactly when the condition has no text or a side that is not the condition
has too long a numeral. -/
theorem ofCondition?_eq (levels : Nat) (w : Workload) (condition : Value) (kind : Option FieldKind)
    (selector : Int) :
    ∃ slot < w.recordCount,
      ofCondition? levels w condition kind selector =
        match condition.trouble? levels with
        | some t => .error t
        | none =>
          if ∀ n ∈ sides kind (slot % w.userCount) (slot % w.purposeCount),
              n < 10 ^ Decimal.maxDigits then
            .ok (besides condition kind (slot % w.userCount) (slot % w.purposeCount))
          else .error .longNumeral := by
  obtain ⟨slot, hslot, hsides, hidentity⟩ := exists_slot w condition kind selector
  refine ⟨slot, hslot, ?_⟩
  rw [ofCondition?, conditionTrouble?, hsides, hidentity]
  cases condition.trouble? levels with
  | some t => rfl
  | none =>
    by_cases hfit : ∀ n ∈ sides kind (slot % w.userCount) (slot % w.purposeCount),
        n < 10 ^ Decimal.maxDigits
    · simp only [Option.none_or, Decimal.findSome?_trouble?, if_pos hfit]
    · simp only [Option.none_or, Decimal.findSome?_trouble?, if_neg hfit]

/-- The settings that result from any sources have the numbers that the sources give for the
workload, and no others than admissible ones. Over them no derivation divides by zero, each side of
an identity that is not the condition itself is the numeral of a number below its count, for a
condition also below the number of records, and two sides that one number makes agree modulo the
greatest common divisor of the counts. A key or a condition that has a text has an identity, unless
such a side for a condition has too long a numeral. -/
theorem identities_in_range :
    (∀ params environment file settings,
      Settings.resolve params environment file = .ok settings →
        settings.workload.figures.Admissible ∧
        ∃ layer, Settings.merge params environment file = .ok layer ∧
          ∀ f : Figures, f.GivenBy layer.value? ↔ f = settings.workload.figures) ∧
    (∀ levels (w : Workload) key, key.trouble? levels = none →
      w.figures.ofKey? levels key = .ok (ofKey w key) ∧
      ∃ user purpose, Paired w user purpose ∧
        ofKey w key = ⟨Decimal.ofNat user, Decimal.ofNat purpose⟩) ∧
    (∀ levels (w : Workload) condition kind selector, condition.trouble? levels = none →
      w.figures.ofCondition? levels condition kind selector =
        ofCondition? levels w condition kind selector ∧
      ∃ user purpose, Paired w user purpose ∧ user < w.recordCount ∧ purpose < w.recordCount ∧
        ofCondition? levels w condition kind selector =
          if ∀ n ∈ sides kind user purpose, n < 10 ^ Decimal.maxDigits then
            .ok (besides condition kind user purpose)
          else .error .longNumeral) := by
  refine ⟨fun params environment file settings h => ⟨settings.workload.admissible_figures, ?_⟩,
    fun levels w key h => ⟨w.ofKey?_figures levels h, _, _, paired_mod w (seedOf key), rfl⟩,
    fun levels w condition kind selector h =>
      ⟨w.ofCondition?_figures levels condition kind selector, ?_⟩⟩
  · obtain ⟨layer, hlayer, hcheck⟩ := Settings.check_of_resolve h
    have hgiven := Settings.givenBy_figures hcheck
    refine ⟨layer, hlayer, fun f => ⟨fun hf => hf.unique hgiven, ?_⟩⟩
    rintro rfl
    exact hgiven
  · obtain ⟨slot, hslot, heq⟩ := ofCondition?_eq levels w condition kind selector
    rw [h] at heq
    exact ⟨_, _, paired_mod w slot, (Nat.mod_le _ _).trans_lt hslot,
      (Nat.mod_le _ _).trans_lt hslot, heq⟩

/-- An objection below the first one, with a selector that counts backwards. -/
theorem objection_below_window_in_range :
    let params : Fields Value :=
      [("workload".toText, .object
        [("record_count".toText, .int 10), ("user_count".toText, .text "6".toText),
          ("purpose_count".toText, .int 4), ("objection_start".toText, .int 25),
          ("objection_count".toText, .int 3)])]
    let w : Workload :=
      { recordCount := 10, userCount := 6, purposeCount := 4, objectionStart := 25,
        objectionCount := 3 }
    let condition : Value := .text "obj4".toText
    Settings.resolve params [] none = .ok { workload := w } ∧
    (∃ layer, Settings.merge params [] none = .ok layer ∧
      Figures.GivenBy layer.value? ⟨10, 6, 4, 25, 3⟩) ∧
    ofCondition? 900 w condition (some .objection) (-1) = .ok ⟨[char '0'], [char '2']⟩ ∧
    (∃ user purpose, Paired w user purpose ∧ ofCondition? 900 w condition (some .objection) (-1) =
      if ∀ n ∈ [user, purpose], n < 10 ^ Decimal.maxDigits then
        .ok ⟨Decimal.ofNat user, Decimal.ofNat purpose⟩
      else .error .longNumeral) := by
  intro params w condition
  have hresolve : Settings.resolve params [] none = .ok { workload := w } := by rfl
  obtain ⟨hresolved, -, hconditions⟩ := identities_in_range
  obtain ⟨-, layer, hlayer, hgiven⟩ := hresolved params [] none _ hresolve
  obtain ⟨-, user, purpose, hpaired, -, -, heq⟩ :=
    hconditions 900 w condition (some .objection) (-1) rfl
  have hnone : conditionTrouble? 900 w condition (some .objection) (-1) = none := by decide +kernel
  have hsides : ofCondition w condition (some .objection) (-1) = ⟨[char '0'], [char '2']⟩ := by
    decide +kernel
  exact ⟨hresolve, ⟨layer, hlayer, (hgiven _).2 rfl⟩, by rw [ofCondition?, hnone, hsides], user,
    purpose, hpaired, heq⟩

/-- Settings can have a workload of as many users as records. -/
theorem resolve_manyUsers (n : Nat) :
    Settings.resolve
      [("workload".toText, .object [("record_count".toText, .int (n + 1 : Nat)),
        ("user_count".toText, .int (n + 1 : Nat)), ("objection_start".toText, .int 101)])] [] none =
      .ok { workload := manyUsers n } := rfl

/-- Settings can have counts so great that the numeral of a user is too long, and then there is no
identity. -/
theorem user_of_last_record_too_long :
    let count : Value := .int (10 ^ Decimal.maxDigits + 1 : Nat)
    Settings.resolve
      [("workload".toText, .object [("record_count".toText, count),
        ("user_count".toText, count), ("objection_start".toText, .int 101)])] [] none =
        .ok { workload := manyUsers (10 ^ Decimal.maxDigits) } ∧
    ofCondition? 900 (manyUsers (10 ^ Decimal.maxDigits)) (.text "0".toText) (some .objection) 1 =
      .error .longNumeral := by
  refine ⟨resolve_manyUsers _, ?_⟩
  rw [ofCondition?, conditionTrouble?_manyUsers (Nat.le_refl _)]

end Identity

end WorkloadTrace
