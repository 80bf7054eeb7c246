import Mathlib.Data.List.Nodup
import Mathlib.Logic.Relation
import WorkloadTrace.Exception

/-!
# The classes of exceptions

Exceptions are sorted by the classes that theirs extends. The built-in classes form a tree below one
class for everything that goes wrong, so to extend a class of the system, or one for ill-chosen
values, is to be one of the classes that are listed for it. What is made under the name of a class
has that class, except that the general class of the system gives way to one below it which an error
number decides.
-/

namespace WorkloadTrace

namespace Exception

section Extends

/-- The class of everything that goes wrong. -/
def rootClass : Text := "Exception".toText

/-- The built-in classes that are extended, with the classes right below them. -/
def families : List (Text × List Text) :=
  [(rootClass,
      ["ArithmeticError".toText, "AssertionError".toText, "AttributeError".toText,
        "BufferError".toText, "EOFError".toText, groupClass, "ImportError".toText,
        "LookupError".toText, "MemoryError".toText, "NameError".toText, SystemClass.general.name,
        "ReferenceError".toText, "RuntimeError".toText, "StopAsyncIteration".toText,
        "StopIteration".toText, "SyntaxError".toText, "SystemError".toText, "TypeError".toText,
        ValueClass.general.name, "Warning".toText]),
    ("ArithmeticError".toText,
      ["FloatingPointError".toText, "OverflowError".toText, "ZeroDivisionError".toText]),
    ("ImportError".toText, ["ModuleNotFoundError".toText]),
    ("LookupError".toText, ["IndexError".toText, keyClass]),
    ("NameError".toText, ["UnboundLocalError".toText]),
    (SystemClass.general.name,
      ["BlockingIOError".toText, "ChildProcessError".toText, "ConnectionError".toText,
        "FileExistsError".toText, "FileNotFoundError".toText, "InterruptedError".toText,
        "IsADirectoryError".toText, "NotADirectoryError".toText, "PermissionError".toText,
        "ProcessLookupError".toText, "TimeoutError".toText]),
    ("ConnectionError".toText,
      ["BrokenPipeError".toText, "ConnectionAbortedError".toText, "ConnectionRefusedError".toText,
        "ConnectionResetError".toText]),
    ("RuntimeError".toText, ["NotImplementedError".toText, "RecursionError".toText]),
    ("SyntaxError".toText, ["IndentationError".toText]),
    ("IndentationError".toText, ["TabError".toText]),
    (ValueClass.general.name, ["UnicodeError".toText]),
    ("UnicodeError".toText,
      ["UnicodeDecodeError".toText, "UnicodeEncodeError".toText, "UnicodeTranslateError".toText]),
    ("Warning".toText,
      ["BytesWarning".toText, "DeprecationWarning".toText, "EncodingWarning".toText,
        "FutureWarning".toText, "ImportWarning".toText, "PendingDeprecationWarning".toText,
        "ResourceWarning".toText, "RuntimeWarning".toText, "SyntaxWarning".toText,
        "UnicodeWarning".toText, "UserWarning".toText])]

/-- A class stands right below another one. -/
def RightBelow (cls base : Text) : Prop := ∃ f ∈ families, f.1 = base ∧ cls ∈ f.2

instance (cls base : Text) : Decidable (RightBelow cls base) :=
  inferInstanceAs (Decidable (∃ f ∈ families, f.1 = base ∧ cls ∈ f.2))

/-- A class is another one or extends it. -/
def Extends : Text → Text → Prop := Relation.ReflTransGen RightBelow

/-- A class extends the one right above it. -/
theorem RightBelow.extends {cls base : Text} (h : RightBelow cls base) : Extends cls base :=
  Relation.ReflTransGen.single h

/-- What extends an extension extends what that extends. -/
theorem Extends.trans {cls base root : Text} (h : Extends cls base) (h' : Extends base root) :
    Extends cls root :=
  Relation.ReflTransGen.trans h h'

/-- What passes on to the classes right below one passes on to all that extend it. -/
theorem Extends.of_closed {P : Text → Prop}
    (hclosed : ∀ f ∈ families, P f.1 → ∀ cls ∈ f.2, P cls) {cls base : Text}
    (h : Extends cls base) (hbase : P base) : P cls := by
  induction h using Relation.ReflTransGen.head_induction_on with
  | refl => exact hbase
  | head hbelow _ ih =>
    obtain ⟨f, hf, rfl, hcls⟩ := hbelow
    exact hclosed f hf ih _ hcls

end Extends

section Listed

-- Both kinds of exceptions that have a category of their own are listed: their classes are the
-- values of a type, each with its name.
variable {α : Type} {name : α → Text} {all : List α} {root middle : α}

/-- The place of a list of classes in the table: all are at most two steps below the first one, and
nothing else is below any of them. -/
structure Placed (name : α → Text) (all : List α) (root middle : α) : Prop where
  /-- No two classes have one name. -/
  names_nodup : (all.map name).Nodup
  /-- The class that has others of the list right below it. -/
  middle_below : RightBelow (name middle) (name root)
  /-- The other classes stand right below the first one or below that one. -/
  near : ∀ a ∈ all, name a = name root ∨ RightBelow (name a) (name root) ∨
    RightBelow (name a) (name middle)
  /-- What stands right below a class of the list is in the list. -/
  closed : ∀ f ∈ families, (∃ a ∈ all, name a = f.1) → ∀ cls ∈ f.2, ∃ a ∈ all, name a = cls

instance : Decidable (Placed name all root middle) :=
  decidable_of_iff
    ((all.map name).Nodup ∧ RightBelow (name middle) (name root) ∧
      (∀ a ∈ all, name a = name root ∨ RightBelow (name a) (name root) ∨
        RightBelow (name a) (name middle)) ∧
      ∀ f ∈ families, (∃ a ∈ all, name a = f.1) → ∀ cls ∈ f.2, ∃ a ∈ all, name a = cls)
    ⟨fun ⟨hnodup, hbelow, hnear, hclosed⟩ => ⟨hnodup, hbelow, hnear, hclosed⟩,
      fun ⟨hnodup, hbelow, hnear, hclosed⟩ => ⟨hnodup, hbelow, hnear, hclosed⟩⟩

variable (hall : ∀ a, a ∈ all)

include hall

/-- Classes that have their places have different names. -/
theorem Placed.name_injective (h : Placed name all root middle) : Function.Injective name := by
  intro a b hab
  exact List.inj_on_of_nodup_map h.names_nodup (hall a) (hall b) hab

/-- What has an injective name is found by it. -/
theorem find?_name_eq_some_iff (hname : Function.Injective name) {s : Text} {a : α} :
    (all.find? fun a => name a = s) = some a ↔ name a = s := by
  constructor
  · intro h
    simpa using List.find?_some h
  · intro h
    have hsome : (all.find? fun a => name a = s).isSome := by
      rw [List.find?_isSome]
      exact ⟨a, hall a, by simpa using h⟩
    obtain ⟨b, hb⟩ := Option.isSome_iff_exists.1 hsome
    have hbname : name b = s := by simpa using List.find?_some hb
    rw [hb, hname (hbname.trans h.symm)]

/-- Every class of the list extends the first one. -/
theorem Placed.extends_root (h : Placed name all root middle) (a : α) :
    Extends (name a) (name root) := by
  rcases h.near a (hall a) with hroot | hdirect | hbelow
  · rw [hroot]
    exact .refl
  · exact hdirect.extends
  · exact hbelow.extends.trans h.middle_below.extends

/-- What extends the first class is one of the list. -/
theorem Placed.extends_root_iff (h : Placed name all root middle) {cls : Text} :
    Extends cls (name root) ↔ ∃ a, name a = cls := by
  constructor
  · intro hcls
    obtain ⟨a, -, ha⟩ :=
      hcls.of_closed (P := fun c => ∃ a ∈ all, name a = c) h.closed ⟨root, hall root, rfl⟩
    exact ⟨a, ha⟩
  · rintro ⟨a, rfl⟩
    exact h.extends_root hall a

end Listed

/-- Both lists have their place in the table, those of the connections and of the single conversions
two steps below the first class, and no class is in both. -/
theorem placed_lists :
    Placed SystemClass.name SystemClass.all .general .connection ∧
    Placed ValueClass.name ValueClass.all .general .unicode ∧
    ∀ kind ∈ ValueClass.all, ∀ other ∈ SystemClass.all, kind.name ≠ other.name := by
  decide +kernel

end Exception

namespace SystemClass

theorem mem_all (kind : SystemClass) : kind ∈ all := by cases kind <;> decide

/-- The classes of the system have their places. -/
theorem placed : Exception.Placed name all general connection := Exception.placed_lists.1

/-- So they have different names. -/
theorem name_injective : Function.Injective name := placed.name_injective mem_all

/-- The class under its own name: another name of the general class is left for it. -/
def canonical (s : Text) : Text := if generalNames.contains s then general.name else s

/-- A name is read as the class whose name it means. -/
theorem parse?_eq_some_iff {s : Text} {kind : SystemClass} :
    parse? s = some kind ↔ kind.name = canonical s := by
  rw [parse?, canonical]
  split
  · rw [Option.some.injEq, eq_comm]
    exact name_injective.eq_iff.symm
  · exact Exception.find?_name_eq_some_iff mem_all name_injective

/-- Every class of the system extends the general one, those of connections in two steps. -/
theorem extends_general (kind : SystemClass) : Exception.Extends kind.name general.name :=
  placed.extends_root mem_all kind

/-- What extends the general class of the system is one of its classes. -/
theorem extends_general_iff {cls : Text} :
    Exception.Extends cls general.name ↔ ∃ kind : SystemClass, kind.name = cls :=
  placed.extends_root_iff mem_all

end SystemClass

namespace ValueClass

theorem mem_all (kind : ValueClass) : kind ∈ all := by cases kind <;> decide

/-- The classes about values have their places. -/
theorem placed : Exception.Placed name all general unicode := Exception.placed_lists.2.1

/-- So they have different names. -/
theorem name_injective : Function.Injective name := placed.name_injective mem_all

/-- A name is read as the class that has it. -/
theorem parse?_eq_some_iff {s : Text} {kind : ValueClass} : parse? s = some kind ↔ kind.name = s :=
  Exception.find?_name_eq_some_iff mem_all name_injective

/-- Every class for ill-chosen values extends the general one, those of single conversions in two
steps. -/
theorem extends_general (kind : ValueClass) : Exception.Extends kind.name general.name :=
  placed.extends_root mem_all kind

/-- What extends the general class for ill-chosen values is one of its classes. -/
theorem extends_general_iff {cls : Text} :
    Exception.Extends cls general.name ↔ ∃ kind : ValueClass, kind.name = cls :=
  placed.extends_root_iff mem_all

/-- No class for ill-chosen values is one of the system. -/
theorem name_ne_system (kind : ValueClass) (other : SystemClass) : kind.name ≠ other.name :=
  Exception.placed_lists.2.2 kind kind.mem_all other other.mem_all

end ValueClass

namespace SystemError

/-- The class that an error number among arguments decides. -/
def numbered? : List Value → Option SystemClass
  | number :: _ :: rest =>
    if 3 < rest.length then none else number.asInt?.map SystemClass.ofNumber
  | _ => none

/-- Only the general class gives way to the one that the number decides. -/
theorem make_eq (kind : SystemClass) (args : List Value) :
    make kind args =
      ⟨if kind = .general then (numbered? args).getD .general else kind, args⟩ := by
  cases kind with
  | general =>
    rcases args with - | ⟨number, - | ⟨meaning, rest⟩⟩
    · rfl
    · rfl
    · simp only [make, numbered?, if_true]
      split
      · rfl
      · cases number.asInt? <;> rfl
  | _ => rfl

end SystemError

namespace Exception

/-- The class of what is made under a name: the named one, unless this is the general class of the
system and an error number decides another one. -/
def madeClass (name : Text) (args : List Value) : Text :=
  if SystemClass.canonical name = SystemClass.general.name then
    ((SystemError.numbered? args).getD .general).name
  else SystemClass.canonical name

/-- What is made under a name is sorted by what the class of that name extends. -/
theorem make_cases (name : Text) (args : List Value) :
    (∃ e : SystemError, make name args = .system e ∧ e.kind.name = madeClass name args) ∨
      (∃ kind : ValueClass, make name args = .value kind args ∧
        kind.name = madeClass name args) ∨
      make name args = .other name args ∧ name = madeClass name args ∧
        ¬Extends name SystemClass.general.name ∧ ¬Extends name ValueClass.general.name := by
  rw [make, madeClass]
  cases hsystem : SystemClass.parse? name with
  | some kind =>
    have hkind := SystemClass.parse?_eq_some_iff.1 hsystem
    refine .inl ⟨SystemError.make kind args, rfl, ?_⟩
    simp only [SystemError.make_eq, ← hkind, SystemClass.name_injective.eq_iff]
    split <;> rfl
  | none =>
    have hnone (kind : SystemClass) : kind.name ≠ SystemClass.canonical name := by
      intro h
      rw [SystemClass.parse?_eq_some_iff.2 h] at hsystem
      exact absurd hsystem (by simp)
    have hname : SystemClass.canonical name = name := by
      rw [SystemClass.canonical]
      split
      · next hother =>
        refine absurd ?_ (hnone .general)
        rw [SystemClass.canonical, if_pos hother]
      · rfl
    rw [if_neg (hnone .general).symm, hname]
    rw [hname] at hnone
    cases hvalue : ValueClass.parse? name with
    | some kind => exact .inr (.inl ⟨kind, rfl, ValueClass.parse?_eq_some_iff.1 hvalue⟩)
    | none =>
      refine .inr (.inr ⟨rfl, rfl, ?_, ?_⟩)
      · rw [SystemClass.extends_general_iff]
        rintro ⟨kind, hkind⟩
        exact hnone kind hkind
      · rw [ValueClass.extends_general_iff]
        rintro ⟨kind, hkind⟩
        rw [ValueClass.parse?_eq_some_iff.2 hkind] at hvalue
        exact absurd hvalue (by simp)

/-- What is made has the class that its arguments decide. -/
theorem className_make (name : Text) (args : List Value) :
    (make name args).className = madeClass name args := by
  rcases make_cases name args with ⟨e, he, hkind⟩ | ⟨kind, he, hkind⟩ | ⟨he, hname, -⟩
  · rw [he, className, hkind]
  · rw [he, className, hkind]
  · rw [he, className, ← hname]

/-- What is made under a name is of the named class. -/
theorem extends_madeClass (name : Text) (args : List Value) :
    Extends (madeClass name args) (SystemClass.canonical name) := by
  rw [madeClass]
  split
  · next h =>
    rw [h]
    exact SystemClass.extends_general _
  · exact .refl

end Exception

end WorkloadTrace
