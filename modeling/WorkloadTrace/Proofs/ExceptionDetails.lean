import WorkloadTrace.Proofs.CallEffects
import WorkloadTrace.Proofs.ExceptionClasses

/-!
# Details of exceptions

The detail for an exception says what happened, of which category it is and of which class the
exception was. To say what happened is to write the arguments that the text of the exception shows,
some as they are displayed and some as literals. This is prevented by an integer with too many
digits, by values that are nested too deep, and by a conversion that names a place before the first
character. The category follows from what the class extends. An empty text is replaced by a phrase,
unless the exception is about an ill-chosen value: one that was made without arguments, or with one
that shows as nothing, leaves the detail without a message.
-/

namespace WorkloadTrace

namespace Exception

/-- The argument that the usual text displays: the only one. -/
def displayedArgs : List Value → List Value
  | [a] => [a]
  | _ => []

/-- What the usual text writes as a literal: all arguments together, if there are several. -/
def writtenArgs : List Value → List Value
  | a :: b :: rest => [.list (a :: b :: rest)]
  | _ => []

/-- Arguments have a text when all that is shown of them has. -/
theorem argsTrouble?_eq_none_iff {levels : Nat} {args : List Value} :
    argsTrouble? levels args = none ↔ (∀ v ∈ displayedArgs args, v.trouble? levels = none) ∧
      ∀ v ∈ writtenArgs args, v.literalTrouble? levels = none := by
  rcases args with - | ⟨a, - | ⟨b, rest⟩⟩ <;> simp [argsTrouble?, displayedArgs, writtenArgs]

end Exception

namespace SystemError

/-- The arguments that the text of an exception of the system displays. -/
def displayed (e : SystemError) : List Value :=
  match e.args with
  | number :: meaning :: rest =>
    if 3 < rest.length then Exception.displayedArgs e.args else [number, meaning]
  | args => Exception.displayedArgs args

/-- What the text of an exception of the system writes as literals. -/
def written (e : SystemError) : List Value :=
  match e.args with
  | _ :: _ :: rest =>
    if 3 < rest.length then Exception.writtenArgs e.args else shownFiles e.kind rest
  | args => Exception.writtenArgs args

/-- Values can be written as literals when each of them can. -/
theorem literalsTrouble?_eq_none_iff {levels : Nat} {vs : List Value} :
    Value.literalsTrouble? levels vs = none ↔ ∀ v ∈ vs, v.literalTrouble? levels = none := by
  induction vs with
  | nil => simp [Value.literalsTrouble?]
  | cons v vs ih => simp [Value.literalsTrouble?, ih]

/-- An error of the system has a text when all that it shows has. -/
theorem trouble?_eq_none_iff {levels : Nat} {e : SystemError} :
    e.trouble? levels = none ↔ (∀ v ∈ e.displayed, v.trouble? levels = none) ∧
      ∀ v ∈ e.written, v.literalTrouble? levels = none := by
  obtain ⟨kind, args⟩ := e
  rcases args with - | ⟨number, - | ⟨meaning, rest⟩⟩
  · simp only [trouble?, displayed, written, Exception.argsTrouble?_eq_none_iff]
  · simp only [trouble?, displayed, written, Exception.argsTrouble?_eq_none_iff]
  · simp only [trouble?, displayed, written]
    split
    · exact Exception.argsTrouble?_eq_none_iff
    · simp [literalsTrouble?_eq_none_iff, and_assoc]

end SystemError

namespace Exception

/-- Whether the text of an exception is a message about a conversion. Whether it is one does not
depend on what the memory has before the first byte. -/
def isConversion (kind : ValueClass) (args : List Value) : Bool :=
  (conversionText? (fun _ => 0) kind args).isSome

/-- The arguments that the text of an exception displays. The places and the numbers of members that
texts name are small, whatever the arguments are. -/
def displayed : Exception → List Value
  | .system e => e.displayed
  | .value kind args => if isConversion kind args then [] else displayedArgs args
  | .other name args =>
    if sourceClasses.contains name then displayedArgs (args.take 1)
    else if name = groupClass ∧ (groupText? args).isSome then []
    else if name = keyClass then [] else displayedArgs args

/-- What the text of an exception writes as literals. -/
def written : Exception → List Value
  | .system e => e.written
  | .value kind args => if isConversion kind args then [] else writtenArgs args
  | .other name args =>
    if sourceClasses.contains name then writtenArgs (args.take 1)
    else if name = groupClass ∧ (groupText? args).isSome then []
    else if name = keyClass then displayedArgs args ++ writtenArgs args else writtenArgs args

/-- Whether an exception is about a conversion at a place before the first character. -/
def isMisplacedConversion : Exception → Bool
  | .value kind args => isConversion kind args && (conversionTrouble? kind args).isSome
  | _ => false

/-- An exception has a text exactly when all that is in it can be shown. -/
theorem trouble?_eq_none_iff {levels : Nat} {e : Exception} :
    e.trouble? levels = none ↔ (∀ v ∈ e.displayed, v.trouble? levels = none) ∧
      (∀ v ∈ e.written, v.literalTrouble? levels = none) ∧ e.isMisplacedConversion = false := by
  cases e with
  | system e => simp [trouble?, displayed, written, isMisplacedConversion,
      SystemError.trouble?_eq_none_iff]
  | value kind args =>
    have htrouble : trouble? levels (.value kind args) =
        if isConversion kind args then conversionTrouble? kind args else argsTrouble? levels args :=
      rfl
    by_cases hconversion : isConversion kind args = true
    · simp [htrouble, displayed, written, isMisplacedConversion, hconversion]
    · simp [htrouble, displayed, written, isMisplacedConversion, hconversion,
        argsTrouble?_eq_none_iff]
  | other name args =>
    simp only [trouble?, displayed, written, isMisplacedConversion, and_true]
    split
    · exact argsTrouble?_eq_none_iff
    · split
      · simp
      · rcases args with - | ⟨a, - | ⟨b, rest⟩⟩
        · simp [argsTrouble?, displayedArgs, writtenArgs]
        · by_cases hkey : name = keyClass <;> simp [hkey, displayedArgs, writtenArgs]
        · by_cases hkey : name = keyClass <;>
            simp [hkey, argsTrouble?, displayedArgs, writtenArgs]

section EmptyText

/-- The text of arguments is empty when there are none, or one that shows as nothing. -/
theorem argsText_eq_nil_iff {args : List Value} :
    argsText args = [] ↔ args = [] ∨ ∃ a, args = [a] ∧ a.display = [] := by
  rcases args with - | ⟨a, - | ⟨b, rest⟩⟩
  · simp [argsText]
  · simp [argsText]
  · simp [argsText, tupleText]

/-- A message about a conversion is never empty, and needs more than one argument. -/
theorem conversionText?_eq_some {memory : Int → UInt8} {kind : ValueClass} {args : List Value}
    {t : Text} (h : conversionText? memory kind args = some t) : t ≠ [] ∧ 2 ≤ args.length := by
  unfold conversionText? at h
  split at h
  all_goals simp only [Option.bind_eq_bind, Option.bind_eq_some_iff, Option.pure_def,
    Option.some.injEq, reduceCtorEq] at h
  · obtain ⟨start, -, stop, -, encoding, -, reason, -, rfl⟩ := h
    exact ⟨by simp [Text.codecText], by simp⟩
  · obtain ⟨chars, -, start, -, stop, -, encoding, -, reason, -, rfl⟩ := h
    exact ⟨by simp [Text.codecText], by simp⟩
  · obtain ⟨chars, -, start, -, stop, -, reason, -, rfl⟩ := h
    exact ⟨by simp [String.toText], by simp⟩

/-- An exception about an ill-chosen value has an empty text exactly when it has no argument, or one
that shows as nothing. -/
theorem text_value_eq_nil_iff {memory : Int → UInt8} {kind : ValueClass} {args : List Value} :
    text (.value kind args) memory = [] ↔ args = [] ∨ ∃ a, args = [a] ∧ a.display = [] := by
  rw [text]
  cases hconversion : conversionText? memory kind args with
  | none => exact argsText_eq_nil_iff
  | some t =>
    obtain ⟨hne, hlength⟩ := conversionText?_eq_some hconversion
    simp only [Option.getD_some, hne, false_iff, not_or, not_exists, not_and]
    constructor
    · rintro rfl
      simp at hlength
    · rintro a rfl
      simp at hlength

end EmptyText

end Exception

namespace ErrorDetail

/-- Only an exception about an ill-chosen value can leave a detail without a message. -/
theorem messageOf_eq_nil_iff {e : Exception} {memory : Int → UInt8} :
    messageOf e memory = [] ↔ e.text memory = [] ∧ categoryOf e = .validation := by
  unfold messageOf
  by_cases h : e.text memory = []
  · cases e <;> simp [h, categoryOf, String.toText]
  · simp [h]

/-- An exception has a detail when it has a text. -/
theorem ofException?_eq_ok_iff {levels : Nat} {e : Exception} {code : Option Text}
    {memory : Int → UInt8} {d : ErrorDetail} : ofException? levels e code memory = .ok d ↔
      e.trouble? levels = none ∧ d = ofException e code memory := by
  rw [ofException?]
  cases e.trouble? levels <;> simp [eq_comm]

/-- A detail for an exception of a class, made with an optional code. -/
structure Normalizes (d : ErrorDetail) (cls : Text) (code : Option Text) : Prop where
  /-- The metadata name the class, and nothing else. -/
  metadata_eq : d.metadata = [("exception_type".toText, cls)]
  /-- Trying again is not said to help. -/
  not_retryable : d.retryable = false
  /-- What extends the class of the system depends on something outside. -/
  dependency : Exception.Extends cls SystemClass.general.name → d.category = .dependency
  /-- Anything else that extends the class for ill-chosen values is about those. -/
  validation : Exception.Extends cls ValueClass.general.name →
    ¬Exception.Extends cls SystemClass.general.name → d.category = .validation
  /-- The rest is unexpected. -/
  internal : ¬Exception.Extends cls SystemClass.general.name →
    ¬Exception.Extends cls ValueClass.general.name → d.category = .internal
  /-- A code that is given and not empty is kept. -/
  code_given : ∀ c, code = some c → c ≠ [] → d.code = c
  /-- Otherwise the category decides the code. -/
  code_general : (∀ c, code = some c → c = []) → d.code = d.category.exceptionCode

section Make

variable (name : Text) (args : List Value)

/-- What extends the general class of the system is an exception of the system, and depends on
something outside. -/
theorem categoryOf_make_eq_dependency_iff :
    categoryOf (.make name args) = .dependency ↔
      Exception.Extends (Exception.madeClass name args) SystemClass.general.name := by
  rw [SystemClass.extends_general_iff]
  rcases Exception.make_cases name args with
    ⟨e, he, hkind⟩ | ⟨kind, he, hkind⟩ | ⟨he, hname, hsystem, -⟩
  · rw [he]
    exact ⟨fun _ => ⟨e.kind, hkind⟩, fun _ => rfl⟩
  · have hnot : ¬∃ other : SystemClass, other.name = Exception.madeClass name args := by
      rintro ⟨other, hother⟩
      exact kind.name_ne_system other (hkind.trans hother.symm)
    simp [he, categoryOf, hnot]
  · rw [SystemClass.extends_general_iff, hname] at hsystem
    simp [he, categoryOf, hsystem]

/-- What extends the general class for ill-chosen values is about those. -/
theorem categoryOf_make_eq_validation_iff :
    categoryOf (.make name args) = .validation ↔
      Exception.Extends (Exception.madeClass name args) ValueClass.general.name := by
  rw [ValueClass.extends_general_iff]
  rcases Exception.make_cases name args with
    ⟨e, he, hkind⟩ | ⟨kind, he, hkind⟩ | ⟨he, hname, -, hvalue⟩
  · have hnot : ¬∃ kind : ValueClass, kind.name = Exception.madeClass name args := by
      rintro ⟨kind, hother⟩
      exact kind.name_ne_system e.kind (hother.trans hkind.symm)
    simp [he, categoryOf, hnot]
  · rw [he]
    exact ⟨fun _ => ⟨kind, hkind⟩, fun _ => rfl⟩
  · rw [ValueClass.extends_general_iff, hname] at hvalue
    simp [he, categoryOf, hvalue]

/-- The detail of an exception has its class, its category and its code. -/
theorem normalizes_ofException (code : Option Text) (memory : Int → UInt8) :
    (ofException (.make name args) code memory).Normalizes
      (Exception.madeClass name args) code := by
  have hdependency := categoryOf_make_eq_dependency_iff name args
  have hvalidation := categoryOf_make_eq_validation_iff name args
  have hclass := Exception.className_make name args
  refine ⟨by simp [ofException, hclass], rfl, hdependency.2, fun h _ => hvalidation.2 h, ?_, ?_, ?_⟩
  · intro hsystem hvalue
    show categoryOf (.make name args) = .internal
    cases hcategory : categoryOf (.make name args) with
    | internal => rfl
    | dependency => exact absurd (hdependency.1 hcategory) hsystem
    | validation => exact absurd (hvalidation.1 hcategory) hvalue
  · rintro c rfl hc
    simp [ofException, hc]
  · intro hempty
    cases code with
    | none => rfl
    | some c =>
      obtain rfl := hempty c rfl
      rfl

/-- The message is empty for an exception about an ill-chosen value that says nothing. -/
theorem messageOf_make_eq_nil_iff (memory : Int → UInt8) :
    messageOf (.make name args) memory = [] ↔
      Exception.Extends (Exception.madeClass name args) ValueClass.general.name ∧
        (args = [] ∨ ∃ a, args = [a] ∧ a.display = []) := by
  rw [messageOf_eq_nil_iff, categoryOf_make_eq_validation_iff, and_comm, and_congr_right_iff]
  intro hvalue
  obtain ⟨kind, he⟩ : ∃ kind, Exception.make name args = .value kind args := by
    rcases Exception.make_cases name args with ⟨e, he, -⟩ | ⟨kind, he, -⟩ | ⟨-, hname, -, hnot⟩
    · have hcategory := (categoryOf_make_eq_validation_iff name args).2 hvalue
      simp [he, categoryOf] at hcategory
    · exact ⟨kind, he⟩
    · exact absurd (hname ▸ hvalue) hnot
  rw [he]
  exact Exception.text_value_eq_nil_iff

end Make

/-- What is made under the name of a built-in class of exceptions is of that class, or of one below
it that an error number decides. It has a detail exactly when all that its text shows can be shown
and it is not about a conversion at a place before the first character; then the detail has the
class, the category of what the class extends and the code, and its message is empty exactly if the
class is one for ill-chosen values and there is no argument, or one that shows as nothing. -/
theorem details_of_builtin_exceptions {name : Text} (args : List Value) (code : Option Text)
    (levels : Nat) (memory : Int → UInt8)
    (hname : Exception.Extends (SystemClass.canonical name) Exception.rootClass) :
    let e := Exception.make name args
    let cls := Exception.madeClass name args
    Exception.Extends cls (SystemClass.canonical name) ∧
    Exception.Extends cls Exception.rootClass ∧
    ((∃ d, ofException? levels e code memory = .ok d) ↔
      (∀ v ∈ e.displayed, v.trouble? levels = none) ∧
      (∀ v ∈ e.written, v.literalTrouble? levels = none) ∧ e.isMisplacedConversion = false) ∧
    ∀ d, ofException? levels e code memory = .ok d → d.Normalizes cls code ∧
      (d.message = [] ↔ Exception.Extends cls ValueClass.general.name ∧
        (args = [] ∨ ∃ a, args = [a] ∧ a.display = [])) := by
  intro e cls
  have hcls : Exception.Extends cls (SystemClass.canonical name) :=
    Exception.extends_madeClass name args
  refine ⟨hcls, hcls.trans hname, ?_, ?_⟩
  · simp only [ofException?_eq_ok_iff, exists_and_left, exists_eq, and_true]
    exact Exception.trouble?_eq_none_iff
  · intro d hd
    obtain ⟨-, rfl⟩ := ofException?_eq_ok_iff.1 hd
    exact ⟨normalizes_ofException name args code memory, messageOf_make_eq_nil_iff name args memory⟩

/-- An exception of the system under another name of the general class, with an error number that
decides a closer one, and an empty code. -/
theorem detail_of_missing_file :
    let name := "IOError".toText
    let args : List Value := [.int 2, .text "".toText, .text "ops.jsonl".toText]
    let cls := "FileNotFoundError".toText
    Exception.Extends (SystemClass.canonical name) Exception.rootClass ∧
    ∃ d, ofException? 900 (.make name args) (some []) = .ok d ∧ d.Normalizes cls (some []) ∧
      d.message ≠ [] ∧ d.code = "DEPENDENCY_UNAVAILABLE".toText := by
  intro name args cls
  have hbelow : Exception.RightBelow (SystemClass.canonical name) Exception.rootClass := by
    decide +kernel
  have hcls : Exception.madeClass name args = cls := by decide +kernel
  have hshown : (∀ v ∈ (Exception.make name args).displayed, v.trouble? 900 = none) ∧
      (∀ v ∈ (Exception.make name args).written, v.literalTrouble? 900 = none) ∧
      (Exception.make name args).isMisplacedConversion = false := by decide +kernel
  obtain ⟨-, -, hdetail, hall⟩ :=
    details_of_builtin_exceptions args (some []) 900 (fun _ => 0) hbelow.extends
  obtain ⟨d, hd⟩ := hdetail.2 hshown
  obtain ⟨hnormalizes, hmessage⟩ := hall d hd
  rw [hcls] at hnormalizes hmessage
  have hsystem : Exception.Extends cls SystemClass.general.name :=
    SystemClass.fileNotFound.extends_general
  have hcategory := hnormalizes.dependency hsystem
  have hcode := hnormalizes.code_general (by simp)
  rw [hcategory] at hcode
  refine ⟨hbelow.extends, d, hd, hnormalizes, ?_, hcode⟩
  rw [ne_eq, hmessage]
  simp [args]

/-- An ill-chosen value without any argument leaves a detail without a message. -/
theorem detail_of_bare_value_error :
    Exception.RightBelow "ValueError".toText Exception.rootClass ∧
    ∃ d, ofException? 900 (.make "ValueError".toText []) none = .ok d ∧
      d.category = .validation ∧ d.message = [] := by
  have hdetail : ofException? 900 (.make "ValueError".toText []) none =
      .ok (ofException (.make "ValueError".toText []) none) := by rfl
  exact ⟨by decide +kernel, _, hdetail, by decide +kernel, by decide +kernel⟩

end ErrorDetail

end WorkloadTrace
