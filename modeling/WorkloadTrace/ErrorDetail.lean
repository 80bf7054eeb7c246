import WorkloadTrace.Exception

/-!
# Error details

Errors are values: whatever goes wrong is recorded with a stable code and a category and is
reported at the end. An exception becomes a detail whose category follows from its class.
-/

namespace WorkloadTrace

/-- What kind of thing went wrong. -/
inductive Category where
  /-- Input that cannot be understood. -/
  | validation
  /-- Something outside the recorder. -/
  | dependency
  /-- Anything unexpected. -/
  | internal
deriving DecidableEq, Repr

namespace Category

/-- All categories. -/
def all : List Category := [.validation, .dependency, .internal]

/-- The name of a category. -/
def name : Category → Text
  | .validation => "validation".toText
  | .dependency => "dependency".toText
  | .internal => "internal".toText

/-- The category with a name. -/
def parse? (s : Text) : Option Category := all.find? fun c => c.name = s

/-- The code of an error of a category that has no closer one. -/
def code : Category → Text
  | .validation => "VALIDATION_ERROR".toText
  | .dependency => "DEPENDENCY_FAILURE".toText
  | .internal => "INTERNAL_ERROR".toText

/-- The code of an exception of a category that has no closer one. -/
def exceptionCode : Category → Text
  | .validation => "INVALID_ARGUMENT".toText
  | .dependency => "DEPENDENCY_UNAVAILABLE".toText
  | .internal => "UNEXPECTED_EXCEPTION".toText

end Category

/-- A recorded error. -/
structure ErrorDetail where
  /-- A stable code. -/
  code : Text
  /-- What happened. -/
  message : Text
  /-- What kind of thing went wrong. -/
  category : Category
  /-- Whether trying again may help. -/
  retryable : Bool := false
  /-- Further facts by name. -/
  metadata : Fields Text := []
deriving DecidableEq, Repr

namespace ErrorDetail

/-- The code of a line that holds no operation. -/
def invalidOperation : Text := "INVALID_OPERATION".toText

/-- The code of a trace file that cannot be opened. -/
def openFailed : Text := "TRACE_SINK_OPEN_FAILED".toText

/-- The code of a line that cannot be written. -/
def writeFailed : Text := "TRACE_SINK_WRITE_FAILED".toText

/-- The code of a trace file that cannot be closed. -/
def closeFailed : Text := "TRACE_SINK_CLOSE_FAILED".toText

/-- A detail of a category, with its general code unless another one is given. -/
def make (category : Category) (message : Text) (code : Option Text) (metadata : Fields Text)
    (retryable : Bool) : ErrorDetail :=
  ⟨code.getD category.code, message, category, retryable, metadata⟩

/-- The category of an exception. -/
def categoryOf : Exception → Category
  | .system _ => .dependency
  | .value _ _ => .validation
  | .other _ _ => .internal

/-- The message for an exception: its text, or a general phrase for an empty one. An ill-chosen
value has no phrase. -/
def messageOf (e : Exception) (memory : Int → UInt8 := fun _ => 0) : Text :=
  let text := e.text memory
  if text.isEmpty then
    match e with
    | .system _ => "i/o failure".toText
    | .value _ _ => []
    | .other _ _ => "unexpected exception".toText
  else text

/-- The detail for an exception that has a text, with a given code unless that is absent or
empty. -/
def ofException (e : Exception) (code : Option Text) (memory : Int → UInt8 := fun _ => 0) :
    ErrorDetail :=
  let category := categoryOf e
  let chosen := match code with
    | some c => if c.isEmpty then category.exceptionCode else c
    | none => category.exceptionCode
  ⟨chosen, messageOf e memory, category, false, [("exception_type".toText, e.className)]⟩

/-- The detail for an exception, unless something is raised instead of its text. -/
def ofException? (levels : Nat) (e : Exception) (code : Option Text)
    (memory : Int → UInt8 := fun _ => 0) : Except Trouble ErrorDetail :=
  match e.trouble? levels with
  | some t => .error t
  | none => .ok (ofException e code memory)

end ErrorDetail

end WorkloadTrace
