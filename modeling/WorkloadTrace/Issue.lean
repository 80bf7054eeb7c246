import WorkloadTrace.Text

/-!
# Issues

What is wrong with a value that was to be read as an operation or as settings: a cause and the
path of names that leads to the value. `Checked` collects the issues of independent parts in
their order, and a failed check has at least one.
-/

namespace WorkloadTrace

/-- What is wrong with a value. -/
inductive Fault where
  /-- The text is not a JSON document. -/
  | notJson (message : Text)
  /-- The value is not an object. -/
  | notObject
  /-- No entry says which operation it is. -/
  | noOperation
  /-- There is no such operation. -/
  | unknownOperation (shown : Text) (known : List Text)
  /-- A required entry is absent. -/
  | missing
  /-- There is no such entry. -/
  | unknownEntry
  /-- The name of the entry is not a text. -/
  | nameNotText
  /-- The value is not a text. -/
  | notText
  /-- The text is empty. -/
  | emptyText
  /-- The bytes are not UTF-8, or the text cannot be written in UTF-8. -/
  | illFormedText
  /-- The value is of a kind that no integer is read from. -/
  | notInteger
  /-- The text is not the numeral of an integer. -/
  | notNumeral
  /-- The number has a fraction. -/
  | fraction
  /-- The number is too great to be read as an integer. -/
  | outOfRange
  /-- The number is infinite or not a number. -/
  | notFinite
  /-- The integer is not positive. -/
  | notPositive
  /-- The integer is negative. -/
  | negative
  /-- The value is of a kind that no truth value is read from. -/
  | notBoolean
  /-- The text or the number denotes no truth value. -/
  | unclearBoolean
  /-- The value is not a level of log records. -/
  | notLevel
  /-- The value is of a kind that no path is read from. -/
  | notPath
  /-- The path is blank. -/
  | blankPath
  /-- The value is not a section of settings. -/
  | notSection (title : Text)
deriving DecidableEq, Repr

namespace Fault

/-- The code of a fault. -/
def code : Fault → Text
  | .notJson _ => "json_invalid".toText
  | .notObject => "dict_type".toText
  | .noOperation => "union_tag_not_found".toText
  | .unknownOperation _ _ => "union_tag_invalid".toText
  | .missing => "missing".toText
  | .unknownEntry => "extra_forbidden".toText
  | .nameNotText => "invalid_key".toText
  | .notText => "string_type".toText
  | .emptyText => "string_too_short".toText
  | .illFormedText => "string_unicode".toText
  | .notInteger => "int_type".toText
  | .notNumeral => "int_parsing".toText
  | .fraction => "int_from_float".toText
  | .outOfRange => "int_parsing_size".toText
  | .notFinite => "finite_number".toText
  | .notPositive => "greater_than".toText
  | .negative => "greater_than_equal".toText
  | .notBoolean => "bool_type".toText
  | .unclearBoolean => "bool_parsing".toText
  | .notLevel => "literal_error".toText
  | .notPath => "path_type".toText
  | .blankPath => "value_error".toText
  | .notSection _ => "model_type".toText

/-- A text between single quotes. -/
def singleQuoted (s : Text) : Text := char '\x27' :: s ++ [char '\x27']

/-- The wording of a fault. -/
def message : Fault → Text
  | .notJson m => m
  | .notObject => "Input should be an object".toText
  | .noOperation => "Unable to extract tag using discriminator 'op'".toText
  | .unknownOperation shown known =>
    "Input tag ".toText ++ singleQuoted shown ++
      " found using 'op' does not match any of the expected tags: ".toText ++
      Text.joinWith ", ".toText (known.map singleQuoted)
  | .missing => "Field required".toText
  | .unknownEntry => "Extra inputs are not permitted".toText
  | .nameNotText => "Keys should be strings".toText
  | .notText => "Input should be a valid string".toText
  | .emptyText => "String should have at least 1 character".toText
  | .illFormedText =>
    "Input should be a valid string, unable to parse raw data as a unicode string".toText
  | .notInteger => "Input should be a valid integer".toText
  | .notNumeral =>
    "Input should be a valid integer, unable to parse string as an integer".toText
  | .fraction =>
    "Input should be a valid integer, got a number with a fractional part".toText
  | .outOfRange =>
    "Unable to parse input string as an integer, exceeded maximum size".toText
  | .notFinite => "Input should be a finite number".toText
  | .notPositive => "Input should be greater than 0".toText
  | .negative => "Input should be greater than or equal to 0".toText
  | .notBoolean => "Input should be a valid boolean".toText
  | .unclearBoolean => "Input should be a valid boolean, unable to interpret input".toText
  | .notLevel => "Input should be 'DEBUG', 'INFO', 'WARNING', 'ERROR' or 'CRITICAL'".toText
  | .notPath => "Input is not a valid path for <class 'pathlib.Path'>".toText
  | .blankPath => "Value error, file must be non-empty".toText
  | .notSection title =>
    "Input should be a valid dictionary or instance of ".toText ++ title

end Fault

/-- A fault and the names that lead to the value that has it. -/
structure Issue where
  /-- The names, the outermost first. -/
  path : List Text
  /-- The fault. -/
  fault : Fault
deriving DecidableEq, Repr

/-- The names of an issue with points between them. -/
def Issue.location (i : Issue) : Text := Text.joinWith [char '.'] i.path

/-- A value that passed its checks, or the issues found; there is a first one. -/
inductive Checked (α : Type) where
  /-- The checks passed. -/
  | valid (value : α)
  /-- Some checks failed. -/
  | invalid (first : Issue) (others : List Issue)
deriving Repr

namespace Checked

variable {α β : Type}

/-- The issues found. -/
def issues : Checked α → List Issue
  | valid _ => []
  | invalid first others => first :: others

/-- The value, if the checks passed. -/
def toOption : Checked α → Option α
  | valid a => some a
  | invalid _ _ => none

/-- Applies a function to the value. -/
def map (f : α → β) : Checked α → Checked β
  | valid a => valid (f a)
  | invalid i is => invalid i is

/-- Two independent checks: the issues of the first stand before those of the second. -/
def ap (f : Checked (α → β)) (x : Checked α) : Checked β :=
  match f, x with
  | valid f, valid a => valid (f a)
  | valid _, invalid i is => invalid i is
  | invalid i is, x => invalid i (is ++ x.issues)

instance : Functor Checked where
  map := map

instance : Applicative Checked where
  pure := valid
  seq f x := ap f (x ())

/-- A check that fails with one fault at a place. -/
def fail (path : List Text) (fault : Fault) : Checked α := invalid ⟨path, fault⟩ []

/-- The outcome of reading one value as a check at a place. -/
def ofExcept (path : List Text) : Except Fault α → Checked α
  | .ok a => valid a
  | .error fault => fail path fault

/-- A value unless there are issues. -/
def validUnless (issues : List Issue) (a : α) : Checked α :=
  match issues with
  | [] => valid a
  | i :: is => invalid i is

/-- Checks every member of a list. -/
def all (check : α → Checked β) : List α → Checked (List β)
  | [] => valid []
  | a :: as => ap (map List.cons (check a)) (all check as)

/-- A check passes exactly when it finds no issue. -/
theorem issues_eq_nil_iff {x : Checked α} : x.issues = [] ↔ ∃ a, x = valid a := by
  cases x <;> simp [issues]

end Checked

end WorkloadTrace
