import WorkloadTrace.Text.Quoted

/-!
# Errors in the use of the command line

Each error is found before anything is done, so a command line with one of them has no effect.
-/

namespace WorkloadTrace.CommandLine

/-- What is wrong with a command line. -/
inductive UsageError where
  /-- There is no such option. -/
  | unknownOption (name : Text)
  /-- An option lacks its value. -/
  | missingValue (name : Text)
  /-- A flag is given a value. -/
  | unexpectedValue (name : Text)
  /-- There is no command. -/
  | missingCommand
  /-- There is no such command. -/
  | unknownCommand (name : Text)
  /-- A property is not a name and a value. -/
  | badProperty (item : Text)
  /-- The file of operations is not given. -/
  | missingArgument
  /-- There are words that mean nothing. -/
  | extraArguments (words : List Text)
  /-- The file of operations does not exist. -/
  | noSuchFile (name : Text)
  /-- The file of operations is a directory. -/
  | isDirectory (name : Text)
deriving DecidableEq, Repr

namespace UsageError

/-- How the file of operations is called in messages. -/
def argumentName : Text := "OPS_FILE".toText

/-- The beginning of a message about the file of operations. -/
def aboutFile (name : Text) : Text :=
  "Invalid value for ".toText ++ Text.quoted argumentName ++ ": File ".toText ++ Text.quoted name

/-- The message for an error. -/
def message : UsageError → Text
  | .unknownOption name => "No such option: ".toText ++ name
  | .missingValue name => "Option ".toText ++ Text.quoted name ++ " requires an argument.".toText
  | .unexpectedValue name =>
    "Option ".toText ++ Text.quoted name ++ " does not take a value.".toText
  | .missingCommand => "Missing command.".toText
  | .unknownCommand name => "No such command ".toText ++ Text.quoted name ++ [char '.']
  | .badProperty item => "expected key=value, got ".toText ++ Text.quoted item
  | .missingArgument => "Missing argument ".toText ++ Text.quoted argumentName ++ [char '.']
  | .extraArguments words =>
    "Got unexpected extra arguments (".toText ++ Text.joinWith [char ' '] words ++ [char ')']
  | .noSuchFile name => aboutFile name ++ " does not exist.".toText
  | .isDirectory name => aboutFile name ++ " is a directory.".toText

end UsageError

end WorkloadTrace.CommandLine
