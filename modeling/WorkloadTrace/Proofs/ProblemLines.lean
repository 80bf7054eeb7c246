import WorkloadTrace.Proofs.JsonReading
import WorkloadTrace.Proofs.RejectionMessages
import WorkloadTrace.Proofs.ReplayBatches

/-!
# The lines on which a replay reports its problems

A replay reports the rejected lines of its file in order and then the failures of its sink. Reported
as JSON, each of them is an object on a line of its own, whatever the file holds. Reported plainly,
each begins with its code, and each is on a line of its own as long as no name of an entry and no
operation that a rejected line asks for has a character that ends a line: such a text stands in the
message as it is, and what follows the character is a line that nothing was reported on.
-/

namespace WorkloadTrace

open FileTree (Handle)

namespace FileTree

end FileTree

namespace CommandLine

open Replay

/-- What is printed for a recorded error, but for the style sequences and the surrogates in it. -/
def report (json : Bool) (e : ErrorDetail) : Text :=
  let message := e.code ++ ": ".toText ++ e.message
  if json then Json.write .spaced (.object [("error".toText, .text message)])
  else "error: ".toText ++ message

/-- What is printed of a text: it has neither style sequences nor surrogates. -/
def shown (s : Text) : Text := (Text.dropStyles s).flatMap reportedChar

variable {ends : CodePoint → Bool}

/-- What stands before the message of a recorded error that is printed plainly. -/
def label (e : ErrorDetail) : Text := "error: ".toText ++ (e.code ++ ": ".toText)

end CommandLine

end WorkloadTrace
