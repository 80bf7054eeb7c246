import WorkloadTrace.Predicate

/-!
# Query lines

A line of a trace is `query(VERB("arg",…))`, with a clause after `&` unless the clause is empty,
and ends with its only line feed.
-/

namespace WorkloadTrace

/-- The verb of a query line. -/
inductive Verb where
  /-- Reads one record. -/
  | get
  /-- Reads the records that a condition selects. -/
  | getMany
  /-- Writes one record. -/
  | put
  /-- Deletes one record. -/
  | delete
  /-- Deletes the records that a condition selects. -/
  | deleteMany
  /-- Changes metadata of the records that a condition selects. -/
  | putMany
  /-- Reads a range of records. -/
  | scan
  /-- Reads the monitoring log. -/
  | getLogs
deriving DecidableEq, Repr

namespace Verb

/-- All verbs. -/
def all : List Verb := [.get, .getMany, .put, .delete, .deleteMany, .putMany, .scan, .getLogs]

/-- The word of a verb in a line. -/
def word : Verb → Text
  | .get => "GET".toText
  | .getMany => "GETM".toText
  | .put => "PUT".toText
  | .delete => "DELETE".toText
  | .deleteMany => "DELETEM".toText
  | .putMany => "PUTM".toText
  | .scan => "SCAN".toText
  | .getLogs => "getLogs".toText

/-- The verb that a word denotes. -/
def parse? (s : Text) : Option Verb := all.find? fun v => v.word = s

/-- Every verb is denoted by its word. -/
theorem parse?_word (v : Verb) : parse? v.word = some v := by cases v <;> decide

end Verb

/-- What a line of a trace says. -/
structure QueryLine where
  /-- The verb. -/
  verb : Verb
  /-- The arguments' texts, not escaped. -/
  args : List Text
  /-- The clause, as it is written. -/
  clause : Text := []
deriving DecidableEq, Repr

namespace QueryLine

/-- The line for a verb with values as arguments. -/
def ofValues (verb : Verb) (args : List Value) (clause : Text) : QueryLine :=
  ⟨verb, args.map Value.traceText, clause⟩

/-- An argument between its quotes. -/
def quoteArg (arg : Text) : Text := char '\x22' :: Text.escape arg ++ [char '\x22']

/-- The line without the clause and the line feed. -/
def renderCall (q : QueryLine) : Text :=
  "query(".toText ++ q.verb.word ++ char '(' :: Text.joinWith [char ','] (q.args.map quoteArg) ++
    "))".toText

/-- What follows the call: the clause after a separator, unless it is empty. -/
def renderClause (q : QueryLine) : Text :=
  if q.clause.isEmpty then [] else Predicate.separator :: q.clause

/-- The line with its line feed. -/
def render (q : QueryLine) : Text := q.renderCall ++ q.renderClause ++ [char '\n']

end QueryLine

end WorkloadTrace
