import WorkloadTrace.ErrorDetail
import WorkloadTrace.Journal

/-!
# Sinks

A sink receives the lines of a trace between an opening and a closing. What the system refuses is
recorded in the sink and reaches no caller; an operation can still raise, and what it has done by
then stays.
-/

namespace WorkloadTrace

/-- The three operations of a sink on its state, each with what it raises, and the failures that the
sink has recorded. -/
structure Sink (σ : Type) where
  /-- Prepares for lines. -/
  start : σ → Journal → Option Trouble × σ × Journal
  /-- Receives one line. -/
  receive : Text → σ → Journal → Option Trouble × σ × Journal
  /-- Releases the destination. -/
  stop : σ → Journal → Option Trouble × σ × Journal
  /-- The failures recorded so far. -/
  failures : σ → Except Trouble (List ErrorDetail)

/-- What reaches a sink. -/
inductive SinkEvent where
  /-- It was prepared for lines. -/
  | started
  /-- It received a line. -/
  | received (line : Text)
  /-- It was released. -/
  | stopped
deriving DecidableEq, Repr

namespace Sink

/-- The sink that keeps everything that reaches it in memory, in order. -/
def memory : Sink (List SinkEvent) where
  start events j := (none, events ++ [.started], j)
  receive line events j := (none, events ++ [.received line], j)
  stop events j := (none, events ++ [.stopped], j)
  failures _ := .ok []

end Sink

end WorkloadTrace
