import WorkloadTrace.Identity.Reader
import WorkloadTrace.Main
import WorkloadTrace.Proofs.ByteValues
import WorkloadTrace.Proofs.CallerContext
import WorkloadTrace.Proofs.ClauseNesting
import WorkloadTrace.Proofs.ExceptionDetails
import WorkloadTrace.Proofs.ExpiringInsertion
import WorkloadTrace.Proofs.HiddenContents
import WorkloadTrace.Proofs.JsonLines
import WorkloadTrace.Proofs.LineFraming
import WorkloadTrace.Proofs.LineReading
import WorkloadTrace.Proofs.MetadataClause
import WorkloadTrace.Proofs.ProblemLines
import WorkloadTrace.Proofs.Reconfiguration
import WorkloadTrace.Proofs.SeedNumbers
import WorkloadTrace.Proofs.SelectorSpread
import WorkloadTrace.Proofs.SinkAccounting
import WorkloadTrace.Proofs.SinkLifecycle
import WorkloadTrace.Proofs.TraceFileOption
