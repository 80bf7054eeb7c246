import WorkloadTrace.Proofs.LogBlocks
import WorkloadTrace.Proofs.Overlays

/-!
# Refused configurations

Choosing how records are written begins with giving up the way in which they were written, so a
configuration with an unknown level keeps the threshold and the bound fields and leaves the log
without a form. From then on a run is in step with the one without the refused call: both bind, drop
and restore the same fields, but records that would have been written in the chosen form are lost,
or written bare to the standard error stream if they are serious enough, until a configuration is
accepted, which ends the difference. The refused call can therefore be told from no call exactly by
the records up to that configuration.
-/

namespace WorkloadTrace

namespace Log

section Formless

variable {time : Text} {l : Log}

end Formless

end Log

end WorkloadTrace
