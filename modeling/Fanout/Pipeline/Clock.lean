import Fanout.Pipeline.Schedule

/-! Runs that nobody drives from outside: whenever nothing can go on, the clock moves to the next
moment at which something falls due. -/

namespace Fanout

/-- The moment at which a worker gives up what it waits for. -/
def Worker.deadline? (taskTimeoutMs : Nat) (w : Worker) : Option Nat :=
  match w.point with
  | .executing _ _ startedAt .running => some (startedAt + taskTimeoutMs)
  | _ => none

def CollectorPoint.due? : CollectorPoint → Option Nat
  | .receiving nextTick => some nextTick
  | .pausing _ wake => some wake
  | _ => none

/-- The moment at which a work has waited long enough. -/
def Execution.due? (e : Execution) : Option Nat :=
  match e.packet.item.work.gate with
  | .delay ms => some (e.startedAt + ms)
  | _ => none

def CollectorPoint.isCrashed : CollectorPoint → Bool
  | .crashed .. => true
  | _ => false

namespace Pipeline

/-- The moments at which something falls due. -/
def dueMoments (s : Pipeline) : List Nat :=
  s.collector.point.due?.toList
    ++ s.workers.filterMap (·.deadline? s.taskTimeoutMs)
    ++ s.executions.filterMap (·.due?)

/-- The first of them that is still to come. -/
def nextMoment? (s : Pipeline) : Option Nat :=
  (s.dueMoments.filter (s.now < ·)).min?

/-- The caller has got its answer. -/
def isOver (s : Pipeline) : Bool :=
  s.supervisor.point = .done

/-- A time after which a run is over, counted from now: every task takes at most its time limit,
and a tick and the final pause may follow. -/
def horizon (s : Pipeline) : Nat :=
  (s.dispatcher.total + 1) * (s.taskTimeoutMs + 1) + s.collector.tickIntervalMs
    + PipelineConfig.trailingPauseMs + 1

end Pipeline

namespace Schedule

/-- Moves the clock at most so many times, until the caller has its answer or has panicked itself. -/
def elapse : Nat → Schedule → Schedule
  | 0, x => x
  | fuel + 1, x =>
    if x.state.isOver || x.state.collector.point.isCrashed then x
    else match x.state.nextMoment? with
      | none => x
      | some t => elapse fuel (x.resume { x.state with now := t })

/-- Runs to the end. -/
def finish (x : Schedule) : Schedule :=
  elapse x.state.horizon x.settle

end Schedule

end Fanout
