import Fanout.Proofs.Pipeline.Run
import Fanout.Proofs.Pipeline.Frame

/-!
What a run is set up with: the mode, the target, the times, the number of tasks, the numbers of the
workers and the sizes of the channels. No move changes any of it (`plan_of_move`), so every reachable
state has the plan of its configuration (`plan_of_reachable`).
-/

namespace Fanout

structure Plan where
  mode : ShutdownMode
  want : Nat
  tickIntervalMs : Nat
  trailingPause : Bool
  taskTimeoutMs : Nat
  total : Nat
  workers : List Nat
  handoffCapacity : Nat
  outboundCapacity : Nat
  wholeRun : Bool

namespace Pipeline

def plan (s : Pipeline) : Plan where
  mode := s.collector.mode
  want := s.collector.want
  tickIntervalMs := s.collector.tickIntervalMs
  trailingPause := s.collector.trailingPause
  taskTimeoutMs := s.taskTimeoutMs
  total := s.dispatcher.total
  workers := s.workers.map (·.id)
  handoffCapacity := s.handoff.capacity
  outboundCapacity := s.outbound.capacity
  wholeRun := s.supervisor.wholeRun

variable {s t : Pipeline}

theorem map_id_set {workers : List Worker} {k : Nat} {w : Worker} (hworker : workers[k]? = some w)
    (point : WorkerPoint) : (workers.set k { w with point }).map (·.id) = workers.map (·.id) := by
  obtain ⟨hk, rfl⟩ := List.getElem?_eq_some_iff.mp hworker
  apply List.ext_getElem (by simp)
  intro j hj _
  simp only [List.getElem_map, List.getElem_set]
  split
  next heq => simp only [heq]
  next => rfl

theorem plan_of_dispatcherStep (h : DispatcherStep s t) : t.plan = s.plan := by
  cases h <;> simp [plan, endDispatcher]

theorem plan_of_workerStep {k : Nat} {w : Worker} (hworker : s.workers[k]? = some w)
    (h : WorkerStep s k w t) : t.plan = s.plan := by
  cases h <;> simp [plan, endWorker, crashWorker, beginWork, map_id_set hworker]

theorem plan_of_collectorStep (h : CollectorStep s t) : t.plan = s.plan := by
  cases h with
  | reached seen nextTick | continued seen nextTick =>
      obtain ⟨log, heq, -⟩ := stopWhenEnough_eq seen s
      simp [plan, heq]
  | _ => simp [plan, accept, endCollector]

theorem plan_of_supervisorStep (h : SupervisorStep s t) : t.plan = s.plan := by
  obtain ⟨supervisor, exits, metrics, log, rfl, hwhole, -⟩ := supervisorStep_frame h
  simp [plan, hwhole]

theorem plan_of_executionStep {ticket : Nat} (h : ExecutionStep s ticket t) : t.plan = s.plan := by
  cases h with
  | delivered e k w task startedAt hfind hend hworker hpoint => simp [plan, map_id_set hworker]
  | late => rfl

theorem plan_of_move {m : Move} (h : s.move m = some t) : t.plan = s.plan := by
  cases moveStep_of_move h with
  | dispatcher h => exact plan_of_dispatcherStep h
  | worker k w hworker h => exact plan_of_workerStep hworker h
  | collector h => exact plan_of_collectorStep h
  | supervisor h => exact plan_of_supervisorStep h
  | execution ticket h => exact plan_of_executionStep h
  | advanced | released => rfl

variable {config : PipelineConfig} {jobs : List Job}

theorem plan_of_reachable (hs : Reachable config jobs s) : s.plan = (ofRun config jobs).plan :=
  hs.induction rfl fun _ _ _ _ ih h => (plan_of_move h).trans ih

/-- The workers keep the numbers that they were started with. -/
theorem ids_of_reachable (hs : Reachable config jobs s) :
    s.workers.map (·.id) = List.range config.workerCount := by
  have hplan := congrArg Plan.workers (plan_of_reachable hs)
  simpa [plan, ofRun, Function.comp_def] using hplan

theorem length_workers_of_reachable (hs : Reachable config jobs s) :
    s.workers.length = config.workerCount := by
  have hlength := congrArg List.length (ids_of_reachable hs)
  rwa [List.length_map, List.length_range] at hlength

theorem workers_ne_nil (hs : Reachable config jobs s) (hcount : config.workerCount ≠ 0) :
    s.workers ≠ [] := by
  intro hnone
  have hlength := length_workers_of_reachable hs
  rw [hnone] at hlength
  exact hcount hlength.symm

end Pipeline

end Fanout
