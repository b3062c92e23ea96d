import Mathlib.Data.List.Count
import Mathlib.Algebra.BigOperators.Group.List.Lemmas
import Fanout.Proofs.Pipeline.Reasons
import Fanout.Proofs.Pipeline.Takings

/-!
The metrics against the counters. The metrics are only ever added to, while a worker that gives a task
up takes it back out of the counters. Both are compared with what a run does: it counts a dispatch, a
worker counts a task that it gave up, a result arrives (`metrics_perm`). A task is given up for its
deadline or for a panic, by the worker that took it, and never for both (`abandonings_explained`).
-/

namespace Fanout

/-- Why a worker gives a task up. -/
inductive Cause
  | deadline
  | panic
  deriving DecidableEq, Repr

/-- The metric that a worker counts such a task by. -/
def Cause.metric (worker : Nat) : Cause → Metric
  | .deadline => .timedOut worker
  | .panic => .panicked worker

/-- The happening by which a task is given up. -/
def Cause.happening (task : Nat) : Cause → Happening
  | .deadline => .expired task
  | .panic => .heardPanic task

/-- A worker counts a task that it gave up. -/
structure Abandoning where
  worker : Nat
  task : Nat
  cause : Cause
  deriving DecidableEq, Repr

def Abandoning.metric (x : Abandoning) : Metric :=
  x.cause.metric x.worker

/-- What a worker is about to count. -/
def Worker.abandoning? (w : Worker) : Option Abandoning :=
  match w.point with
  | .timedOut task => some ⟨w.id, task, .deadline⟩
  | .panicked task => some ⟨w.id, task, .panic⟩
  | _ => none

namespace Pipeline

/-- What a worker counts as given up by a move. -/
def abandoning? (s : Pipeline) : Move → Option Abandoning
  | .act (.worker k) => (s.workers[k]?).bind Worker.abandoning?
  | _ => none

/-- What workers count as given up while these moves are made. -/
def abandonings : List Move → Pipeline → List Abandoning :=
  recorded abandoning?

variable {s t : Pipeline} {config : PipelineConfig} {jobs : List Job}

/-! ### What the metrics count -/

/-- The metric of the whole run, once the caller has returned. -/
def durations (s : Pipeline) : List Metric :=
  if s.supervisor.point = .done then [.runDuration s.collector.mode] else []

/-- The metrics that a run owes that has given up these tasks. -/
def metricsDue (past : List Abandoning) (s : Pipeline) : List Metric :=
  List.replicate s.counters.dispatched .dispatched ++
    s.collector.results.map (.completed ·.worker) ++ past.map Abandoning.metric ++ s.durations

theorem WorkerStep.metrics {k : Nat} {w : Worker} (h : WorkerStep s k w t) :
    t.metrics = s.metrics ++ w.abandoning?.toList.map Abandoning.metric ∧
      t.abandonedTasks = s.abandonedTasks ++ w.abandoning?.toList.map (·.task) := by
  cases h <;> simp [Worker.abandoning?, Abandoning.metric, Cause.metric, endWorker, crashWorker,
    beginWork, abandonedTasks, Event.abandonedTask?, List.filterMap_cons, *]

/-- The collector counts a result when it keeps it. -/
theorem CollectorStep.metrics (h : CollectorStep s t) :
    (t.metrics = s.metrics ∧ t.collector.results = s.collector.results) ∨
    ∃ p, t.metrics = s.metrics ++ [.completed p.worker] ∧
      t.collector.results = s.collector.results ++ [p] := by
  cases h with
  | accepted p => exact .inr ⟨p, rfl, rfl⟩
  | reached seen | continued seen =>
      obtain ⟨log, heq, -⟩ := stopWhenEnough_eq seen s
      exact .inl (by simp [heq])
  | _ => exact .inl ⟨rfl, rfl⟩

@[simp] theorem joinWorker_metrics (k : Nat) (s : Pipeline) :
    (s.joinWorker k).metrics = s.metrics := by
  unfold joinWorker
  split <;> rfl

/-- The caller of a whole run counts once, when it returns. -/
theorem SupervisorStep.metrics (hwhole : s.supervisor.wholeRun = true) (h : SupervisorStep s t) :
    s.durations = [] ∧ t.metrics = s.metrics ++ t.durations := by
  cases h with
  | sawCollector exit hpoint => simp [durations, hpoint]
  | sawDispatcher hpoint | sawDispatcherCrash _ hpoint =>
      simp [afterDispatcher_eq, durations, hpoint, hwhole]
  | joined k rest hpoint =>
      simp [durations, hpoint]
  | returned hpoint =>
      refine ⟨by simp [durations, hpoint], ?_⟩
      simp only [endSupervisor, hwhole, if_pos]
      split <;> simp [durations]

/-- A move adds to the metrics what it adds to the run. -/
theorem metrics_of_move {m : Move} {past : List Abandoning} (hs : Reachable config jobs s)
    (hdue : s.metrics.Perm (s.metricsDue past)) (h : s.move m = some t) :
    t.metrics.Perm (t.metricsDue (past ++ (s.abandoning? m).toList)) := by
  simp only [List.perm_iff_count, metricsDue, List.count_append, List.map_append] at hdue ⊢
  intro x
  have hx := hdue x
  have hmode : t.collector.mode = s.collector.mode := congrArg Plan.mode (plan_of_move h)
  cases moveBy_of_move h with
  | dispatcher h =>
      have hframe := h.frame
      have hnothing : s.abandoning? (.act .dispatcher) = none := rfl
      rw [hnothing, durations, hframe.collector, hframe.supervisor, ← durations]
      rcases h.counting_cases with ⟨i, p, -, -, hdispatched, hmetrics⟩ | ⟨-, hdispatched, hmetrics⟩
      · rw [hmetrics, hdispatched, List.replicate_succ', List.count_append, List.count_append]
        simp only [Option.toList_none, List.map_nil, List.count_nil]
        omega
      · rw [hmetrics, hdispatched]
        exact hx
  | worker k w hworker h =>
      have hframe := h.frame
      have hgiven : s.abandoning? (.act (.worker k)) = w.abandoning? := by
        rw [abandoning?, hworker, Option.bind_some]
      rw [hgiven, durations, hframe.collector, hframe.supervisor, ← durations, h.metrics.1,
        h.dispatched (ledger_of_reachable hs) hworker, List.count_append]
      omega
  | collector h =>
      have hnothing : s.abandoning? (.act .collector) = none := rfl
      rw [hnothing, durations, hmode, h.frame.supervisor, ← durations, h.dispatched]
      rcases h.metrics with ⟨hmetrics, hresults⟩ | ⟨p, hmetrics, hresults⟩
      · rw [hmetrics, hresults]
        exact hx
      · rw [hmetrics, hresults, List.map_append, List.count_append, List.count_append]
        simp only [Option.toList_none, List.map_nil, List.map_cons, List.count_nil]
        omega
  | supervisor h =>
      have hwhole : s.supervisor.wholeRun = true := congrArg Plan.wholeRun (plan_of_reachable hs)
      obtain ⟨hbefore, hmetrics⟩ := h.metrics hwhole
      obtain ⟨supervisor, exits, metrics, log, rfl, -, -⟩ := supervisorStep_frame h
      have hnothing : s.abandoning? (.act .supervisor) = none := rfl
      rw [hbefore, List.count_nil] at hx
      rw [hnothing, hmetrics, List.count_append]
      simp only [Option.toList_none, List.map_nil, List.count_nil]
      omega
  | execution ticket h => cases h <;> exact hx
  | advanced | released => exact hx

/-- The metrics of a run are those of its dispatches, its results, the tasks that were given up and its
end, once each. -/
theorem metrics_perm {moves : List Move} (h : (ofRun config jobs).follow moves = some s) :
    s.metrics.Perm (s.metricsDue ((ofRun config jobs).abandonings moves)) := by
  refine follow_induction (P := fun moves s =>
    s.metrics.Perm (s.metricsDue ((ofRun config jobs).abandonings moves))) h (List.Perm.refl _) ?_
  intro before u m v hbefore ih hmove
  rw [abandonings, recorded_concat abandoning? hbefore hmove]
  exact metrics_of_move ⟨before, hbefore⟩ ih hmove

/-! ### Who gave up what, and why -/

theorem abandonedTasks_of_move {m : Move} (h : s.move m = some t) :
    t.abandonedTasks = s.abandonedTasks ++ (s.abandoning? m).toList.map (·.task) := by
  have hkept (hnothing : s.abandoning? m = none) (htasks : t.abandonedTasks = s.abandonedTasks) :
      t.abandonedTasks = s.abandonedTasks ++ (s.abandoning? m).toList.map (·.task) := by
    rw [hnothing, htasks, Option.toList_none, List.map_nil, List.append_nil]
  cases moveBy_of_move h with
  | dispatcher h => exact hkept rfl h.frame.abandonedTasks
  | worker k w hworker h =>
      rw [abandoning?, hworker, Option.bind_some]
      exact h.metrics.2
  | collector h => exact hkept rfl h.frame.abandonedTasks
  | supervisor h =>
      obtain ⟨supervisor, exits, metrics, log, rfl, -, htasks⟩ := supervisorStep_frame h
      exact hkept rfl htasks
  | execution ticket h => exact hkept rfl h.abandonedTasks
  | advanced | released => exact hkept rfl rfl

theorem abandonedTasks_eq {moves : List Move} (h : (ofRun config jobs).follow moves = some s) :
    s.abandonedTasks = ((ofRun config jobs).abandonings moves).map (·.task) := by
  refine follow_induction (P := fun moves s =>
    s.abandonedTasks = ((ofRun config jobs).abandonings moves).map (·.task)) h rfl ?_
  intro before u m v hbefore ih hmove
  rw [abandonings, recorded_concat abandoning? hbefore hmove, List.map_append,
    abandonedTasks_of_move hmove]
  exact congrArg (· ++ _) ih

/-- A worker counts what it holds, and by the cause for which it gave it up. -/
theorem abandoning?_eq_some {m : Move} {x : Abandoning} (h : s.abandoning? m = some x) :
    ∃ w ∈ s.workers, x.worker = w.id ∧ x.task ∈ w.point.held ∧
      w.point.reason? = some (x.cause.happening x.task) := by
  cases m with
  | act actor =>
      cases actor with
      | worker k =>
          obtain ⟨w, hworker, hgiven⟩ := Option.bind_eq_some_iff.mp h
          refine ⟨w, List.mem_of_getElem? hworker, ?_⟩
          unfold Worker.abandoning? at hgiven
          split at hgiven
          next task hpoint =>
            cases hgiven
            simp [hpoint, Cause.happening]
          next task hpoint =>
            cases hgiven
            simp [hpoint, Cause.happening]
          next => cases hgiven
      | dispatcher | collector | supervisor | execution => cases h
  | advance | release => cases h

/-- What a worker counts as given up it took itself, and it gave it up for the cause that it counts. -/
theorem abandonings_explained {moves : List Move}
    (h : (ofRun config jobs).follow moves = some s) :
    ∀ x ∈ (ofRun config jobs).abandonings moves,
      ⟨x.worker, x.task⟩ ∈ (ofRun config jobs).takings moves ∧
      x.cause.happening x.task ∈ (ofRun config jobs).happenings moves := by
  refine follow_induction (P := fun moves _ => ∀ x ∈ (ofRun config jobs).abandonings moves,
      ⟨x.worker, x.task⟩ ∈ (ofRun config jobs).takings moves ∧
      x.cause.happening x.task ∈ (ofRun config jobs).happenings moves) h ?_ ?_
  · intro x hx
    cases hx
  · intro before u m v hbefore ih hmove x hx
    rw [abandonings, recorded_concat abandoning? hbefore hmove] at hx
    rw [takings, recorded_append, happenings_append]
    rcases List.mem_append.mp hx with hold | hnew
    · exact ⟨List.mem_append_left _ (ih x hold).1, List.mem_append_left _ (ih x hold).2⟩
    · obtain ⟨w, hw, hworker, hheld, hreason⟩ := abandoning?_eq_some (Option.mem_toList.mp hnew)
      refine ⟨List.mem_append_left _ ?_, List.mem_append_left _ ?_⟩
      · rw [hworker]
        exact (ascribed_of_follow hbefore).held w hw x.task hheld
      · exact (explained_of_follow hbefore).points w hw _ hreason

/-! ### Metrics by worker -/

theorem Abandoning.metric_eq_iff (x : Abandoning) (worker : Nat) (cause : Cause) :
    x.metric = cause.metric worker ↔ x.worker = worker ∧ x.cause = cause := by
  cases x with
  | mk v task because => cases because <;> cases cause <;> simp [Abandoning.metric, Cause.metric]

/-- A list that every worker has a share of is shared out. -/
theorem sum_countP_eq_length {α : Type} {xs : List α} {n : Nat} (key : α → Option Nat)
    (hkey : ∀ x ∈ xs, ∃ w < n, key x = some w) :
    ((List.range n).map fun w => xs.countP (key · = some w)).sum = xs.length := by
  induction xs with
  | nil => simp
  | cons x rest ih =>
      obtain ⟨w, hw, hx⟩ := hkey x List.mem_cons_self
      have hrest := ih fun y hy => hkey y (List.mem_cons_of_mem _ hy)
      have hone : ((List.range n).map fun v => if v = w then 1 else 0).sum = 1 := by
        have hcount := weigh_indicator w (List.range n)
        rwa [List.count_eq_one_of_mem List.nodup_range (List.mem_range.mpr hw)] at hcount
      simp only [List.countP_cons, hx, decide_eq_true_eq, Option.some.injEq, eq_comm (a := w),
        List.sum_map_add, hrest, hone, List.length_cons]

theorem countP_causes (xs : List Abandoning) (w : Nat) :
    xs.countP (fun x => x.worker = w ∧ x.cause = .deadline) +
      xs.countP (fun x => x.worker = w ∧ x.cause = .panic) = xs.countP (·.worker = w) := by
  induction xs with
  | nil => rfl
  | cons x rest ih =>
      simp only [List.countP_cons, ← ih]
      cases x.cause <;> simp <;> omega

variable {moves : List Move}

theorem count_metrics (h : (ofRun config jobs).follow moves = some s) (x : Metric) :
    s.metrics.count x = (if .dispatched = x then s.counters.dispatched else 0) +
      s.collector.results.countP (.completed ·.worker = x) +
      ((ofRun config jobs).abandonings moves).countP (·.metric = x) + s.durations.count x := by
  rw [(metrics_perm h).count_eq, metricsDue, List.count_append, List.count_append,
    List.count_append, List.count_replicate, List.count_eq_countP (l := List.map _ _),
    List.count_eq_countP (l := List.map _ _), List.countP_map, List.countP_map]
  simp [Function.comp_def, beq_eq_decide]

theorem count_durations {x : Metric} (hx : ∀ mode, x ≠ .runDuration mode) :
    s.durations.count x = 0 := by
  refine List.count_eq_zero.mpr fun hmem => ?_
  unfold durations at hmem
  split at hmem
  next => exact hx _ (List.mem_singleton.mp hmem)
  next => cases hmem

theorem count_dispatched (h : (ofRun config jobs).follow moves = some s) :
    s.metrics.count .dispatched = s.counters.dispatched := by
  have hmetric : ∀ x : Abandoning, x.metric ≠ .dispatched := by
    intro x
    unfold Abandoning.metric
    cases x.cause <;> simp [Cause.metric]
  rw [count_metrics h, count_durations (by simp)]
  simp [hmetric]

theorem count_completed (h : (ofRun config jobs).follow moves = some s) (w : Option Nat) :
    s.metrics.count (.completed w) = s.collector.results.countP (·.worker = w) := by
  have hmetric : ∀ x : Abandoning, x.metric ≠ .completed w := by
    intro x
    unfold Abandoning.metric
    cases x.cause <;> simp [Cause.metric]
  rw [count_metrics h, count_durations (by simp)]
  simp [hmetric]

theorem count_abandoned (h : (ofRun config jobs).follow moves = some s) (cause : Cause) (w : Nat) :
    s.metrics.count (cause.metric w) =
      ((ofRun config jobs).abandonings moves).countP fun x => x.worker = w ∧ x.cause = cause := by
  have hcause : (∀ mode, cause.metric w ≠ .runDuration mode) ∧ .dispatched ≠ cause.metric w ∧
      ∀ v, .completed v ≠ cause.metric w := by
    cases cause <;> simp [Cause.metric]
  rw [count_metrics h, count_durations hcause.1, if_neg hcause.2.1]
  simp [hcause.2.2, Abandoning.metric_eq_iff]

/-- The sums over the workers. -/
theorem sum_completed (h : (ofRun config jobs).follow moves = some s) :
    ((List.range config.workerCount).map fun w => s.metrics.count (.completed (some w))).sum =
      s.counters.received := by
  rw [(ledger_of_reachable ⟨moves, h⟩).received_eq]
  simp only [count_completed h]
  refine sum_countP_eq_length Packet.worker fun p hp => ?_
  obtain ⟨w, hw, ⟨job, -, -, hpacket⟩, -⟩ := returned_of_result h hp
  exact ⟨w, hw, by rw [hpacket]⟩

theorem worker_lt_of_taking (h : (ofRun config jobs).follow moves = some s) {x : Taking}
    (hx : x ∈ (ofRun config jobs).takings moves) : x.worker < config.workerCount := by
  have hworker := (ascribed_of_follow h).workers x hx
  rwa [ids_of_reachable ⟨moves, h⟩, List.mem_range] at hworker

theorem sum_abandoned (h : (ofRun config jobs).follow moves = some s) :
    ((List.range config.workerCount).map fun w =>
      s.metrics.count (.timedOut w) + s.metrics.count (.panicked w)).sum = s.counters.abandoned := by
  have hboth : ∀ w, s.metrics.count (.timedOut w) + s.metrics.count (.panicked w) =
      ((ofRun config jobs).abandonings moves).countP fun x => some x.worker = some w := by
    intro w
    have htimedOut := count_abandoned h .deadline w
    have hpanicked := count_abandoned h .panic w
    simp only [Cause.metric] at htimedOut hpanicked
    rw [htimedOut, hpanicked, countP_causes]
    simp
  rw [(ledger_of_reachable ⟨moves, h⟩).abandoned, abandonedTasks_eq h, List.length_map]
  simp only [hboth]
  refine sum_countP_eq_length (fun x : Abandoning => some x.worker) fun x hx => ⟨x.worker, ?_, rfl⟩
  exact worker_lt_of_taking h (abandonings_explained h x hx).1

/-- A task was given up for one cause. -/
theorem cause_unique (h : (ofRun config jobs).follow moves = some s) {task : Nat}
    (htask : task ∈ s.abandonedTasks) {this that : Cause}
    (hthis : this.happening task ∈ (ofRun config jobs).happenings moves)
    (hthat : that.happening task ∈ (ofRun config jobs).happenings moves) : this = that := by
  have hone := givenUp_xor (ledger_of_reachable ⟨moves, h⟩) (accounted_of_follow h) htask
  rw [xor_iff_iff_not] at hone
  cases this <;> cases that
  · rfl
  · exact absurd hthat (hone.mp hthis)
  · exact absurd hthis (hone.mp hthat)
  · rfl

/-- What a worker counts by a cause are the tasks that it took and gave up for that cause. -/
theorem countP_abandonings (h : (ofRun config jobs).follow moves = some s) (cause : Cause) (w : Nat) :
    ((ofRun config jobs).abandonings moves).countP (fun x => x.worker = w ∧ x.cause = cause) =
      s.abandonedTasks.countP fun i => cause.happening i ∈ (ofRun config jobs).happenings moves ∧
        ⟨w, i⟩ ∈ (ofRun config jobs).takings moves := by
  rw [abandonedTasks_eq h, List.countP_map]
  refine List.countP_congr fun x hx => ?_
  obtain ⟨htaken, hgiven⟩ := abandonings_explained h x hx
  have htask : x.task ∈ s.abandonedTasks := by
    rw [abandonedTasks_eq h]
    exact List.mem_map_of_mem hx
  simp only [Function.comp_apply, decide_eq_true_eq]
  constructor
  · rintro ⟨rfl, rfl⟩
    exact ⟨hgiven, htaken⟩
  · rintro ⟨hcause, hworker⟩
    exact ⟨(ascribed_of_follow h).taker_unique ⟨moves, h⟩ htaken hworker,
      cause_unique h htask hgiven hcause⟩

/-- The metrics of a run that made these moves tell the same story as its counters. -/
structure MetricsAgree (config : PipelineConfig) (jobs : List Job) (moves : List Move)
    (s : Pipeline) : Prop where
  dispatched : s.metrics.count .dispatched = s.counters.dispatched ∧
    s.counters.dispatched = s.counters.sent + s.counters.abandoned
  completed : ∀ w, s.metrics.count (.completed (some w)) =
    s.collector.results.countP (·.worker = some w)
  received : ((List.range config.workerCount).map fun w =>
      s.metrics.count (.completed (some w))).sum = s.counters.received ∧
    s.counters.received = s.collector.results.length
  /-- What a worker counts by a cause are the tasks that it took and gave up for that cause. -/
  givenUp : ∀ (cause : Cause) (w : Nat), s.metrics.count (cause.metric w) =
    s.abandonedTasks.countP fun i => cause.happening i ∈ (ofRun config jobs).happenings moves ∧
      ⟨w, i⟩ ∈ (ofRun config jobs).takings moves
  abandoned : ((List.range config.workerCount).map fun w =>
      s.metrics.count (.timedOut w) + s.metrics.count (.panicked w)).sum = s.counters.abandoned ∧
    s.counters.abandoned = s.abandonedTasks.length ∧ s.abandonedTasks.Nodup
  /-- One worker took an abandoned task, and it gave the task up for one cause. -/
  once : ∀ i ∈ s.abandonedTasks,
    (∃ w < config.workerCount, ∀ v, ⟨v, i⟩ ∈ (ofRun config jobs).takings moves ↔ v = w) ∧
    Xor (.expired i ∈ (ofRun config jobs).happenings moves)
      (.heardPanic i ∈ (ofRun config jobs).happenings moves)
  deadline : ∀ i, .expired i ∈ (ofRun config jobs).happenings moves →
    DeadlineFired config jobs moves i
  panic : ∀ i, .heardPanic i ∈ (ofRun config jobs).happenings moves →
    .panicked i ∈ (ofRun config jobs).happenings moves ∧
    ∃ job, jobs[i]? = some job ∧ job.work.panics = true
  /-- A run that reports has counted every task that was given up. -/
  reported : ∀ report, s.runReport? = some report →
    report.counters = s.counters ∧ report.packets = s.collector.results ∧
    ∀ i, i ∈ s.abandonedTasks ↔ .expired i ∈ (ofRun config jobs).happenings moves ∨
      .heardPanic i ∈ (ofRun config jobs).happenings moves

/-- In every state of every run, and so in the one that it reports, the dispatches counted by the
metrics are those counted by the counters, the completions of a worker are the results that it stamped
and all of them together are the results received, and what the workers count as timed out or panicked
is what the counters have as abandoned: each abandoned task once, by the cause for which the one worker
that took it gave it up. -/
theorem metrics_agree_with_counters (h : (ofRun config jobs).follow moves = some s) :
    MetricsAgree config jobs moves s := by
  have hreach : Reachable config jobs s := ⟨moves, h⟩
  have hledger := ledger_of_reachable hreach
  have haccounted := accounted_of_follow h
  have hexplained := explained_of_follow h
  refine
    { dispatched := ⟨count_dispatched h, rfl⟩
      completed := fun w => count_completed h (some w)
      received := ⟨sum_completed h, hledger.received_eq⟩
      givenUp := fun cause w => (count_abandoned h cause w).trans (countP_abandonings h cause w)
      abandoned := ⟨sum_abandoned h, hledger.abandoned, hledger.nodup .abandoned⟩
      once := ?_
      deadline := fun i hi => deadlineFired_of_mem h hi
      panic := fun i hi => ⟨hexplained.heard i hi, hexplained.works i (hexplained.heard i hi)⟩
      reported := ?_ }
  · intro i hi
    refine ⟨?_, givenUp_xor hledger haccounted hi⟩
    rw [abandonedTasks_eq h] at hi
    obtain ⟨x, hx, rfl⟩ := List.mem_map.mp hi
    have htaken := (abandonings_explained h x hx).1
    refine ⟨x.worker, worker_lt_of_taking h htaken, fun v => ⟨fun hv => ?_, fun hv => hv ▸ htaken⟩⟩
    exact (ascribed_of_follow h).taker_unique hreach hv htaken
  · intro report hreport
    obtain ⟨-, hpackets, hcounters⟩ := runReport?_eq_some hreport
    refine ⟨hcounters, hpackets, fun i => ⟨fun hi => givenUp_of_mem haccounted (.inl hi), fun hi => ?_⟩⟩
    rcases (count_of_givenUp hledger haccounted hi).2 with hone | ⟨-, k, w, hworker, hpoint⟩
    · exact List.count_pos_iff.mp (by omega)
    · -- A run that reports has no worker that is about to count anything.
      have hover := workers_over_of_done hreach (done_of_report (by rw [hreport]; rfl)) w
        (List.mem_of_getElem? hworker)
      rcases hpoint with hpoint | hpoint <;> rw [hpoint] at hover <;> cases hover

/-- The first task outlasts its deadline, the second panics and the third arrives. -/
theorem metrics_agree_with_counters_of_three : ∃ moves s,
    (ofRun { workerCount := 2 } [⟨.hanging, 0⟩, ⟨.panicking, 0⟩, ⟨.instant, 0⟩]).follow moves = some s ∧
    s.abandonedTasks = [1, 0] ∧ s.collector.results = [⟨2, some 1, ⟨.instant, 1⟩⟩] ∧
    s.metrics = [.dispatched, .dispatched, .panicked 1, .dispatched, .completed (some 1), .timedOut 0] ∧
    MetricsAgree { workerCount := 2 } [⟨.hanging, 0⟩, ⟨.panicking, 0⟩, ⟨.instant, 0⟩] moves s := by
  let handOff := List.replicate 4 (Move.act .dispatcher)
  let moves := handOff ++ [.act (.worker 0)] ++ handOff ++ [.act (.worker 1), .act (.execution 1),
    .act (.worker 1), .act (.worker 1)] ++ handOff ++ [.act (.worker 1), .act (.execution 2),
    .act (.worker 1), .act (.worker 1), .act .collector, .act .collector, .act .collector,
    .advance 15, .act (.worker 0), .act (.worker 0)]
  have hrun : ∃ s, (ofRun { workerCount := 2 }
        [⟨.hanging, 0⟩, ⟨.panicking, 0⟩, ⟨.instant, 0⟩]).follow moves = some s ∧
      s.abandonedTasks = [1, 0] ∧ s.collector.results = [⟨2, some 1, ⟨.instant, 1⟩⟩] ∧
      s.metrics =
        [.dispatched, .dispatched, .panicked 1, .dispatched, .completed (some 1), .timedOut 0] :=
    ⟨_, rfl, rfl, rfl, rfl⟩
  obtain ⟨s, hfollow, htasks, hresults, hmetrics⟩ := hrun
  exact ⟨moves, s, hfollow, htasks, hresults, hmetrics, metrics_agree_with_counters hfollow⟩

end Pipeline

end Fanout
