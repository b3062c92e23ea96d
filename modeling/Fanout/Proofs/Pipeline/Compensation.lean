import Fanout.Proofs.Pipeline.Late
import Fanout.Proofs.Pipeline.Reports

/-!
What becomes of the tasks that workers stop waiting for. A task that its worker gave up, because its
deadline came or its work panicked, is taken back out of the counters once; a task whose worker left
is not (`Accounted`). Neither of them ever arrives, and the end of a late work changes nothing for
anybody (`late_results_do_not_interfere`).
-/

namespace Fanout

/-- The task that a worker gives up by this happening. -/
def Happening.givenUp? : Happening → Option Nat
  | .expired task | .heardPanic task => some task
  | _ => none

/-- The task that a worker has given up and not counted yet. -/
def WorkerPoint.givingUp : WorkerPoint → List Nat
  | .timedOut task | .panicked task => [task]
  | _ => []

attribute [simp] WorkerPoint.givingUp.eq_1 WorkerPoint.givingUp.eq_2 WorkerPoint.givingUp.eq_3

@[simp] theorem WorkerPoint.givingUp_afterDropping (lost : List (Packet Job)) :
    (WorkerPoint.afterDropping lost).givingUp = [] :=
  apply_afterDropping givingUp rfl (fun _ => rfl) lost

theorem WorkerPoint.mem_givingUp {point : WorkerPoint} {task : Nat} :
    task ∈ point.givingUp ↔ point = .timedOut task ∨ point = .panicked task := by
  cases point <;> simp [eq_comm]

theorem WorkerPoint.givingUp_subset_held (point : WorkerPoint) : point.givingUp ⊆ point.held := by
  intro task h
  rcases mem_givingUp.mp h with rfl | rfl <;> exact h

namespace Pipeline

/-- The tasks that workers have given up and not counted yet. -/
def givingUp (s : Pipeline) : List Nat :=
  s.workers.flatMap (·.point.givingUp)

/-- The tasks given up in the history are those counted as such and those about to be, and a task
whose worker left was dropped. -/
structure Accounted (past : List Happening) (s : Pipeline) : Prop where
  givenUp : ∀ f, weigh f (past.filterMap Happening.givenUp?) =
    weigh f s.abandonedTasks + weigh f s.givingUp
  left : ∀ task, .left task ∈ past → task ∈ s.discarded

variable {s t : Pipeline} {past : List Happening} {config : PipelineConfig} {jobs : List Job}

/-! ### One step -/

/-- Dropped tasks stay dropped. -/
theorem MoveStep.discarded_grows (h : MoveStep s t) : s.discarded <+: t.discarded := by
  cases h with
  | dispatcher h =>
      cases h <;> simp [endDispatcher]
  | worker k w hworker h =>
      cases h <;> simp [endWorker, crashWorker, beginWork]
  | collector h =>
      cases h with
      | reached seen | continued seen =>
          obtain ⟨log, heq, -⟩ := stopWhenEnough_eq seen s
          simp [heq]
      | _ => simp [accept, endCollector]
  | supervisor h =>
      obtain ⟨supervisor, exits, metrics, log, rfl, -, -⟩ := supervisorStep_frame h
      exact List.prefix_refl _
  | execution ticket h => cases h <;> exact List.prefix_refl _
  | advanced | released => exact List.prefix_refl _

theorem MoveStep.discarded_subset (h : MoveStep s t) : s.discarded ⊆ t.discarded :=
  h.discarded_grows.subset

/-- A worker counts what it has given up. -/
theorem WorkerStep.abandonedTasks_eq {k : Nat} {w : Worker} (h : WorkerStep s k w t) :
    t.abandonedTasks = s.abandonedTasks ++ w.point.givingUp := by
  cases h <;> simp [abandonedTasks, endWorker, crashWorker, beginWork, Event.abandonedTask?,
    List.filterMap_cons, *]

/-- A worker gives up what its history says. -/
theorem WorkerStep.givingUp_eq {k : Nat} {w : Worker} (h : WorkerStep s k w t) :
    ∃ point, t.workers = s.workers.set k { w with point } ∧
      point.givingUp =
        (w.point.happening? s.signal.isShutdown).toList.filterMap Happening.givenUp? := by
  cases h <;> refine ⟨_, rfl, ?_⟩ <;>
    simp [WorkerPoint.happening?, Happening.givenUp?, List.filterMap_cons, *]

theorem WorkerStep.givenUp {k : Nat} {w : Worker} (f : Nat → Nat) (hworker : s.workers[k]? = some w)
    (h : WorkerStep s k w t) :
    weigh f ((w.point.happening? s.signal.isShutdown).toList.filterMap Happening.givenUp?) +
      (weigh f s.abandonedTasks + weigh f s.givingUp) =
    weigh f t.abandonedTasks + weigh f t.givingUp := by
  obtain ⟨point, hworkers, hgivingUp⟩ := h.givingUp_eq
  have hmove := weigh_flatMap_set f WorkerPoint.givingUp hworker point
  rw [← hworkers, hgivingUp] at hmove
  rw [h.abandonedTasks_eq, weigh_append, givingUp, givingUp]
  omega

/-- A worker that leaves a work drops its task. -/
theorem WorkerStep.left_discarded {k task : Nat} {w : Worker} (h : WorkerStep s k w t)
    (hleft : w.point.happening? s.signal.isShutdown = some (.left task)) : task ∈ t.discarded := by
  rcases h.happening_cases hleft with ⟨_, _, _, -, -, heq⟩ | ⟨_, _, _, -, heq⟩ | ⟨_, hdropped, heq⟩
  · cases heq
  · cases heq
  · cases heq
    exact hdropped

/-- The end of a work gives no task up. -/
theorem ending?_cases (ticket : Nat) (s : Pipeline) :
    (s.ending? ticket).toList.filterMap Happening.givenUp? = [] ∧
      ∀ task, s.ending? ticket ≠ some (.left task) := by
  unfold ending? Execution.happening
  split
  · cases s.executions.find? (·.ticket == ticket) with
    | none => exact ⟨rfl, fun task h => by cases h⟩
    | some e =>
        dsimp only [Option.map_some]
        split <;> exact ⟨rfl, fun task h => by cases h⟩
  · exact ⟨rfl, fun task h => by cases h⟩

/-! ### Runs -/

/-- Nothing is given up. -/
theorem Accounted.of_frame (hs : Accounted past s) {now : Option Happening}
    (hnow : now.toList.filterMap Happening.givenUp? = [] ∧ ∀ task, now ≠ some (.left task))
    (htasks : t.abandonedTasks = s.abandonedTasks)
    (hgivingUp : ∀ f, weigh f t.givingUp = weigh f s.givingUp)
    (hdiscarded : s.discarded ⊆ t.discarded) : Accounted (past ++ now.toList) t where
  givenUp f := by
    rw [List.filterMap_append, hnow.1, List.append_nil, htasks, hgivingUp]
    exact hs.givenUp f
  left task h := by
    rcases List.mem_append.mp h with hold | hnew
    · exact hdiscarded (hs.left task hold)
    · exact absurd (Option.mem_toList.mp hnew) (hnow.2 task)

theorem Accounted.workerStep {k : Nat} {w : Worker} (hs : Accounted past s)
    (hworker : s.workers[k]? = some w) (h : WorkerStep s k w t) :
    Accounted (past ++ (w.point.happening? s.signal.isShutdown).toList) t where
  givenUp f := by
    have hnow := h.givenUp f hworker
    have hbefore := hs.givenUp f
    rw [List.filterMap_append, weigh_append]
    omega
  left task hleft := by
    rcases List.mem_append.mp hleft with hold | hnew
    · exact (MoveStep.worker k w hworker h).discarded_subset (hs.left task hold)
    · exact h.left_discarded (Option.mem_toList.mp hnew)

theorem Accounted.executionStep {ticket : Nat} (hs : Accounted past s)
    (h : ExecutionStep s ticket t) : Accounted (past ++ (s.ending? ticket).toList) t := by
  have hdiscarded := (MoveStep.execution ticket h).discarded_subset
  refine hs.of_frame (ending?_cases ticket s) h.abandonedTasks ?_ hdiscarded
  intro f
  cases h with
  | delivered e k w task startedAt hfind hend hworker hpoint =>
      have hmove := weigh_flatMap_set f WorkerPoint.givingUp hworker
        (.executing ticket task startedAt (outcomeOf e))
      rw [hpoint] at hmove
      simpa [givingUp] using hmove
  | late => rfl

theorem accounted_of_follow {moves : List Move} (h : (ofRun config jobs).follow moves = some s) :
    Accounted ((ofRun config jobs).happenings moves) s := by
  refine traced_induction h ⟨?_, ?_⟩ ?_
  · intro f
    have hgivingUp : (ofRun config jobs).givingUp = [] := by
      refine List.flatMap_eq_nil_iff.mpr fun w hw => ?_
      obtain ⟨id, -, rfl⟩ := List.mem_map.mp hw
      rfl
    rw [hgivingUp]
    rfl
  · intro task htask
    cases htask
  · intro past s now t _ ih hmove
    have hnothing : (none : Option Happening).toList.filterMap Happening.givenUp? = [] ∧
        ∀ task, (none : Option Happening) ≠ some (.left task) := ⟨rfl, fun task h => by cases h⟩
    cases hmove with
    | dispatcher h =>
        have hdiscarded := (MoveStep.dispatcher h).discarded_subset
        refine ih.of_frame hnothing h.frame.abandonedTasks ?_ hdiscarded
        intro f
        rw [givingUp, h.frame.workers, givingUp]
    | worker k w hworker h => exact ih.workerStep hworker h
    | collector h =>
        have hdiscarded := (MoveStep.collector h).discarded_subset
        refine ih.of_frame hnothing h.frame.abandonedTasks ?_ hdiscarded
        intro f
        rw [givingUp, h.frame.workers, givingUp]
    | supervisor h =>
        obtain ⟨supervisor, exits, metrics, log, rfl, -, htasks⟩ := supervisorStep_frame h
        exact ih.of_frame hnothing htasks (fun _ => rfl) (List.Subset.refl _)
    | execution ticket h => exact ih.executionStep h
    | advanced | released => exact ih.of_frame hnothing rfl (fun _ => rfl) (List.Subset.refl _)

/-! ### The fate of a task that is not awaited -/

/-- A task that is given up and not counted yet is with the worker that gave it up. -/
theorem exists_of_mem_givingUp {task : Nat} (h : task ∈ s.givingUp) :
    ∃ (k : Nat) (w : Worker), s.workers[k]? = some w ∧
      (w.point = .timedOut task ∨ w.point = .panicked task) ∧ task ∈ s.tasksAt (.worker k) := by
  obtain ⟨w, hw, hgiving⟩ := List.mem_flatMap.mp h
  obtain ⟨k, hworker⟩ := List.mem_iff_getElem?.mp hw
  refine ⟨k, w, hworker, WorkerPoint.mem_givingUp.mp hgiving, ?_⟩
  rw [tasksAt, hworker]
  exact w.point.givingUp_subset_held hgiving

/-- A task that its worker gave up is counted as such, or its worker is about to count it; it is
nowhere else. -/
theorem count_of_givenUp {task : Nat} (hledger : Ledger jobs.length s) (hs : Accounted past s)
    (h : .expired task ∈ past ∨ .heardPanic task ∈ past) :
    task ∉ s.collected ∧
      (s.abandonedTasks.count task = 1 ∨ s.abandonedTasks.count task = 0 ∧
        ∃ (k : Nat) (w : Worker), s.workers[k]? = some w ∧
          (w.point = .timedOut task ∨ w.point = .panicked task)) := by
  have hmem : task ∈ past.filterMap Happening.givenUp? := by
    rcases h with hexpired | hpanic
    · exact List.mem_filterMap.mpr ⟨_, hexpired, rfl⟩
    · exact List.mem_filterMap.mpr ⟨_, hpanic, rfl⟩
  have hcount := hs.givenUp fun j => if j = task then 1 else 0
  rw [weigh_indicator, weigh_indicator, weigh_indicator] at hcount
  have hpos : 0 < s.abandonedTasks.count task + s.givingUp.count task :=
    hcount ▸ List.count_pos_iff.mpr hmem
  by_cases habandoned : task ∈ s.abandonedTasks
  · refine ⟨?_, .inl (List.count_eq_one_of_mem (hledger.nodup .abandoned) habandoned)⟩
    intro hcollected
    cases hledger.apart .abandoned .results habandoned hcollected
  · have hzero := List.count_eq_zero.mpr habandoned
    rw [hzero, Nat.zero_add] at hpos
    obtain ⟨k, w, hworker, hpoint, hheld⟩ := exists_of_mem_givingUp (List.count_pos_iff.mp hpos)
    refine ⟨?_, .inr ⟨hzero, k, w, hworker, hpoint⟩⟩
    intro hcollected
    cases hledger.apart (.worker k) .results hheld hcollected

/-- What was given up was given up for a deadline or a panic. -/
theorem givenUp_of_mem {task : Nat} (hs : Accounted past s)
    (h : task ∈ s.abandonedTasks ∨ task ∈ s.givingUp) :
    .expired task ∈ past ∨ .heardPanic task ∈ past := by
  have hcount := hs.givenUp fun j => if j = task then 1 else 0
  rw [weigh_indicator, weigh_indicator, weigh_indicator] at hcount
  have hpos : 0 < (past.filterMap Happening.givenUp?).count task := by
    rw [hcount]
    rcases h with habandoned | hgiving
    · exact Nat.add_pos_left (List.count_pos_iff.mpr habandoned) _
    · exact Nat.add_pos_right _ (List.count_pos_iff.mpr hgiving)
  obtain ⟨x, hx, hgivenUp⟩ := List.mem_filterMap.mp (List.count_pos_iff.mp hpos)
  cases x <;> cases hgivenUp
  · exact .inl hx
  · exact .inr hx

/-! ### The end of a run -/

theorem WorkerStep.isOver {k : Nat} {w : Worker} (h : WorkerStep s k w t) :
    w.point.isOver = false := by
  cases h <;> simp [*]

/-- The caller returns when all workers have ended. -/
theorem SupervisorStep.done (hwhole : s.supervisor.wholeRun = true) (h : SupervisorStep s t)
    (hdone : t.supervisor.point = .done) : ∀ w ∈ s.workers, w.point.isOver = true := by
  cases h with
  | sawCollector => cases hdone
  | sawDispatcher | sawDispatcherCrash =>
      rw [afterDispatcher_eq] at hdone
      simp [hwhole] at hdone
  | joined k rest hpoint =>
      rw [joinWorker_point, hpoint] at hdone
      cases hdone
  | returned hpoint hexits hworkers => simpa [allWorkersEnded] using hworkers

theorem workers_over_of_done (hs : Reachable config jobs s) :
    s.supervisor.point = .done → ∀ w ∈ s.workers, w.point.isOver = true := by
  refine hs.induction (fun hdone => by cases hdone) fun s m t hreach ih hmove => ?_
  have hwhole : s.supervisor.wholeRun = true := congrArg Plan.wholeRun (plan_of_reachable hreach)
  cases moveStep_of_move hmove with
  | dispatcher h =>
      rw [h.frame.supervisor, h.frame.workers]
      exact ih
  | worker k w hworker h =>
      intro hdone
      rw [h.frame.supervisor] at hdone
      have hover := ih hdone w (List.mem_of_getElem? hworker)
      rw [h.isOver] at hover
      cases hover
  | collector h =>
      rw [h.frame.supervisor, h.frame.workers]
      exact ih
  | supervisor h =>
      have hends := h.done hwhole
      obtain ⟨supervisor, exits, metrics, log, rfl, -, -⟩ := supervisorStep_frame h
      exact hends
  | execution ticket h =>
      cases h with
      | delivered e k w task startedAt hfind hend hworker hpoint =>
          intro hdone
          have hover := ih hdone w (List.mem_of_getElem? hworker)
          rw [hpoint] at hover
          cases hover
      | late => exact ih
  | advanced | released => exact ih

theorem done_of_report (h : (s.runReport?).isSome) : s.supervisor.point = .done := by
  unfold runReport? isOver at h
  split at h
  next hdone => simpa using hdone
  next => cases h

end Pipeline

end Fanout
