import Fanout.Pipeline.Potential
import Fanout.Proofs.Pipeline.Progress

/-!
The stages come to rest. Every step of an actor uses up some of the potential of the run, so that only
so many steps can be taken before the clock moves, and the stages of a run can always go on until it
is settled.
-/

namespace Fanout

@[simp] theorem DispatcherPoint.potential_afterDropping (lost : List (Packet Job)) :
    (DispatcherPoint.afterDropping lost).potential = 0 :=
  apply_afterDropping potential rfl (fun _ => rfl) lost

@[simp] theorem WorkerPoint.potential_afterDropping (lost : List (Packet Job)) :
    (WorkerPoint.afterDropping lost).potential = 0 :=
  apply_afterDropping potential rfl (fun _ => rfl) lost

theorem CollectorPoint.potential_afterDropping (now : Nat) (exit : CollectorExit)
    (lost : List (Packet Job)) : (CollectorPoint.afterDropping exit lost).potential now = 0 :=
  apply_afterDropping (potential now) rfl (fun _ => rfl) lost

attribute [simp] handoffPotential outboundPotential DispatcherPoint.potential.eq_1
  DispatcherPoint.potential.eq_2 DispatcherPoint.potential.eq_3 DispatcherPoint.potential.eq_4
  DispatcherPoint.potential.eq_5 DispatcherPoint.potential.eq_6 WorkerPoint.potential.eq_1
  WorkerPoint.potential.eq_2 WorkerPoint.potential.eq_3 WorkerPoint.potential.eq_4
  WorkerPoint.potential.eq_5 WorkerPoint.potential.eq_6 WorkerPoint.potential.eq_7

namespace Pipeline

variable {s t : Pipeline}

/-- A tick that was due is not due again at once. -/
theorem ticksAhead_tickAfter {c : Collector} {due now : Nat} (htick : 0 < c.tickIntervalMs)
    (hdue : due ≤ now) : ticksAhead (c.tickAfter due now) now < ticksAhead due now := by
  unfold ticksAhead Collector.tickAfter
  split_ifs <;> omega

/-- The potential of the workers. -/
def workerPotential (s : Pipeline) : Nat :=
  s.workers.foldr (·.point.potential + ·) 0

theorem workerPotential_set {k : Nat} {w : Worker} (hworker : s.workers[k]? = some w)
    (point : WorkerPoint) (ht : t.workers = s.workers.set k { w with point }) :
    t.workerPotential + w.point.potential = s.workerPotential + point.potential := by
  have hperm := set_worker_perm hworker { w with point }
  have hfold := hperm.foldr_eq' (f := fun v n => v.point.potential + n)
    (fun _ _ _ _ _ => Nat.add_left_comm _ _ _) 0
  simp only [List.foldr_cons] at hfold
  rw [workerPotential, ht, workerPotential]
  omega

theorem DispatcherStep.potential_lt (h : DispatcherStep s t) : t.potential < s.potential := by
  cases h with
  | committed p hpoint =>
      by_cases hreceivers : s.handoff.receivers = 0
      · simp [potential, Dispatcher.potential, Channel.push_buffer, hpoint, hreceivers]
      · simp [potential, Dispatcher.potential, Channel.push_buffer, hpoint, hreceivers]
        omega
  | _ =>
      simp [potential, Dispatcher.potential, endDispatcher, *]
      try omega

theorem WorkerStep.potential_lt {k : Nat} {w : Worker} (hworker : s.workers[k]? = some w)
    (h : WorkerStep s k w t) : t.potential < s.potential := by
  have hlost := Channel.length_dropReceiver_le s.handoff
  have hmoves := workerPotential_set (t := t) hworker
  unfold workerPotential at hmoves
  cases h with
  | took p rest hpoint hsignal hbuffer =>
      have hmove := hmoves _ rfl
      simp [potential, beginWork, hpoint, hbuffer] at hmove ⊢
      omega
  | heardReturn _ _ _ _ hpoint | heardPanic _ _ _ hpoint | expired _ _ _ hpoint
  | countedTimeout _ hpoint | countedPanic _ hpoint =>
      have hmove := hmoves _ rfl
      simp [potential, hpoint] at hmove ⊢
      omega
  | forwarded p hpoint hsignal hreceivers =>
      have hmove := hmoves _ rfl
      simp [potential, Channel.push_buffer, hreceivers, hpoint] at hmove ⊢
      omega
  | dismissed hpoint | drained hpoint | left _ _ _ _ hpoint | leftCrashing _ _ _ _ _ hpoint
  | dropped _ hpoint | droppedCrashing _ _ hpoint | unheard _ hpoint | unheardCrashing _ _ hpoint =>
      have hmove := hmoves _ rfl
      simp [potential, endWorker, crashWorker, -Channel.dropReceiver, hpoint] at hmove ⊢
      omega

theorem CollectorStep.potential_lt (htick : 0 < s.collector.tickIntervalMs)
    (h : CollectorStep s t) : t.potential < s.potential := by
  cases h with
  | began hpoint => simp [potential, hpoint, CollectorPoint.potential, ticksAhead]
  | took p rest nextTick hpoint hsignal hbuffer =>
      simp [potential, hpoint, hbuffer, CollectorPoint.potential]
      omega
  | ticked nextTick hpoint hsignal hbuffer hsenders hdue =>
      have hlt := ticksAhead_tickAfter htick hdue
      simp [potential, hpoint, CollectorPoint.potential]
      omega
  | reached seen nextTick hpoint | continued seen nextTick hpoint =>
      obtain ⟨log, heq, -⟩ := stopWhenEnough_eq seen s
      simp [potential, heq, hpoint, CollectorPoint.potential]
  | reported exit hpoint =>
      have hlost := Channel.length_dropReceiver_le s.outbound
      have hover := CollectorPoint.potential_afterDropping s.now exit s.outbound.lostWithReceiver
      have hpotential : (CollectorPoint.reporting exit).potential s.now = 1 := rfl
      simp only [potential, endCollector, setCollector, record, outboundPotential, hpoint, hover,
        hpotential]
      omega
  | _ => simp [potential, accept, CollectorPoint.potential, *]

theorem SupervisorStep.potential_lt (h : SupervisorStep s t) : t.potential < s.potential := by
  cases h with
  | sawCollector exit hpoint => simp [potential, hpoint, SupervisorPoint.potential]
  | sawDispatcher hpoint =>
      rw [afterDispatcher_eq]
      cases hwhole : s.supervisor.wholeRun <;>
        simp [potential, hpoint, SupervisorPoint.potential]
  | sawDispatcherCrash message hpoint =>
      rw [afterDispatcher_eq]
      cases hwhole : s.supervisor.wholeRun <;>
        simp [potential, hpoint, hwhole, SupervisorPoint.potential]
  | joined k rest hpoint hexits =>
      unfold joinWorker
      split <;> simp [potential, hexits]
  | returned hpoint hexits hworkers =>
      unfold endSupervisor
      dsimp only
      split
      · split <;> simp [potential, hpoint, SupervisorPoint.potential]
      · simp [potential, hpoint, SupervisorPoint.potential]

theorem ExecutionStep.potential_lt {ticket : Nat} (h : ExecutionStep s ticket t) :
    t.potential < s.potential := by
  have herase : ∀ e, s.executions.find? (·.ticket == ticket) = some e →
      (s.executions.eraseP (·.ticket == ticket)).length + 1 = s.executions.length := by
    intro e hfind
    have hmem := List.mem_of_find?_eq_some hfind
    have hpos := List.length_pos_of_mem hmem
    rw [List.length_eraseP_of_mem hmem (List.find?_some hfind)]
    omega
  cases h with
  | delivered e k w task startedAt hfind hend hworker hpoint =>
      have hlength := herase e hfind
      have hmove := workerPotential_set (t := s.setWorker k w
        (.executing ticket task startedAt (outcomeOf e))) hworker _ rfl
      unfold workerPotential at hmove
      simp [potential, hpoint] at hmove ⊢
      omega
  | late e hfind =>
      have hlength := herase e hfind
      simp only [potential]
      omega

theorem potential_lt_of_step {a : Actor} (htick : 0 < s.collector.tickIntervalMs)
    (h : s.step a = some t) : t.potential < s.potential := by
  cases a with
  | dispatcher => exact (dispatcherStep_of_step h).potential_lt
  | worker k =>
      obtain ⟨w, hworker, hstep⟩ := workerStep_of_step h
      exact hstep.potential_lt hworker
  | collector => exact (collectorStep_of_step h).potential_lt htick
  | supervisor => exact (supervisorStep_of_step h).potential_lt
  | execution ticket => exact (executionStep_of_step h).potential_lt

/-- No stage can go on, and the caller cannot either. -/
def IsQuiet (s : Pipeline) : Prop :=
  IsSettled s ∧ s.step .supervisor = none

/-- The stages and the caller can always go on until the run is quiet. -/
theorem exists_quiet (htick : 0 < s.collector.tickIntervalMs) :
    ∃ actors : List Actor, (∀ a ∈ actors, IsStage a ∨ a = .supervisor) ∧
      ∃ t, s.follow (actors.map .act) = some t ∧ IsQuiet t := by
  induction hbound : s.potential using Nat.strongRecOn generalizing s with
  | _ bound ih =>
      by_cases hquiet : ∀ a, IsStage a ∨ a = .supervisor → s.step a = none
      · exact ⟨[], by simp, s, rfl, fun a ha => hquiet a (.inl ha), hquiet _ (.inr rfl)⟩
      · push Not at hquiet
        obtain ⟨a, ha, henabled⟩ := hquiet
        obtain ⟨u, hu⟩ := Option.ne_none_iff_exists'.mp henabled
        have hlt := potential_lt_of_step htick hu
        have hplan : u.collector.tickIntervalMs = s.collector.tickIntervalMs :=
          congrArg Plan.tickIntervalMs (plan_of_move (m := .act a) hu)
        obtain ⟨actors, hactors, t, ht, hend⟩ := ih _ (hbound ▸ hlt) (hplan ▸ htick) rfl
        refine ⟨a :: actors, ?_, t, ?_, hend⟩
        · intro b hb
          rcases List.mem_cons.mp hb with rfl | hb
          · exact ha
          · exact hactors b hb
        · rw [List.map_cons, follow, Pipeline.move, hu]
          exact ht

variable {config : PipelineConfig} {jobs : List Job}

/-- The collection cannot hang. A settled run in which the collector still looks for results has a
worker whose deadline is ahead by at most the time limit; as many rounds as there are tasks end the
collection; and the stages can always go on until the run is settled. -/
theorem collection_cannot_hang (hvalid : config.defect? = none) (hs : Reachable config jobs s) :
    (IsSettled s → s.collector.point.isCollecting = true →
      ∃ w ∈ s.workers, ∃ ticket task startedAt,
        w.point = .executing ticket task startedAt .running ∧
        s.now < startedAt + config.taskTimeoutMs ∧
        startedAt + config.taskTimeoutMs ≤ s.now + config.taskTimeoutMs) ∧
    (IsSettled s → ∀ n t, jobs.length ≤ n → Rounds n s t →
      t.collector.point.isCollecting = false) ∧
    ∃ actors : List Actor, (∀ a ∈ actors, IsStage a ∨ a = .supervisor) ∧
      ∃ t, s.follow (actors.map .act) = some t ∧ IsSettled t := by
  refine ⟨?_, ?_, ?_⟩
  · intro hsettled hcollecting
    obtain ⟨w, hw, ticket, task, startedAt, hpoint, hdeadline, hbegun⟩ :=
      exists_running_of_settled hs hvalid hsettled hcollecting
    exact ⟨w, hw, ticket, task, startedAt, hpoint, hdeadline, Nat.add_le_add_right hbegun _⟩
  · intro hsettled n t hn hrounds
    by_contra hleft
    have hcollecting : t.collector.point.isCollecting = true := by simpa using hleft
    have hlt := rounds_lt_nextTicket hs hvalid hsettled hrounds hcollecting
    have hle := nextTicket_le (hs.rounds hrounds)
    omega
  · obtain ⟨-, -, htick, -⟩ := defect?_eq_none hvalid
    have hplan : s.collector.tickIntervalMs = config.tickIntervalMs :=
      congrArg Plan.tickIntervalMs (plan_of_reachable hs)
    obtain ⟨actors, hactors, t, ht, hquiet⟩ :=
      exists_quiet (s := s) (hplan ▸ Nat.pos_of_ne_zero htick)
    exact ⟨actors, hactors, t, ht, hquiet.1⟩

/-- A work that never returns holds the collection up for one round. -/
theorem collection_cannot_hang_on_one : ∃ s t,
    Reachable { workerCount := 1 } [⟨.hanging, 0⟩] s ∧ IsSettled s ∧
    s.collector.point.isCollecting = true ∧ Rounds 1 s t ∧
    (∃ w ∈ s.workers, ∃ ticket task startedAt, w.point = .executing ticket task startedAt .running ∧
      s.now < startedAt + 15 ∧ startedAt + 15 ≤ s.now + 15) ∧
    t.collector.point.isCollecting = false := by
  let first := List.replicate 5 (Move.act .dispatcher) ++ [.act (.worker 0)] ++
    List.replicate 3 (.act .collector)
  let second := List.replicate 3 (Move.act (.worker 0)) ++ List.replicate 3 (.act .collector)
  have hrun : ∃ s t, (ofRun { workerCount := 1 } [⟨.hanging, 0⟩]).follow first = some s ∧
      IsSettled s ∧ s.collector.point.isCollecting = true ∧
      (s.advance s.taskTimeoutMs).follow second = some t ∧ IsSettled t := by
    refine ⟨_, _, rfl, ?_, rfl, rfl, ?_⟩
    · exact isSettled_iff.mpr rfl
    · exact isSettled_iff.mpr rfl
  obtain ⟨s, t, hfirst, hsettled, hcollecting, hsecond, hend⟩ := hrun
  have hreach : Reachable { workerCount := 1 } [⟨.hanging, 0⟩] s := ⟨first, hfirst⟩
  have hrounds : Rounds 1 s t := .tail (.refl s) ⟨second, hsecond, hend⟩
  have hcannot := collection_cannot_hang rfl hreach
  exact ⟨s, t, hreach, hsettled, hcollecting, hrounds, hcannot.1 hsettled hcollecting,
    hcannot.2.1 hsettled 1 t (Nat.le_refl _) hrounds⟩

end Pipeline

end Fanout
