import Mathlib.Data.List.TakeWhile
import Fanout.Proofs.Pipeline.Scheduled
import Fanout.Proofs.Pipeline.Takings
import Fanout.Proofs.Pipeline.Termination

/-!
Between two moves of the clock a run takes only so many steps. What the stages still have to do with
the tasks never grows, whatever happens (`taskPotential_le`), and each step of an actor uses up
some of it or one of the ticks that are due (`stepsAhead_lt_of_step`). Hence a bound by the number of
tasks, the number of workers and the ticks that are due (`length_le_of_follow`), and the loop that gives
the actors their turns ends when none of them can go on (`quiet_settleWithin`).
-/

namespace Fanout

/-- How many ticks are due, when the first of them is due at `due` and they come with this interval. A
tick that is late by more than five milliseconds begins a new period. -/
def ticksBetween (interval due now : Nat) : Nat :=
  if now < due then 0 else if due + 5 < now then 1 else (now - due) / interval + 1

/-- The ticks that a collector can hear before the clock moves. The first one is due when the
collection begins. -/
def Collector.ticksDue (now : Nat) (c : Collector) : Nat :=
  match c.point with
  | .starting => 1
  | .receiving due | .accepting _ due | .counted _ due | .ticking due =>
    ticksBetween c.tickIntervalMs due now
  | _ => 0

/-- The steps of a collector that hears no tick and takes no packet. -/
def CollectorPoint.stepsAhead : CollectorPoint → Nat
  | .absent | .finished _ | .crashed .. => 0
  | .reporting _ => 1
  | .pausing .. => 2
  | .closing _ => 3
  | .receiving _ => 4
  | .starting | .counted .. | .ticking _ => 5
  | .accepting .. => 6

attribute [simp] Collector.ticksDue CollectorPoint.stepsAhead.eq_1 CollectorPoint.stepsAhead.eq_2
  CollectorPoint.stepsAhead.eq_3 CollectorPoint.stepsAhead.eq_4 CollectorPoint.stepsAhead.eq_5
  CollectorPoint.stepsAhead.eq_6 CollectorPoint.stepsAhead.eq_7 CollectorPoint.stepsAhead.eq_8
  CollectorPoint.stepsAhead.eq_9 CollectorPoint.stepsAhead.eq_10 CollectorPoint.stepsAhead.eq_11

@[simp] theorem CollectorPoint.stepsAhead_afterDropping (exit : CollectorExit)
    (lost : List (Packet Job)) : (CollectorPoint.afterDropping exit lost).stepsAhead = 0 :=
  apply_afterDropping stepsAhead rfl (fun _ => rfl) lost

theorem ticksBetween_le (interval due now : Nat) : ticksBetween interval due now ≤ 6 := by
  have hdiv := Nat.div_le_self (now - due) interval
  unfold ticksBetween
  split_ifs <;> omega

/-- A tick that is heard is one less that is due. -/
theorem ticksBetween_tickAfter {c : Collector} {due now : Nat} (htick : 0 < c.tickIntervalMs)
    (hdue : due ≤ now) :
    ticksBetween c.tickIntervalMs (c.tickAfter due now) now + 1 =
      ticksBetween c.tickIntervalMs due now := by
  have hhere : ¬now < due := Nat.not_lt.mpr hdue
  unfold ticksBetween Collector.tickAfter
  by_cases hlate : due + 5 < now
  · have hnext : now < now + c.tickIntervalMs := by omega
    simp only [if_pos hlate, if_pos hnext, if_neg hhere]
  · have hlater : ¬due + c.tickIntervalMs + 5 < now := by omega
    simp only [if_neg hlate, if_neg hlater, if_neg hhere]
    split
    next hnext => rw [Nat.div_eq_of_lt (by omega)]
    next hnext =>
      have hsplit : now - due = now - (due + c.tickIntervalMs) + c.tickIntervalMs := by omega
      rw [hsplit, Nat.add_div_right _ htick]

namespace Pipeline

variable {s t : Pipeline} {config : PipelineConfig} {jobs : List Job}

/-- The part of the potential that the clock does not touch: everything but the collector's. -/
def taskPotential (s : Pipeline) : Nat :=
  s.dispatcher.potential + handoffPotential * s.handoff.buffer.length + s.workerPotential +
    s.executions.length + outboundPotential * s.outbound.buffer.length + s.exits.length +
    s.supervisor.point.potential

theorem potential_eq (s : Pipeline) :
    s.potential = s.taskPotential + s.collector.point.potential s.now := by
  unfold potential taskPotential workerPotential
  omega

/-- The ticks that the collector can hear before the clock moves. -/
def ticksDue (s : Pipeline) : Nat :=
  s.collector.ticksDue s.now

/-- The steps that are ahead before the clock moves. -/
def stepsAhead (s : Pipeline) : Nat :=
  s.taskPotential + s.collector.point.stepsAhead + 2 * s.ticksDue

/-! ### One step -/

/-- A step of the collector uses up a tick, or a packet, or some of its own way. -/
theorem CollectorStep.stepsAhead_lt (htick : 0 < s.collector.tickIntervalMs)
    (h : CollectorStep s t) :
    t.taskPotential ≤ s.taskPotential ∧ t.stepsAhead < s.stepsAhead := by
  cases h with
  | ticked nextTick hpoint hsignal hbuffer hsenders hdue =>
      have hheard := ticksBetween_tickAfter htick hdue
      simp [stepsAhead, taskPotential, workerPotential, ticksDue, hpoint]
      omega
  | took p rest nextTick hpoint hsignal hbuffer =>
      simp [stepsAhead, taskPotential, workerPotential, ticksDue, hpoint, hbuffer]
      omega
  | began hpoint =>
      simp [stepsAhead, taskPotential, workerPotential, ticksDue, ticksBetween, hpoint]
  | interrupted nextTick hpoint | deserted nextTick hpoint | drained nextTick hpoint =>
      simp [stepsAhead, taskPotential, workerPotential, ticksDue, hpoint]
      omega
  | reached seen nextTick hpoint | continued seen nextTick hpoint =>
      obtain ⟨log, heq, -⟩ := stopWhenEnough_eq seen s
      simp [stepsAhead, taskPotential, workerPotential, ticksDue, hpoint, heq] <;> omega
  | reported exit hpoint =>
      have hlost := Channel.length_dropReceiver_le s.outbound
      have hticks : (s.endCollector exit).ticksDue = 0 :=
        CollectorPoint.apply_afterDropping (fun point => Collector.ticksDue s.now { s.collector with point })
          rfl (fun _ => rfl) _
      simp only [stepsAhead, hticks]
      simp [taskPotential, workerPotential, ticksDue, endCollector, hpoint, -Channel.dropReceiver]
      omega
  | sated hpoint | undrained _ hpoint | accepted _ _ hpoint | closedPausing _ hpoint
  | closed _ hpoint | woke _ _ hpoint =>
      simp [stepsAhead, taskPotential, workerPotential, ticksDue, accept, hpoint]

/-- A step that leaves the collector alone uses up some of what is ahead of the others. -/
theorem taskPotential_lt_of_step {a : Actor} (ha : a ≠ .collector)
    (htick : 0 < s.collector.tickIntervalMs) (h : s.step a = some t) :
    t.taskPotential < s.taskPotential ∧ t.collector = s.collector ∧ t.now = s.now := by
  have hlt := potential_lt_of_step htick h
  have hframe : t.collector = s.collector ∧ t.now = s.now := by
    cases a with
    | dispatcher =>
        have hframe := (dispatcherStep_of_step h).frame
        exact ⟨hframe.collector, hframe.now⟩
    | worker k =>
        obtain ⟨w, -, hstep⟩ := workerStep_of_step h
        exact ⟨hstep.frame.collector, hstep.frame.now⟩
    | collector => exact absurd rfl ha
    | supervisor =>
        obtain ⟨supervisor, exits, metrics, log, rfl, -, -⟩ :=
          supervisorStep_frame (supervisorStep_of_step h)
        exact ⟨rfl, rfl⟩
    | execution ticket => cases executionStep_of_step h <;> exact ⟨rfl, rfl⟩
  rw [potential_eq, potential_eq, hframe.1, hframe.2] at hlt
  exact ⟨by omega, hframe⟩

theorem stepsAhead_lt_of_step {a : Actor} (htick : 0 < s.collector.tickIntervalMs)
    (h : s.step a = some t) : t.taskPotential ≤ s.taskPotential ∧ t.stepsAhead < s.stepsAhead := by
  by_cases ha : a = .collector
  · subst ha
    exact (collectorStep_of_step h).stepsAhead_lt htick
  · obtain ⟨hlt, hcollector, hnow⟩ := taskPotential_lt_of_step ha htick h
    refine ⟨Nat.le_of_lt hlt, ?_⟩
    rw [stepsAhead, ticksDue, hcollector, hnow, stepsAhead, ticksDue]
    omega

/-! ### Runs -/

theorem tickInterval_pos (hvalid : config.defect? = none) (hs : Reachable config jobs s) :
    0 < s.collector.tickIntervalMs := by
  obtain ⟨-, -, htick, -⟩ := defect?_eq_none hvalid
  have hplan : s.collector.tickIntervalMs = config.tickIntervalMs :=
    congrArg Plan.tickIntervalMs (plan_of_reachable hs)
  exact hplan ▸ Nat.pos_of_ne_zero htick

/-- What is ahead of the tasks is most at the start of a run. -/
theorem taskPotential_le (hvalid : config.defect? = none) (hs : Reachable config jobs s) :
    s.taskPotential ≤ 11 * jobs.length + 2 * config.workerCount + 4 := by
  refine hs.induction ?_ fun u m v hreach ih hmove => ?_
  · have hworkers : (ofRun config jobs).workerPotential = 2 * config.workerCount := by
      have hsum : (ofRun config jobs).workerPotential =
          ((ofRun config jobs).workers.map (·.point.potential)).sum := by
        rw [List.sum_eq_foldr, List.foldr_map]
        rfl
      rw [hsum]
      simp [ofRun, Function.comp_def, Nat.mul_comm]
    simp [taskPotential, hworkers]
    simp [ofRun, Dispatcher.potential, SupervisorPoint.potential, Packet.enumerate]
    omega
  · refine Nat.le_trans ?_ ih
    cases m with
    | act a => exact (stepsAhead_lt_of_step (tickInterval_pos hvalid hreach) hmove).1
    | advance | release =>
        cases hmove
        exact Nat.le_refl _

theorem ticksDue_le (s : Pipeline) : s.ticksDue ≤ 6 := by
  have hle (due : Nat) := ticksBetween_le s.collector.tickIntervalMs due s.now
  unfold ticksDue
  cases hpoint : s.collector.point <;> simp [hpoint, hle]

/-- No more steps can be taken than are ahead. -/
theorem length_le_of_follow {actors : List Actor} (htick : 0 < s.collector.tickIntervalMs)
    (h : s.follow (actors.map .act) = some t) : actors.length ≤ s.stepsAhead := by
  induction actors generalizing s with
  | nil => exact Nat.zero_le _
  | cons a rest ih =>
      obtain ⟨u, hu, hrest⟩ := Option.bind_eq_some_iff.mp h
      have hlt := (stepsAhead_lt_of_step htick hu).2
      have hplan : u.collector.tickIntervalMs = s.collector.tickIntervalMs :=
        congrArg Plan.tickIntervalMs (plan_of_move (m := .act a) hu)
      have hle := ih (hplan ▸ htick) hrest
      rw [List.length_cons]
      omega

theorem stepsAhead_le (hvalid : config.defect? = none) (hs : Reachable config jobs s) :
    s.stepsAhead ≤ 11 * jobs.length + 2 * config.workerCount + 2 * s.ticksDue + 10 := by
  have htasks := taskPotential_le hvalid hs
  have hpoint : s.collector.point.stepsAhead ≤ 6 := by
    cases s.collector.point <;> simp [CollectorPoint.stepsAhead]
  unfold stepsAhead
  omega

/-! ### Until none can go on -/

/-- No two works have one ticket. -/
theorem nodup_tickets (hs : Reachable config jobs s) : (s.executions.map (·.ticket)).Nodup := by
  refine hs.induction List.nodup_nil fun u m v hreach ih hmove => ?_
  rcases begins_or_rests_of_move hreach hmove with
    ⟨k, w, p, rest, -, -, -, -, -, -, -, hexecutions⟩ | ⟨-, -, hfewer⟩
  · rw [hexecutions, List.map_append]
    refine List.nodup_append.mpr ⟨ih, List.nodup_singleton _, ?_⟩
    rintro i hi j hj rfl
    obtain ⟨e, he, rfl⟩ := List.mem_map.mp hi
    have hissued := (linked_of_reachable hreach).issued e he
    exact absurd (List.mem_singleton.mp hj) (Nat.ne_of_lt hissued)
  · exact ih.sublist (hfewer.map _)

/-- A work that may end does so when it has its turn. -/
theorem step_nextEnding (hs : Reachable config jobs s) {ticket : Nat}
    (h : Schedule.nextEnding? s = some ticket) : ∃ t, s.step (.execution ticket) = some t := by
  obtain ⟨e, hfind, rfl⟩ := Option.map_eq_some_iff.mp h
  have he := List.mem_of_find?_eq_some hfind
  have hsome : (s.executions.find? (·.ticket == e.ticket)).isSome :=
    List.find?_isSome.mpr ⟨e, he, beq_self_eq_true _⟩
  obtain ⟨x, hx⟩ := Option.isSome_iff_exists.mp hsome
  obtain ⟨hmem, hticket⟩ := find?_ticket_eq_some hx
  have hsame : x = e := List.inj_on_of_nodup_map (nodup_tickets hs) hmem he hticket
  subst hsame
  exact exists_step_execution hx (List.find?_some (p := fun e => s.mayEnd e) hfind)

/-- When no work may end, none does. -/
theorem execution_blocked (h : Schedule.nextEnding? s = none) (ticket : Nat) :
    s.step (.execution ticket) = none := by
  have hnone := List.find?_eq_none.mp (Option.map_eq_none_iff.mp h)
  show s.stepExecution ticket = none
  unfold stepExecution
  split
  next => rfl
  next e hfind => rw [if_neg (hnone e (List.mem_of_find?_eq_some hfind))]

end Pipeline

namespace Schedule

open Pipeline

variable {s : Pipeline} {x : Schedule} {config : PipelineConfig} {jobs : List Job}

/-- The waiting lines are those of the workers that wait, and every stage that can go on waits for its
turn. -/
structure Current (x : Schedule) : Prop where
  idle : ∀ k, k ∈ x.idle ↔ k ∈ workersAt WorkerPoint.isIdle x.state
  forwarding : ∀ k, k ∈ x.forwarding ↔ k ∈ workersAt WorkerPoint.isForwarding x.state
  ready : ∀ a ∈ stages x.state, x.isEnabled a = true → a ∈ x.ready

theorem mem_updateLine {present : WorkerPoint → Bool} {line : List Nat} {k : Nat} :
    k ∈ updateLine present s line ↔ k ∈ workersAt present s := by
  by_cases hline : k ∈ line <;> simp [updateLine, hline]

theorem mem_workersAt {present : WorkerPoint → Bool} {k : Nat} :
    k ∈ workersAt present s ↔ ∃ w, s.workers[k]? = some w ∧ present w.point = true := by
  simp [workersAt, List.mem_zipIdx_iff_getElem?]

/-- Whatever the state has become, everything that can go on joins the line. -/
theorem current_update (s : Pipeline) (x : Schedule) : Current (x.update s) where
  idle k := mem_updateLine
  forwarding k := mem_updateLine
  ready a ha henabled := by
    by_cases hready : a ∈ x.ready
    · exact List.mem_append_left _ hready
    · refine List.mem_append_right _ (List.mem_filter.mpr ⟨ha, ?_⟩)
      rw [Bool.and_eq_true]
      exact ⟨by simpa using hready, henabled⟩

/-- A worker whose turn it is may pass. -/
theorem mayPass_of_idle {k : Nat} {w : Worker} (hworker : x.state.workers[k]? = some w)
    (hpoint : w.point = .idle) (hturn : x.idle.head? = some k) : x.mayPass k = true := by
  obtain ⟨id, point⟩ := w
  subst hpoint
  simp [mayPass, hworker, hturn]

theorem mayPass_of_forwarding {k : Nat} {w : Worker} {p : Packet Job}
    (hworker : x.state.workers[k]? = some w) (hpoint : w.point = .forwarding p)
    (hturn : k ∈ x.forwarding.take (freeSlots x.state)) : x.mayPass k = true := by
  obtain ⟨id, point⟩ := w
  subst hpoint
  simp [mayPass, hworker, hturn]

/-- A worker that may not pass waits behind others. -/
theorem waits_of_not_mayPass {k : Nat} (h : x.mayPass k = false) :
    x.state.signal.isShutdown = false ∧ ∃ w, x.state.workers[k]? = some w ∧
      (w.point = .idle ∨ ∃ p, w.point = .forwarding p ∧ x.state.outbound.receivers ≠ 0) := by
  unfold mayPass at h
  simp only [Bool.or_eq_false_iff] at h
  refine ⟨h.1, ?_⟩
  have hrest := h.2
  split at hrest
  next id hworker => exact ⟨_, hworker, .inl rfl⟩
  next id p hworker =>
    simp only [Bool.or_eq_false_iff, decide_eq_false_iff_not] at hrest
    exact ⟨_, hworker, .inr ⟨p, rfl, hrest.1⟩⟩
  next => cases hrest

theorem Current.blocked (hx : Current x) (hnone : ∀ a ∈ x.ready, x.isEnabled a = false) {a : Actor}
    (ha : a ∈ stages x.state) (hpass : ∀ k, a = .worker k → x.mayPass k = true) :
    x.state.step a = none := by
  by_contra hgoes
  have hsome : (x.state.step a).isSome = true := Option.isSome_iff_ne_none.mpr hgoes
  have henabled : x.isEnabled a = true := by
    cases a with
    | worker k => simp [isEnabled, hpass k rfl, hsome]
    | _ => simp [isEnabled, hsome]
  have hidle := hnone a (hx.ready a ha henabled)
  rw [henabled] at hidle
  cases hidle

/-- Where a worker waits, somebody is first in the line. -/
theorem exists_first {present : WorkerPoint → Bool} {line : List Nat}
    (hline : ∀ k, k ∈ line ↔ k ∈ workersAt present s) {k : Nat} {w : Worker}
    (hworker : s.workers[k]? = some w) (hpresent : present w.point = true) :
    ∃ j rest v, line = j :: rest ∧ s.workers[j]? = some v ∧ present v.point = true := by
  have hmem : k ∈ line := (hline k).mpr (mem_workersAt.mpr ⟨w, hworker, hpresent⟩)
  obtain ⟨j, rest, heq⟩ := List.exists_cons_of_ne_nil (List.ne_nil_of_mem hmem)
  obtain ⟨v, hv, hfirst⟩ := mem_workersAt.mp ((hline j).mp (heq ▸ List.mem_cons_self))
  exact ⟨j, rest, v, heq, hv, hfirst⟩

theorem eq_idle_of_isIdle {point : WorkerPoint} (h : point.isIdle = true) : point = .idle := by
  cases point <;> first | rfl | cases h

theorem exists_of_isForwarding {point : WorkerPoint} (h : point.isForwarding = true) :
    ∃ p, point = .forwarding p := by
  cases point <;> first | exact ⟨_, rfl⟩ | cases h

/-- When the first idle worker finds nothing to take, none does. -/
theorem Current.idle_blocked (hx : Current x)
    (hpass : ∀ j v, x.state.workers[j]? = some v → x.mayPass j = true →
      x.state.step (.worker j) = none) {k : Nat} {w : Worker}
    (hworker : x.state.workers[k]? = some w) (hpoint : w.point = .idle) :
    x.state.step (.worker k) = none := by
  obtain ⟨j, rest, v, hline, hv, hidle⟩ := exists_first hx.idle hworker (by rw [hpoint]; rfl)
  have hvpoint := eq_idle_of_isIdle hidle
  have hfirst := hpass j v hv (mayPass_of_idle hv hvpoint (by rw [hline]; rfl))
  have hnothing : x.state.signal.isShutdown = false ∧ x.state.handoff.buffer = [] ∧
      x.state.handoff.senders ≠ 0 := by
    rcases worker_blocked hv hfirst with
      hover | ⟨hopen, ⟨-, hbuffer, hsenders⟩ | ⟨_, _, _, hexecuting, -⟩ | ⟨_, hforwarding, -⟩⟩
    · simp [hvpoint] at hover
    · exact ⟨hopen, hbuffer, hsenders⟩
    · simp [hvpoint] at hexecuting
    · simp [hvpoint] at hforwarding
  show x.state.stepWorker k = none
  simp [stepWorker, hworker, hpoint, hnothing, Channel.take?]

/-- When the first worker that has a result finds no slot for it, none does. -/
theorem Current.forwarding_blocked (hx : Current x)
    (hpass : ∀ j v, x.state.workers[j]? = some v → x.mayPass j = true →
      x.state.step (.worker j) = none) {k : Nat} {w : Worker} {p : Packet Job}
    (hworker : x.state.workers[k]? = some w) (hpoint : w.point = .forwarding p)
    (hopen : x.state.signal.isShutdown = false) (hreceivers : x.state.outbound.receivers ≠ 0) :
    x.state.step (.worker k) = none := by
  obtain ⟨j, rest, v, hline, hv, hforwarding⟩ :=
    exists_first hx.forwarding hworker (by rw [hpoint]; rfl)
  obtain ⟨q, hvpoint⟩ := exists_of_isForwarding hforwarding
  have hfull : x.state.outbound.hasRoom = false := by
    by_contra hroom
    have hslot : 0 < freeSlots x.state := by
      simp only [Channel.hasRoom, decide_eq_false_iff_not, not_not] at hroom
      unfold freeSlots
      omega
    have hturn : j ∈ x.forwarding.take (freeSlots x.state) := by
      obtain ⟨n, hn⟩ := Nat.exists_eq_add_one.mpr hslot
      rw [hline, hn, List.take_succ_cons]
      exact List.mem_cons_self
    have hfirst := hpass j v hv (mayPass_of_forwarding hv hvpoint hturn)
    rcases worker_blocked hv hfirst with
      hover | ⟨-, ⟨hidle, -⟩ | ⟨_, _, _, hexecuting, -⟩ | ⟨_, -, -, hfull⟩⟩
    · simp [hvpoint] at hover
    · simp [hvpoint] at hidle
    · simp [hvpoint] at hexecuting
    · exact hroom hfull
  show x.state.stepWorker k = none
  simp [stepWorker, hworker, hpoint, hopen, hreceivers, hfull]

/-- When no stage that waits for its turn can go on, no stage can: the first of each waiting line finds
what those behind it would find. -/
theorem Current.isQuiet (hx : Current x) (hnone : ∀ a ∈ x.ready, x.isEnabled a = false) :
    IsQuiet x.state := by
  have hpass : ∀ j v, x.state.workers[j]? = some v → x.mayPass j = true →
      x.state.step (.worker j) = none := by
    intro j v hv hpass
    have hj := (List.getElem?_eq_some_iff.mp hv).1
    refine hx.blocked hnone (by simp [stages, hj]) ?_
    intro i hi
    cases hi
    exact hpass
  refine ⟨?_, hx.blocked hnone (by simp [stages]) (fun k hk => by cases hk)⟩
  intro a ha
  cases ha with
  | dispatcher | collector => exact hx.blocked hnone (by simp [stages]) fun k hk => by cases hk
  | worker k =>
      cases hworker : x.state.workers[k]? with
      | none =>
          show x.state.stepWorker k = none
          rw [stepWorker, hworker]
      | some w =>
          by_cases hturn : x.mayPass k = true
          · exact hpass k w hworker hturn
          · obtain ⟨hopen, v, hv, hpoint⟩ := waits_of_not_mayPass (eq_false_of_ne_true hturn)
            rcases hpoint with hpoint | ⟨p, hpoint, hreceivers⟩
            · exact hx.idle_blocked hpass hv hpoint
            · exact hx.forwarding_blocked hpass hv hpoint hopen hreceivers

/-- Who has the turn can take a step, and waits behind nobody. -/
theorem exists_step_of_turn {a : Actor} {rest : List Actor}
    (h : (x.ready.dropWhile fun a => !x.isEnabled a) = a :: rest) :
    ∃ t, x.state.step a = some t ∧ ∀ k, a = .worker k → x.mayPass k = true := by
  have henabled : x.isEnabled a = true := by
    have hfirst := List.head?_dropWhile_not (fun a => !x.isEnabled a) x.ready
    rw [h] at hfirst
    simpa using hfirst
  unfold isEnabled at henabled
  rw [Bool.and_eq_true] at henabled
  obtain ⟨t, ht⟩ := Option.isSome_iff_exists.mp henabled.2
  refine ⟨t, ht, ?_⟩
  rintro k rfl
  exact henabled.1

/-- With more turns than its potential, a run goes on until nothing can. -/
theorem quiet_settleWithin (hvalid : config.defect? = none) {fuel : Nat} (hx : Current x)
    (hs : Reachable config jobs x.state) (hfuel : x.state.potential < fuel) :
    ∀ a, (settleWithin fuel x).state.step a = none := by
  induction fuel generalizing x with
  | zero => exact absurd hfuel (Nat.not_lt_zero _)
  | succ fuel ih =>
      have hturn : ∀ (y : Schedule) a t, y.state = x.state → y.state.step a = some t →
          ∀ b, (settleWithin fuel (y.act a)).state.step b = none := by
        intro y a t hy hstep
        rw [hy] at hstep
        have hlt := potential_lt_of_step (tickInterval_pos hvalid hs) hstep
        rw [act_eq (hy ▸ hstep)]
        exact ih (current_update t y) (hs.move (m := .act a) hstep) (Nat.lt_of_lt_of_le hlt
          (Nat.le_of_lt_succ hfuel))
      unfold settleWithin
      split
      next a rest hready =>
        obtain ⟨t, ht, -⟩ := exists_step_of_turn hready
        exact hturn { x with ready := a :: rest } a t rfl ht
      next hready =>
        dsimp only
        split
        next ticket hticket =>
          obtain ⟨t, ht⟩ := step_nextEnding hs hticket
          exact hturn { x with ready := [] } _ t rfl ht
        next hending =>
          have hnone : ∀ a ∈ x.ready, x.isEnabled a = false := by
            simpa using List.dropWhile_eq_nil_iff.mp hready
          obtain ⟨hsettled, hcaller⟩ := hx.isQuiet hnone
          intro a
          cases a with
          | dispatcher => exact hsettled _ .dispatcher
          | worker k => exact hsettled _ (.worker k)
          | collector => exact hsettled _ .collector
          | supervisor => exact hcaller
          | execution ticket => exact execution_blocked hending ticket

end Schedule

namespace Pipeline

variable {s : Pipeline} {config : PipelineConfig} {jobs : List Job}

/-- There is no livelock at a fixed time. From every reachable state of a run with a valid
configuration, only so many steps can be taken before the clock moves: the bound depends on the number
of tasks, the number of workers and the ticks that are due, and of those there are at most six. So no
sequence of steps goes on for ever, and the loop that gives all actors their turns, begun after anything
that may have happened outside, ends in a state in which none of them can go on. -/
theorem no_livelock_at_fixed_time (hvalid : config.defect? = none) (hs : Reachable config jobs s) :
    (∀ (actors : List Actor) (t : Pipeline), s.follow (actors.map .act) = some t →
      actors.length ≤ 11 * jobs.length + 2 * config.workerCount + 2 * s.ticksDue + 10) ∧
    s.ticksDue ≤ 6 ∧
    (¬∃ run : Nat → Pipeline, run 0 = s ∧
      ∀ n, ∃ a : Actor, (run n).step a = some (run (n + 1))) ∧
    ∀ x : Schedule, ∃ actors : List Actor,
      s.follow (actors.map .act) = some (x.resume s).state ∧
      ∀ a : Actor, (x.resume s).state.step a = none := by
  have hbound : ∀ (actors : List Actor) (t : Pipeline), s.follow (actors.map .act) = some t →
      actors.length ≤ 11 * jobs.length + 2 * config.workerCount + 2 * s.ticksDue + 10 := by
    intro actors t hfollow
    calc actors.length ≤ s.stepsAhead := length_le_of_follow (tickInterval_pos hvalid hs) hfollow
      _ ≤ 11 * jobs.length + 2 * config.workerCount + 2 * s.ticksDue + 10 := stepsAhead_le hvalid hs
  refine ⟨hbound, ticksDue_le s, ?_, ?_⟩
  · rintro ⟨run, rfl, hrun⟩
    have hprefix : ∀ n, ∃ actors : List Actor,
        actors.length = n ∧ (run 0).follow (actors.map .act) = some (run n) := by
      intro n
      induction n with
      | zero => exact ⟨[], rfl, rfl⟩
      | succ n ih =>
          obtain ⟨actors, hlength, hfollow⟩ := ih
          obtain ⟨a, ha⟩ := hrun n
          refine ⟨actors ++ [a], by simp [hlength], ?_⟩
          rw [List.map_append, follow_append, hfollow]
          simp [follow, Pipeline.move, ha]
    obtain ⟨actors, hlength, hfollow⟩ := hprefix
      (11 * jobs.length + 2 * config.workerCount + 2 * (run 0).ticksDue + 11)
    have hle := hbound actors _ hfollow
    omega
  · intro x
    obtain ⟨actors, hfollow⟩ :=
      Schedule.follow_settleWithin ((x.update s).state.potential + 1) (x.update s)
    refine ⟨actors, hfollow, ?_⟩
    exact Schedule.quiet_settleWithin hvalid (Schedule.current_update s x) hs (Nat.lt_succ_self _)

/-- A collector that is three ticks late hears them one after the other and then waits; the run then goes
on until nothing can. -/
theorem no_livelock_at_fixed_time_of_one : ∃ s t,
    Reachable { workerCount := 1, tickIntervalMs := 2 } [⟨.hanging, 0⟩] s ∧ s.ticksDue = 3 ∧
    s.follow (List.replicate 6 (.act .collector)) = some t ∧ t.ticksDue = 0 ∧
    t.step .collector = none ∧
    (List.replicate 6 Actor.collector).length ≤ 11 * 1 + 2 * 1 + 2 * s.ticksDue + 10 ∧
    ∀ a : Actor, ((Schedule.startRun s).resume s).state.step a = none := by
  let moves := [Move.act .collector, .advance 5]
  have hrun : ∃ s t,
      (ofRun { workerCount := 1, tickIntervalMs := 2 } [⟨.hanging, 0⟩]).follow moves = some s ∧
      s.ticksDue = 3 ∧ s.follow (List.replicate 6 (.act .collector)) = some t ∧ t.ticksDue = 0 ∧
      t.step .collector = none :=
    ⟨_, _, rfl, rfl, rfl, rfl, rfl⟩
  obtain ⟨s, t, hmoves, hdue, hfollow, hnone, hblocked⟩ := hrun
  have hreach : Reachable { workerCount := 1, tickIntervalMs := 2 } [⟨.hanging, 0⟩] s :=
    ⟨moves, hmoves⟩
  obtain ⟨hbound, -, -, hloop⟩ := no_livelock_at_fixed_time rfl hreach
  obtain ⟨-, -, hquiet⟩ := hloop (Schedule.startRun s)
  exact ⟨s, t, hreach, hdue, hfollow, hnone, hblocked, hbound (List.replicate 6 .collector) t hfollow,
    hquiet⟩

end Pipeline

end Fanout
