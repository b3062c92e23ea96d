import Fanout.Pipeline.Step

/-!
What a step can do. For every actor the outcomes of its step are the constructors of a relation, each
with the point it starts from, the condition it needs and the state it leads to; an inversion lemma
for each actor says that there are no others. Everything that a run preserves is proved by cases on
these relations, and no later proof unfolds a step.
-/

namespace Fanout

/-- The counters after the supply ran out. -/
def Counters.exhaust (c : Counters) : Counters :=
  { c with want := 0, supplyExhausted := true }

/-- The counters after the dispatch of task `i` was counted. -/
def Counters.countDispatch (i : Nat) (c : Counters) : Counters :=
  { c with cursor := .loading (i + 1), sent := c.sent + 1 }

/-- The task that a worker gives up by an event. -/
def Event.abandonedTask? : Event → Option Nat
  | .taskTimedOut task .. | .taskPanicked task .. => some task
  | _ => none

theorem Counters.tryRecordDispatch_eq_some {i : Nat} {c d : Counters}
    (h : c.tryRecordDispatch i = some d) : c.cursor = .loading i ∧ d = c.countDispatch i := by
  unfold tryRecordDispatch at h
  split at h
  · exact ⟨by assumption, (Option.some.inj h).symm⟩
  · cases h

theorem Counters.tryRecordDispatch_eq_none {i : Nat} {c : Counters}
    (h : c.tryRecordDispatch i = none) : c.cursor ≠ .loading i := by
  unfold tryRecordDispatch at h
  split at h
  · cases h
  · assumption

theorem Counters.nextDispatch_stopped {total : Nat} {c d : Counters}
    (h : c.nextDispatch total = (.stopped, d)) : c.cursor = .stopped := by
  unfold nextDispatch at h
  split at h
  · assumption
  · split at h <;> cases h

theorem Counters.nextDispatch_exhausted {total : Nat} {c d : Counters}
    (h : c.nextDispatch total = (.exhausted, d)) :
    ∃ i, c.cursor = .loading i ∧ total ≤ i ∧ d = c.exhaust := by
  unfold nextDispatch at h
  split at h
  · cases h
  · split at h
    next i hcursor htotal => exact ⟨i, hcursor, htotal, (Prod.mk.inj h).2.symm⟩
    next => cases h

theorem Counters.nextDispatch_dispatch {total i : Nat} {c d : Counters}
    (h : c.nextDispatch total = (.dispatch i, d)) : c.cursor = .loading i ∧ i < total := by
  unfold nextDispatch at h
  split at h
  · cases h
  · split at h
    next => cases h
    next j hcursor htotal =>
      cases h
      exact ⟨hcursor, by omega⟩

theorem Channel.take?_eq_some {α : Type} {c d : Channel α} {x : α} (h : c.take? = some (x, d)) :
    c.buffer = x :: d.buffer ∧ d = { c with buffer := d.buffer } := by
  unfold take? at h
  split at h
  · cases h
  · rename_i rest hbuffer
    cases h
    exact ⟨hbuffer, rfl⟩

theorem Channel.take?_eq_none {α : Type} {c : Channel α} (h : c.take? = none) : c.buffer = [] := by
  unfold take? at h
  split at h
  · assumption
  · cases h

namespace Pipeline

/-- The tasks that workers gave up, in the order in which they did. -/
def abandonedTasks (s : Pipeline) : List Nat :=
  s.log.filterMap Event.abandonedTask?

theorem abandonedTasks_record {e : Event} {s : Pipeline} (he : e.abandonedTask? = none) :
    (s.record e).abandonedTasks = s.abandonedTasks := by
  simp [abandonedTasks, record, he]

attribute [simp] record measure discard strand setDispatcher setWorker setCollector setSupervisor

/-! ### The dispatcher -/

inductive DispatcherStep (s : Pipeline) : Pipeline → Prop
  | stopped (hpoint : s.dispatcher.point = .deciding) (hcursor : s.counters.cursor = .stopped) :
      DispatcherStep s ((s.record .loadingStopped).endDispatcher [])
  | exhausted (i : Nat) (hpoint : s.dispatcher.point = .deciding)
      (hcursor : s.counters.cursor = .loading i) (htotal : s.dispatcher.total ≤ i) :
      DispatcherStep s (({ s with counters := s.counters.exhaust }.record
        (.inputExhausted s.dispatcher.total)).endDispatcher [])
  | unsupplied (i : Nat) (hpoint : s.dispatcher.point = .deciding)
      (hcursor : s.counters.cursor = .loading i) (htotal : i < s.dispatcher.total)
      (hremaining : s.dispatcher.remaining = []) : DispatcherStep s (s.endDispatcher [])
  | drawn (i : Nat) (p : Packet Job) (rest : List (Packet Job))
      (hpoint : s.dispatcher.point = .deciding) (hcursor : s.counters.cursor = .loading i)
      (htotal : i < s.dispatcher.total) (hremaining : s.dispatcher.remaining = p :: rest) :
      DispatcherStep s { s with
        dispatcher := { s.dispatcher with remaining := rest, point := .reserving i p } }
  | shutdown (i : Nat) (p : Packet Job) (hpoint : s.dispatcher.point = .reserving i p)
      (hsignal : s.signal.isShutdown = true) :
      DispatcherStep s ((s.record (.shutdownWhileReserving i)).endDispatcher [p])
  | closed (i : Nat) (p : Packet Job) (hpoint : s.dispatcher.point = .reserving i p)
      (hsignal : s.signal.isShutdown = false) (hreceivers : s.handoff.receivers = 0) :
      DispatcherStep s ((s.record .handoffClosed).endDispatcher [p])
  | reserved (i : Nat) (p : Packet Job) (hpoint : s.dispatcher.point = .reserving i p)
      (hsignal : s.signal.isShutdown = false) (hreceivers : s.handoff.receivers ≠ 0)
      (hroom : s.handoff.hasRoom = true) :
      DispatcherStep s ({ s with handoff := s.handoff.reserve }.setDispatcher (.counting i p))
  | counted (i : Nat) (p : Packet Job) (hpoint : s.dispatcher.point = .counting i p)
      (hcursor : s.counters.cursor = .loading i) :
      DispatcherStep s (({ s with counters := s.counters.countDispatch i }.measure
        .dispatched).setDispatcher (.committing p))
  | refused (i : Nat) (p : Packet Job) (hpoint : s.dispatcher.point = .counting i p)
      (hcursor : s.counters.cursor ≠ .loading i) :
      DispatcherStep s (({ s with handoff := s.handoff.release }.record
        .loadingStopped).endDispatcher [p])
  | committed (p : Packet Job) (hpoint : s.dispatcher.point = .committing p) :
      DispatcherStep s (({ s with handoff := s.handoff.commit p }.strand
        (if s.handoff.receivers = 0 then [p] else [])).setDispatcher .deciding)

theorem dispatcherStep_of_step {s t : Pipeline} (h : s.stepDispatcher = some t) :
    DispatcherStep s t := by
  unfold stepDispatcher at h
  split at h
  next hpoint =>
    split at h
    next hdecision => exact Option.some.inj h ▸ .stopped hpoint (Counters.nextDispatch_stopped hdecision)
    next counters hdecision =>
      obtain ⟨i, hcursor, htotal, rfl⟩ := Counters.nextDispatch_exhausted hdecision
      exact Option.some.inj h ▸ .exhausted i hpoint hcursor htotal
    next i _ hdecision =>
      obtain ⟨hcursor, htotal⟩ := Counters.nextDispatch_dispatch hdecision
      split at h
      next hremaining =>
        exact Option.some.inj h ▸ .unsupplied i hpoint hcursor htotal hremaining
      next p rest hremaining =>
        exact Option.some.inj h ▸ .drawn i p rest hpoint hcursor htotal hremaining
  next i p hpoint =>
    split at h
    next hsignal => exact Option.some.inj h ▸ .shutdown i p hpoint hsignal
    next hsignal =>
      have hopen := eq_false_of_ne_true hsignal
      split at h
      next hreceivers => exact Option.some.inj h ▸ .closed i p hpoint hopen hreceivers
      next hreceivers =>
        split at h
        next hroom => exact Option.some.inj h ▸ .reserved i p hpoint hopen hreceivers hroom
        next => cases h
  next i p hpoint =>
    split at h
    next counters hcount =>
      obtain ⟨hcursor, rfl⟩ := Counters.tryRecordDispatch_eq_some hcount
      exact Option.some.inj h ▸ .counted i p hpoint hcursor
    next hcount =>
      exact Option.some.inj h ▸ .refused i p hpoint (Counters.tryRecordDispatch_eq_none hcount)
  next p hpoint => exact Option.some.inj h ▸ .committed p hpoint
  next => cases h
  next => cases h

/-! ### The workers -/

inductive WorkerStep (s : Pipeline) (k : Nat) (w : Worker) : Pipeline → Prop
  | dismissed (hpoint : w.point = .idle) (hsignal : s.signal.isShutdown = true) :
      WorkerStep s k w ((s.record .shutdownWhileIdle).endWorker k w)
  | took (p : Packet Job) (rest : List (Packet Job)) (hpoint : w.point = .idle)
      (hsignal : s.signal.isShutdown = false) (hbuffer : s.handoff.buffer = p :: rest) :
      WorkerStep s k w ({ s with handoff := { s.handoff with buffer := rest } }.beginWork k w p)
  | drained (hpoint : w.point = .idle) (hsignal : s.signal.isShutdown = false)
      (hbuffer : s.handoff.buffer = []) (hsenders : s.handoff.senders = 0) :
      WorkerStep s k w ((s.record .handoffDrained).endWorker k w)
  | left (ticket task startedAt : Nat) (outcome : Outcome)
      (hpoint : w.point = .executing ticket task startedAt outcome)
      (hsignal : s.signal.isShutdown = true) (hdrop : dropPanic? outcome.packet?.toList = none) :
      WorkerStep s k w (((s.discard [task]).record .shutdownWhileRunning).endWorker k w)
  | leftCrashing (ticket task startedAt : Nat) (outcome : Outcome) (message : String)
      (hpoint : w.point = .executing ticket task startedAt outcome)
      (hsignal : s.signal.isShutdown = true)
      (hdrop : dropPanic? outcome.packet?.toList = some message) :
      WorkerStep s k w ((s.discard [task]).crashWorker k w message)
  | heardReturn (ticket task startedAt : Nat) (p : Packet Job)
      (hpoint : w.point = .executing ticket task startedAt (.returned p))
      (hsignal : s.signal.isShutdown = false) : WorkerStep s k w (s.setWorker k w (.forwarding p))
  | heardPanic (ticket task startedAt : Nat)
      (hpoint : w.point = .executing ticket task startedAt .panicked)
      (hsignal : s.signal.isShutdown = false) : WorkerStep s k w (s.setWorker k w (.panicked task))
  | expired (ticket task startedAt : Nat)
      (hpoint : w.point = .executing ticket task startedAt .running)
      (hsignal : s.signal.isShutdown = false) (hdeadline : startedAt + s.taskTimeoutMs ≤ s.now) :
      WorkerStep s k w (s.setWorker k w (.timedOut task))
  | countedTimeout (task : Nat) (hpoint : w.point = .timedOut task) :
      WorkerStep s k w ((({ s with counters := s.counters.recordAbandoned }.measure
        (.timedOut w.id)).record (.taskTimedOut task s.taskTimeoutMs
          s.counters.recordAbandoned.sent)).setWorker k w .idle)
  | countedPanic (task : Nat) (hpoint : w.point = .panicked task) :
      WorkerStep s k w ((({ s with counters := s.counters.recordAbandoned }.measure
        (.panicked w.id)).record (.taskPanicked task
          s.counters.recordAbandoned.sent)).setWorker k w .idle)
  | droppedCrashing (p : Packet Job) (message : String) (hpoint : w.point = .forwarding p)
      (hsignal : s.signal.isShutdown = true) (hdrop : dropPanic? [p] = some message) :
      WorkerStep s k w ((s.discard [p.task]).crashWorker k w message)
  | dropped (p : Packet Job) (hpoint : w.point = .forwarding p)
      (hsignal : s.signal.isShutdown = true) (hdrop : dropPanic? [p] = none) :
      WorkerStep s k w
        (((s.discard [p.task]).record (.shutdownWhileForwarding p.task)).endWorker k w)
  | unheardCrashing (p : Packet Job) (message : String) (hpoint : w.point = .forwarding p)
      (hsignal : s.signal.isShutdown = false) (hreceivers : s.outbound.receivers = 0)
      (hdrop : dropPanic? [p] = some message) :
      WorkerStep s k w
        (((s.discard [p.task]).record (.outboundClosed p.task)).crashWorker k w message)
  | unheard (p : Packet Job) (hpoint : w.point = .forwarding p)
      (hsignal : s.signal.isShutdown = false) (hreceivers : s.outbound.receivers = 0)
      (hdrop : dropPanic? [p] = none) :
      WorkerStep s k w (((s.discard [p.task]).record (.outboundClosed p.task)).endWorker k w)
  | forwarded (p : Packet Job) (hpoint : w.point = .forwarding p)
      (hsignal : s.signal.isShutdown = false) (hreceivers : s.outbound.receivers ≠ 0)
      (hroom : s.outbound.hasRoom = true) :
      WorkerStep s k w ({ s with outbound := s.outbound.push p }.setWorker k w .idle)

theorem workerStep_of_step {s t : Pipeline} {k : Nat} (h : s.stepWorker k = some t) :
    ∃ w, s.workers[k]? = some w ∧ WorkerStep s k w t := by
  unfold stepWorker at h
  split at h
  next => cases h
  next w hworker =>
    refine ⟨w, hworker, ?_⟩
    split at h
    next hpoint =>
      split at h
      next hsignal => exact Option.some.inj h ▸ .dismissed hpoint hsignal
      next hsignal =>
        have hopen := eq_false_of_ne_true hsignal
        split at h
        next p handoff htake =>
          obtain ⟨hbuffer, hhandoff⟩ := Channel.take?_eq_some htake
          rw [hhandoff] at h
          exact Option.some.inj h ▸ .took p _ hpoint hopen hbuffer
        next htake =>
          split at h
          next hsenders =>
            exact Option.some.inj h ▸ .drained hpoint hopen (Channel.take?_eq_none htake) hsenders
          next => cases h
    next ticket task startedAt outcome hpoint =>
      split at h
      next hsignal =>
        split at h
        next message hdrop =>
          exact Option.some.inj h ▸
            .leftCrashing ticket task startedAt outcome message hpoint hsignal hdrop
        next hdrop =>
          exact Option.some.inj h ▸ .left ticket task startedAt outcome hpoint hsignal hdrop
      next hsignal =>
        have hopen := eq_false_of_ne_true hsignal
        split at h
        next p => exact Option.some.inj h ▸ .heardReturn ticket task startedAt p hpoint hopen
        next => exact Option.some.inj h ▸ .heardPanic ticket task startedAt hpoint hopen
        next =>
          split at h
          next hdeadline =>
            exact Option.some.inj h ▸ .expired ticket task startedAt hpoint hopen hdeadline
          next => cases h
    next task hpoint => exact Option.some.inj h ▸ .countedTimeout task hpoint
    next task hpoint => exact Option.some.inj h ▸ .countedPanic task hpoint
    next p hpoint =>
      split at h
      next hsignal =>
        split at h
        next message hdrop =>
          exact Option.some.inj h ▸ .droppedCrashing p message hpoint hsignal hdrop
        next hdrop => exact Option.some.inj h ▸ .dropped p hpoint hsignal hdrop
      next hsignal =>
        have hopen := eq_false_of_ne_true hsignal
        split at h
        next hreceivers =>
          split at h
          next message hdrop =>
            exact Option.some.inj h ▸ .unheardCrashing p message hpoint hopen hreceivers hdrop
          next hdrop => exact Option.some.inj h ▸ .unheard p hpoint hopen hreceivers hdrop
        next hreceivers =>
          split at h
          next hroom => exact Option.some.inj h ▸ .forwarded p hpoint hopen hreceivers hroom
          next => cases h
    next => cases h
    next => cases h

/-! ### The collector -/

inductive CollectorStep (s : Pipeline) : Pipeline → Prop
  | sated (hpoint : s.collector.point = .starting)
      (htarget : s.collector.targetReached 0 = true) :
      CollectorStep s ({ s with counters := s.counters.stopLoading.2 }.setCollector
        (.closing .targetReached))
  | began (hpoint : s.collector.point = .starting)
      (htarget : s.collector.targetReached 0 = false) :
      CollectorStep s (s.setCollector (.receiving s.now))
  | interrupted (nextTick : Nat) (hpoint : s.collector.point = .receiving nextTick)
      (hsignal : s.signal.isShutdown = true) :
      CollectorStep s (s.setCollector (.closing .shutdown))
  | took (p : Packet Job) (rest : List (Packet Job)) (nextTick : Nat)
      (hpoint : s.collector.point = .receiving nextTick) (hsignal : s.signal.isShutdown = false)
      (hbuffer : s.outbound.buffer = p :: rest) :
      CollectorStep s ({ s with outbound := { s.outbound with buffer := rest } }.setCollector
        (.accepting p nextTick))
  | deserted (nextTick : Nat) (hpoint : s.collector.point = .receiving nextTick)
      (hsignal : s.signal.isShutdown = false) (hbuffer : s.outbound.buffer = [])
      (hsenders : s.outbound.senders = 0) :
      CollectorStep s (s.setCollector (.closing .outboundClosed))
  | ticked (nextTick : Nat) (hpoint : s.collector.point = .receiving nextTick)
      (hsignal : s.signal.isShutdown = false) (hbuffer : s.outbound.buffer = [])
      (hsenders : s.outbound.senders ≠ 0) (hdue : nextTick ≤ s.now) :
      CollectorStep s
        (s.setCollector (.ticking (s.collector.tickAfter nextTick s.now)))
  | drained (nextTick : Nat) (hpoint : s.collector.point = .ticking nextTick)
      (hfinished : s.collector.isFinished s.counters = true) :
      CollectorStep s (s.setCollector (.closing .drained))
  | undrained (nextTick : Nat) (hpoint : s.collector.point = .ticking nextTick)
      (hfinished : s.collector.isFinished s.counters = false) :
      CollectorStep s (s.setCollector (.receiving nextTick))
  | accepted (p : Packet Job) (nextTick : Nat)
      (hpoint : s.collector.point = .accepting p nextTick) :
      CollectorStep s (s.accept p nextTick)
  | reached (seen : Counters) (nextTick : Nat) (hpoint : s.collector.point = .counted seen nextTick)
      (htarget : s.collector.targetReached seen.received = true) :
      CollectorStep s ((s.stopWhenEnough seen).setCollector (.closing .targetReached))
  | continued (seen : Counters) (nextTick : Nat)
      (hpoint : s.collector.point = .counted seen nextTick)
      (htarget : s.collector.targetReached seen.received = false) :
      CollectorStep s ((s.stopWhenEnough seen).setCollector (.receiving nextTick))
  | closedPausing (exit : CollectorExit) (hpoint : s.collector.point = .closing exit)
      (hpause : s.collector.trailingPause = true) :
      CollectorStep s ({ s with signal := s.signal.shutdown.2 }.setCollector
        (.pausing exit (s.now + PipelineConfig.trailingPauseMs)))
  | closed (exit : CollectorExit) (hpoint : s.collector.point = .closing exit)
      (hpause : s.collector.trailingPause = false) :
      CollectorStep s ({ s with signal := s.signal.shutdown.2 }.setCollector (.reporting exit))
  | woke (exit : CollectorExit) (wake : Nat) (hpoint : s.collector.point = .pausing exit wake)
      (hwake : wake ≤ s.now) : CollectorStep s (s.setCollector (.reporting exit))
  | reported (exit : CollectorExit) (hpoint : s.collector.point = .reporting exit) :
      CollectorStep s (s.endCollector exit)

/-- Stopping the loading touches the counters and the log only. -/
theorem stopWhenEnough_eq (seen : Counters) (s : Pipeline) :
    ∃ log, s.stopWhenEnough seen = { s with
        counters := if seen.want ≤ seen.received then s.counters.stopLoading.2 else s.counters
        log } ∧
      (s.stopWhenEnough seen).abandonedTasks = s.abandonedTasks := by
  unfold stopWhenEnough
  split
  · dsimp only
    split
    · exact ⟨_, rfl, abandonedTasks_record rfl⟩
    · exact ⟨_, rfl, rfl⟩
  · exact ⟨_, rfl, rfl⟩

theorem collectorStep_of_step {s t : Pipeline} (h : s.stepCollector = some t) :
    CollectorStep s t := by
  unfold stepCollector at h
  dsimp only at h
  split at h
  next hpoint =>
    split at h
    next htarget => exact Option.some.inj h ▸ .sated hpoint htarget
    next htarget => exact Option.some.inj h ▸ .began hpoint (eq_false_of_ne_true htarget)
  next nextTick hpoint =>
    split at h
    next hsignal => exact Option.some.inj h ▸ .interrupted nextTick hpoint hsignal
    next hsignal =>
      have hopen := eq_false_of_ne_true hsignal
      split at h
      next p outbound htake =>
        obtain ⟨hbuffer, houtbound⟩ := Channel.take?_eq_some htake
        rw [houtbound] at h
        exact Option.some.inj h ▸ .took p _ nextTick hpoint hopen hbuffer
      next htake =>
        have hbuffer := Channel.take?_eq_none htake
        split at h
        next hsenders =>
          exact Option.some.inj h ▸ .deserted nextTick hpoint hopen hbuffer hsenders
        next hsenders =>
          split at h
          next hdue => exact Option.some.inj h ▸ .ticked nextTick hpoint hopen hbuffer hsenders hdue
          next => cases h
  next nextTick hpoint =>
    split at h
    next hfinished => exact Option.some.inj h ▸ .drained nextTick hpoint hfinished
    next hfinished =>
      exact Option.some.inj h ▸ .undrained nextTick hpoint (eq_false_of_ne_true hfinished)
  next p nextTick hpoint => exact Option.some.inj h ▸ .accepted p nextTick hpoint
  next seen nextTick hpoint =>
    split at h
    next htarget => exact Option.some.inj h ▸ .reached seen nextTick hpoint htarget
    next htarget =>
      exact Option.some.inj h ▸ .continued seen nextTick hpoint (eq_false_of_ne_true htarget)
  next exit hpoint =>
    split at h
    next hpause => exact Option.some.inj h ▸ .closedPausing exit hpoint hpause
    next hpause => exact Option.some.inj h ▸ .closed exit hpoint (eq_false_of_ne_true hpause)
  next exit wake hpoint =>
    split at h
    next hwake => exact Option.some.inj h ▸ .woke exit wake hpoint hwake
    next => cases h
  next exit hpoint => exact Option.some.inj h ▸ .reported exit hpoint
  next => cases h
  next => cases h
  next => cases h

/-! ### The caller -/

inductive SupervisorStep (s : Pipeline) : Pipeline → Prop
  | sawCollector (exit : CollectorExit) (hpoint : s.supervisor.point = .collector)
      (hcollector : s.collector.point = .finished exit) :
      SupervisorStep s (s.setSupervisor .dispatcher)
  | sawDispatcher (hpoint : s.supervisor.point = .dispatcher)
      (hdispatcher : s.dispatcher.point = .ended) : SupervisorStep s s.afterDispatcher
  | sawDispatcherCrash (message : String) (hpoint : s.supervisor.point = .dispatcher)
      (hdispatcher : s.dispatcher.point = .crashed message) :
      SupervisorStep s { s with
        supervisor := { s.supervisor with
          panics := { s.supervisor.panics with dispatcher := some message } } }.afterDispatcher
  | joined (k : Nat) (rest : List Nat) (hpoint : s.supervisor.point = .workers)
      (hexits : s.exits = k :: rest) : SupervisorStep s ({ s with exits := rest }.joinWorker k)
  | returned (hpoint : s.supervisor.point = .workers) (hexits : s.exits = [])
      (hworkers : s.allWorkersEnded = true) : SupervisorStep s s.endSupervisor

theorem supervisorStep_of_step {s t : Pipeline} (h : s.stepSupervisor = some t) :
    SupervisorStep s t := by
  unfold stepSupervisor at h
  split at h
  next hpoint =>
    split at h
    next exit hcollector => exact Option.some.inj h ▸ .sawCollector exit hpoint hcollector
    next => cases h
  next hpoint =>
    split at h
    next hdispatcher => exact Option.some.inj h ▸ .sawDispatcher hpoint hdispatcher
    next message hdispatcher =>
      exact Option.some.inj h ▸ .sawDispatcherCrash message hpoint hdispatcher
    next => cases h
  next hpoint =>
    split at h
    next k rest hexits => exact Option.some.inj h ▸ .joined k rest hpoint hexits
    next hexits =>
      split at h
      next hworkers => exact Option.some.inj h ▸ .returned hpoint hexits hworkers
      next => cases h
  next => cases h
  next => cases h

theorem afterDispatcher_eq (s : Pipeline) :
    s.afterDispatcher = s.setSupervisor (if s.supervisor.wholeRun then .workers else .done) := by
  unfold afterDispatcher
  split <;> rfl

/-- The caller goes on waiting after it has seen the end of a worker. -/
@[simp] theorem joinWorker_point (k : Nat) (s : Pipeline) :
    (s.joinWorker k).supervisor.point = s.supervisor.point := by
  unfold joinWorker
  split <;> rfl

/-- The caller touches only what it reports itself and the ends that it has seen. -/
theorem supervisorStep_frame {s t : Pipeline} (h : SupervisorStep s t) :
    ∃ supervisor exits metrics log, t = { s with supervisor, exits, metrics, log } ∧
      supervisor.wholeRun = s.supervisor.wholeRun ∧ t.abandonedTasks = s.abandonedTasks := by
  cases h with
  | sawCollector exit => exact ⟨_, _, _, _, rfl, rfl, rfl⟩
  | sawDispatcher =>
      rw [afterDispatcher_eq]
      exact ⟨_, _, _, _, rfl, rfl, rfl⟩
  | sawDispatcherCrash message =>
      rw [afterDispatcher_eq]
      exact ⟨_, _, _, _, rfl, rfl, rfl⟩
  | joined k rest =>
      unfold joinWorker
      split
      · exact ⟨_, _, _, _, rfl, rfl, abandonedTasks_record rfl⟩
      · exact ⟨_, _, _, _, rfl, rfl, abandonedTasks_record rfl⟩
      · exact ⟨_, _, _, _, rfl, rfl, rfl⟩
  | returned =>
      unfold endSupervisor
      dsimp only
      split
      · split
        · exact ⟨_, _, _, _, rfl, rfl, rfl⟩
        · exact ⟨_, _, _, _, rfl, rfl, abandonedTasks_record rfl⟩
      · exact ⟨_, _, _, _, rfl, rfl, rfl⟩

/-! ### The works -/

/-- What is reported of an execution that nobody waits for any more. -/
def lateEvents (e : Execution) : List Event :=
  match outcomeOf e with
  | .returned p => [.resultDiscarded p.display]
  | _ => []

inductive ExecutionStep (s : Pipeline) (ticket : Nat) : Pipeline → Prop
  | delivered (e : Execution) (k : Nat) (w : Worker) (task startedAt : Nat)
      (hfind : s.executions.find? (·.ticket == ticket) = some e) (hend : s.mayEnd e = true)
      (hworker : s.workers[k]? = some w)
      (hpoint : w.point = .executing ticket task startedAt .running) :
      ExecutionStep s ticket
        ({ s with executions := s.executions.eraseP (·.ticket == ticket) }.setWorker k w
          (.executing ticket task startedAt (outcomeOf e)))
  | late (e : Execution) (hfind : s.executions.find? (·.ticket == ticket) = some e)
      (hend : s.mayEnd e = true)
      (hunheard : ∀ w ∈ s.workers, ∀ task startedAt,
        w.point ≠ .executing ticket task startedAt .running) :
      ExecutionStep s ticket { s with
        executions := s.executions.eraseP (·.ticket == ticket)
        log := s.log ++ lateEvents e }

theorem waiting?_eq_some {s : Pipeline} {ticket k : Nat} {w : Worker}
    (h : s.waiting? ticket = some (k, w)) :
    s.workers[k]? = some w ∧ ∃ task startedAt, w.point = .executing ticket task startedAt .running := by
  unfold waiting? at h
  obtain ⟨⟨v, j⟩, hfind, hpair⟩ := Option.map_eq_some_iff.mp h
  cases hpair
  refine ⟨List.mem_zipIdx_iff_getElem?.mp (List.mem_of_find?_eq_some hfind), ?_⟩
  have hpoint := List.find?_some hfind
  dsimp only at hpoint
  split at hpoint
  next t task startedAt hexecuting =>
    rw [beq_iff_eq] at hpoint
    exact ⟨task, startedAt, hpoint ▸ hexecuting⟩
  next => cases hpoint

theorem waiting?_eq_none {s : Pipeline} {ticket : Nat} (h : s.waiting? ticket = none) :
    ∀ w ∈ s.workers, ∀ task startedAt, w.point ≠ .executing ticket task startedAt .running := by
  unfold waiting? at h
  rw [Option.map_eq_none_iff, List.find?_eq_none] at h
  intro w hw task startedAt hpoint
  obtain ⟨k, hk⟩ := List.mem_iff_getElem?.mp hw
  have hnot := h (w, k) (List.mem_zipIdx_iff_getElem?.mpr hk)
  simp [hpoint] at hnot

theorem executionStep_of_step {s t : Pipeline} {ticket : Nat}
    (h : s.stepExecution ticket = some t) : ExecutionStep s ticket t := by
  unfold stepExecution at h
  split at h
  next => cases h
  next e hfind =>
    split at h
    next hend =>
      dsimp only at h
      split at h
      next _ k w hwaiting =>
        obtain ⟨hworker, task, startedAt, hpoint⟩ := waiting?_eq_some hwaiting
        rw [deliver, hpoint] at h
        exact Option.some.inj h ▸ .delivered e k w task startedAt hfind hend hworker hpoint
      next p hwaiting houtcome =>
        have hlate : lateEvents e = [.resultDiscarded p.display] := by rw [lateEvents, houtcome]
        have hstep := ExecutionStep.late e hfind hend (waiting?_eq_none hwaiting)
        rw [hlate] at hstep
        exact Option.some.inj h ▸ hstep
      next hwaiting hreturn =>
        have hlate : lateEvents e = [] := by
          unfold lateEvents
          split
          next p houtcome => exact absurd houtcome (hreturn p)
          next => rfl
        have hstep := ExecutionStep.late e hfind hend (waiting?_eq_none hwaiting)
        rw [hlate, List.append_nil] at hstep
        exact Option.some.inj h ▸ hstep
    next => cases h

/-- A work that is not held up can end. -/
theorem exists_step_execution {s : Pipeline} {ticket : Nat} {e : Execution}
    (hfind : s.executions.find? (·.ticket == ticket) = some e) (hend : s.mayEnd e = true) :
    ∃ t, s.step (.execution ticket) = some t := by
  show ∃ t, s.stepExecution ticket = some t
  unfold stepExecution
  rw [hfind]
  dsimp only
  rw [if_pos hend]
  split <;> exact ⟨_, rfl⟩

end Pipeline

end Fanout
