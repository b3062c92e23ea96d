import Fanout.Pipeline.Report
import Fanout.Proofs.Pipeline.Crashes
import Fanout.Proofs.Pipeline.Livelock
import Fanout.Proofs.Pipeline.Lockstep

/-!
A pool of workers alone, between a channel that is filled from outside and one that is emptied from
outside. The workers share one receiver behind a lock: a worker that looks for a packet joins the line
for the lock, the first of the line holds it while it waits for a packet, and it gives it back with the
packet or when it is cancelled. Packets are taken in the order in which they were sent, each by one
worker, whatever the workers do in between (`Serves`), and when nobody can go on while packets wait, no
worker is idle (`pool_serves_in_order`).
-/

namespace Fanout

/-- A worker takes a packet. -/
structure Take where
  worker : Nat
  packet : Packet Job
  time : Nat
  deriving DecidableEq, Repr

/-- A pool that runs alone, with what has come of it so far. -/
structure Crew where
  state : Pipeline
  /-- Places of the workers in the line for the shared receiver. The first one holds it. -/
  line : List Nat := []
  /-- The packets that were put into the handoff channel, in this order. -/
  sent : List (Packet Job) := []
  /-- What the workers took, in this order. -/
  taken : List Take := []

/-- What can happen next around a pool. -/
inductive CrewMove
  /-- An idle worker joins the line. -/
  | ask (k : Nat)
  | act (a : Actor)
  | call (c : Call)
  deriving DecidableEq, Repr

namespace Pipeline

/-- What is taken by a move. -/
def take? (s : Pipeline) : Move → Option Take
  | .act (.worker k) => (s.workers[k]?).bind fun w =>
      if w.point = .idle ∧ s.signal.isShutdown = false then
        s.handoff.buffer.head?.map fun p => ⟨w.id, p, s.now⟩
      else none
  | _ => none

/-- The packet that a call puts into the handoff channel. -/
def sending? (s : Pipeline) : Call → Option (Packet Job)
  | .send _ task work =>
    if (s.handoff.trySend s.holdings.handoffSender (Packet.new task { work })).1 = .sent then
      some (.new task { work })
    else none
  | _ => none

/-- A worker here has something to do and waits for its work to end or for a free slot. -/
def IsHeldUp (s : Pipeline) : WorkerPoint → Prop
  | .executing _ _ startedAt .running => s.now < startedAt + s.taskTimeoutMs
  | .forwarding _ => s.outbound.receivers ≠ 0 ∧ s.outbound.hasRoom = false
  | _ => False

/-- The worker in this place is there and idle. -/
def isIdleAt (s : Pipeline) (k : Nat) : Bool :=
  (s.workers[k]?).any (·.point.isIdle)

end Pipeline

namespace Crew

open Pipeline

/-- A pool before anything has moved. -/
def start (config : PipelineConfig) (capacity : Nat) : Crew :=
  { state := .ofPool config capacity }

/-- A worker looks for a packet. One that finds the signal closed does not. -/
def mayAsk (f : Crew) (k : Nat) : Bool :=
  !f.state.signal.isShutdown && f.state.isIdleAt k && !f.line.contains k

/-- A worker needs the lock to receive, and for nothing else. -/
def mayAct (f : Crew) : Actor → Bool
  | .worker k => f.state.signal.isShutdown || !f.state.isIdleAt k || f.line.head? = some k
  | _ => true

/-- A worker that has received or has ended is no longer in the line. -/
def move : CrewMove → Crew → Option Crew
  | .ask k, f => if f.mayAsk k then some { f with line := f.line ++ [k] } else none
  | .act a, f =>
    if f.mayAct a then
      (f.state.step a).map fun t =>
        { f with
          state := t
          line := f.line.filter t.isIdleAt
          taken := f.taken ++ (f.state.take? (.act a)).toList }
    else none
  | .call c, f => some { f with
      state := (f.state.call c).2
      sent := f.sent ++ (f.state.sending? c).toList }

/-- No worker can go on, nor join the line. -/
def IsSettled (f : Crew) : Prop :=
  ∀ k, f.move (.ask k) = none ∧ f.move (.act (.worker k)) = none

/-- The packets that were taken, in this order. -/
def packets (f : Crew) : List (Packet Job) :=
  f.taken.map (·.packet)

end Crew

namespace Pipeline

variable {s t : Pipeline}

/-! ### One step -/

/-- A worker takes the first packet that waits and begins its work, goes on with what it has, or
ends. -/
theorem WorkerStep.takes_or_stays_or_ends {k : Nat} {w : Worker} (hworker : s.workers[k]? = some w)
    (h : WorkerStep s k w t) :
    (∃ p rest, w.point = .idle ∧ s.handoff.buffer = p :: rest ∧
      s.take? (.act (.worker k)) = some ⟨w.id, p, s.now⟩ ∧
      t = { s with handoff := { s.handoff with buffer := rest } }.beginWork k w p) ∨
    (s.take? (.act (.worker k)) = none ∧ t.invoked = s.invoked ∧
      ∃ point, t.workers = s.workers.set k { w with point } ∧
        (∀ ticket task startedAt outcome, point ≠ .executing ticket task startedAt outcome) ∧
        (point.isOver = false ∧ t.handoff = s.handoff ∧ t.exits = s.exits ∨
          point.isOver = true ∧ t.handoff = s.handoff.dropReceiver ∧ t.exits = s.exits ++ [k])) := by
  have htake : s.take? (.act (.worker k)) =
      if w.point = .idle ∧ s.signal.isShutdown = false then
        s.handoff.buffer.head?.map fun p => ⟨w.id, p, s.now⟩
      else none := by
    rw [take?, hworker, Option.bind_some]
  cases h with
  | took p rest hpoint hsignal hbuffer =>
      refine .inl ⟨p, rest, hpoint, hbuffer, ?_, rfl⟩
      rw [htake, if_pos ⟨hpoint, hsignal⟩, hbuffer]
      rfl
  | heardReturn _ _ _ _ hpoint | heardPanic _ _ _ hpoint | expired _ _ _ hpoint
  | countedTimeout _ hpoint | countedPanic _ hpoint | forwarded _ hpoint =>
      exact .inr ⟨by simp [htake, hpoint], by simp, _, rfl, nofun,
        .inl ⟨by simp, by simp, by simp⟩⟩
  | dismissed hpoint hsignal =>
      exact .inr ⟨by simp [htake, hsignal], rfl, _, rfl,
        fun _ _ _ _ => isOver_ne_executing (by simp), .inr ⟨by simp, rfl, rfl⟩⟩
  | drained hpoint hsignal hbuffer =>
      exact .inr ⟨by simp [htake, hbuffer], rfl, _, rfl,
        fun _ _ _ _ => isOver_ne_executing (by simp), .inr ⟨by simp, rfl, rfl⟩⟩
  | left _ _ _ _ hpoint | leftCrashing _ _ _ _ _ hpoint | dropped _ hpoint
  | droppedCrashing _ _ hpoint | unheard _ hpoint | unheardCrashing _ _ hpoint =>
      exact .inr ⟨by simp [htake, hpoint], rfl, _, rfl,
        fun _ _ _ _ => isOver_ne_executing (by simp), .inr ⟨by simp, rfl, rfl⟩⟩

/-- Only sends change what waits in the handoff channel while nobody outside holds its receiver. -/
structure Feeds (s t : Pipeline) (sent : Option (Packet Job)) : Prop where
  holding : t.holdings.handoffReceiver = false
  receivers : t.handoff.receivers = s.handoff.receivers
  buffer : t.handoff.buffer = s.handoff.buffer ++ sent.toList
  refused : s.handoff.receivers = 0 → sent = none

theorem feeds_of_call (hholding : s.holdings.handoffReceiver = false) (c : Call) :
    Feeds s (s.call c).2 (s.sending? c) := by
  have hquiet : ∀ {t : Pipeline}, t.holdings.handoffReceiver = s.holdings.handoffReceiver →
      t.handoff.receivers = s.handoff.receivers → t.handoff.buffer = s.handoff.buffer →
      Feeds s t none := by
    intro t hheld hreceivers hbuffer
    exact ⟨hheld.trans hholding, hreceivers, hbuffer.trans (List.append_nil _).symm, fun _ => rfl⟩
  cases c with
  | send counted task work =>
      rcases s.handoff.trySend_cases s.holdings.handoffSender (.new task { work }) with
        ⟨hstatus, -, hreceivers, hhandoff⟩ | ⟨hstatus, hhandoff⟩
      · rw [sending?, if_pos hstatus]
        refine ⟨hholding, ?_, ?_, fun hnone => absurd hnone hreceivers⟩ <;> simp [call, hhandoff]
      · rw [sending?, if_neg hstatus]
        exact hquiet rfl (by simp [call, hhandoff]) (by simp [call, hhandoff])
  | record i =>
      simp only [call, sending?]
      split <;> exact hquiet rfl rfl rfl
  | takeHandoff =>
      have hnone : (s.call .takeHandoff).2.handoff = s.handoff := by
        simp [call, hholding, Receipt.ofChannel]
      exact hquiet rfl (congrArg Channel.receivers hnone) (congrArg Channel.buffer hnone)
  | dropHandoffReceiver =>
      simp only [call, hholding, Bool.false_eq_true, ↓reduceIte]
      exact hquiet rfl rfl rfl
  | shutdown | dropTransmitter | closeHandoff | closeOutbound | dropOutboundReceiver =>
      simp only [sending?]
      unfold call
      dsimp only
      split <;> exact hquiet rfl rfl rfl
  | _ => exact hquiet rfl rfl rfl

end Pipeline

namespace Crew

open Pipeline

variable {config : PipelineConfig} {capacity : Nat} {f g : Crew}

/-! ### What was sent and what was taken -/

/-- What was sent was taken or still waits, in the order in which it was sent, and whoever is in the
line waits for it. -/
structure Serves (config : PipelineConfig) (f : Crew) : Prop where
  dispatcher : f.state.dispatcher.point.isOver = true
  collector : f.state.collector.point = .absent
  holding : f.state.holdings.handoffReceiver = false
  ids : f.state.workers.map (·.id) = List.range config.workerCount
  receivers : f.state.handoff.receivers = f.state.liveWorkers
  kept : f.packets <+: f.sent
  waiting : f.state.liveWorkers ≠ 0 → f.packets ++ f.state.handoff.buffer = f.sent
  invoked : f.state.invoked = f.packets.map (·.task)
  takers : ∀ x ∈ f.taken, x.worker < config.workerCount
  line : ∀ k ∈ f.line, f.state.isIdleAt k = true

/-- Nothing is taken. -/
theorem Serves.of_frame (hf : Serves config f) {t : Pipeline}
    (hdispatcher : t.dispatcher = f.state.dispatcher) (hcollector : t.collector = f.state.collector)
    (hholding : t.holdings = f.state.holdings)
    (hids : t.workers.map (·.id) = f.state.workers.map (·.id))
    (hlive : t.liveWorkers ≤ f.state.liveWorkers)
    (hreceivers : t.handoff.receivers = t.liveWorkers)
    (hbuffer : t.liveWorkers ≠ 0 → t.handoff.buffer = f.state.handoff.buffer)
    (hinvoked : t.invoked = f.state.invoked) :
    Serves config { f with state := t, line := f.line.filter t.isIdleAt } where
  dispatcher := hdispatcher ▸ hf.dispatcher
  collector := hcollector ▸ hf.collector
  holding := hholding ▸ hf.holding
  ids := hids.trans hf.ids
  receivers := hreceivers
  kept := hf.kept
  waiting hsome := by
    have hbefore : f.state.liveWorkers ≠ 0 := fun h => hsome (Nat.le_zero.mp (h ▸ hlive))
    rw [← hf.waiting hbefore, ← hbuffer hsome]
    rfl
  invoked := hinvoked.trans hf.invoked
  takers := hf.takers
  line k hk := (List.mem_filter.mp hk).2

theorem Serves.worker (hf : Serves config f) {k : Nat} {w : Worker} {t : Pipeline}
    (hworker : f.state.workers[k]? = some w) (h : WorkerStep f.state k w t) :
    Serves config { f with
      state := t
      line := f.line.filter t.isIdleAt
      taken := f.taken ++ (f.state.take? (.act (.worker k))).toList } := by
  have hids : t.workers.map (·.id) = f.state.workers.map (·.id) :=
    congrArg Plan.workers (plan_of_workerStep hworker h)
  have hlive := h.live hworker
  have hreceivers : t.handoff.receivers = t.liveWorkers := by
    have hbefore := hf.receivers
    omega
  have hholdings : t.holdings = f.state.holdings := by
    cases h <;> simp [endWorker, crashWorker, beginWork]
  rcases h.takes_or_stays_or_ends hworker with
    ⟨p, rest, hpoint, hbuffer, htake, rfl⟩ | ⟨htake, hinvoked, point, hworkers, -, hends⟩
  · -- The packet at the front of the buffer is the first that was not taken.
    have hid : w.id < config.workerCount := by
      have hmem : w.id ∈ f.state.workers.map (·.id) :=
        List.mem_map_of_mem (List.mem_of_getElem? hworker)
      rw [hf.ids] at hmem
      exact List.mem_range.mp hmem
    have hsome : f.state.liveWorkers ≠ 0 := by
      intro hnone
      have hover := isOver_of_liveWorkers hnone w (List.mem_of_getElem? hworker)
      rw [hpoint] at hover
      cases hover
    have hwaiting := hf.waiting hsome
    rw [hbuffer] at hwaiting
    rw [htake]
    refine ⟨hf.dispatcher, hf.collector, hf.holding, hids.trans hf.ids, hreceivers, ?_, ?_, ?_, ?_,
      ?_⟩
    · rw [← hwaiting, packets, List.map_append]
      exact ⟨rest, by simp [packets]⟩
    · intro _
      rw [← hwaiting]
      simp [packets, beginWork]
    · simp [packets, beginWork, hf.invoked]
    · intro x hx
      rcases List.mem_append.mp hx with hold | hnew
      · exact hf.takers x hold
      · cases Option.mem_toList.mp hnew
        exact hid
    · exact fun j hj => (List.mem_filter.mp hj).2
  · rw [htake, Option.toList_none, List.append_nil]
    refine hf.of_frame h.frame.dispatcher h.frame.collector hholdings hids (by omega) hreceivers ?_
      hinvoked
    intro hsome
    rcases hends with ⟨-, hhandoff, -⟩ | ⟨-, hhandoff, -⟩
    · rw [hhandoff]
    · have hmany : ¬ f.state.handoff.receivers ≤ 1 := by
        simp only [hhandoff, Channel.dropReceiver] at hreceivers
        omega
      rw [hhandoff]
      simp [hmany]

theorem liveWorkers_of_executionStep {s t : Pipeline} {ticket : Nat}
    (h : ExecutionStep s ticket t) : t.liveWorkers = s.liveWorkers := by
  cases h with
  | delivered e k w task startedAt hfind hend hworker hpoint =>
      exact countAt_set_same hworker (by simp [WorkerPoint.isLive, hpoint])
  | late => rfl

/-- What can happen around a pool, where there is neither a dispatcher that goes on nor a collector. -/
inductive CrewStep (f : Crew) : Crew → Prop
  | asked (k : Nat) (hidle : f.state.isIdleAt k = true) :
      CrewStep f { f with line := f.line ++ [k] }
  | worker (k : Nat) (w : Worker) (t : Pipeline) (hworker : f.state.workers[k]? = some w)
      (h : WorkerStep f.state k w t) :
      CrewStep f { f with
        state := t
        line := f.line.filter t.isIdleAt
        taken := f.taken ++ (f.state.take? (.act (.worker k))).toList }
  | caller (t : Pipeline) (h : SupervisorStep f.state t) :
      CrewStep f { f with state := t, line := f.line.filter t.isIdleAt }
  | work (ticket : Nat) (t : Pipeline) (h : ExecutionStep f.state ticket t) :
      CrewStep f { f with state := t, line := f.line.filter t.isIdleAt }
  | called (c : Call) : CrewStep f { f with
      state := (f.state.call c).2
      sent := f.sent ++ (f.state.sending? c).toList }

theorem Serves.step (hf : Serves config f) (h : CrewStep f g) : Serves config g := by
  cases h with
  | asked k hidle =>
      refine { hf with line := fun j hj => ?_ }
      rcases List.mem_append.mp hj with hold | hnew
      · exact hf.line j hold
      · rw [List.mem_singleton.mp hnew]
        exact hidle
  | worker k w t hworker h => exact hf.worker hworker h
  | caller t h =>
      obtain ⟨supervisor, exits, metrics, log, rfl, -, -⟩ := supervisorStep_frame h
      exact hf.of_frame rfl rfl rfl rfl (Nat.le_refl _) hf.receivers (fun _ => rfl) rfl
  | work ticket t h =>
      have hids : t.workers.map (·.id) = f.state.workers.map (·.id) :=
        congrArg Plan.workers (plan_of_executionStep h)
      have hlive := liveWorkers_of_executionStep h
      have hreceivers : t.handoff.receivers = t.liveWorkers := by
        rw [hlive, ← hf.receivers]
        cases h <;> rfl
      refine hf.of_frame ?_ ?_ ?_ hids (Nat.le_of_eq hlive) hreceivers ?_ ?_ <;>
        cases h <;> first | rfl | exact fun _ => rfl
  | called c =>
      have hframe := stagesFrame_of_call f.state c
      have hfeeds := feeds_of_call hf.holding c
      have hlive : (f.state.call c).2.liveWorkers = f.state.liveWorkers :=
        liveWorkers_congr hframe.workers
      refine ⟨?_, ?_, hfeeds.holding, ?_, ?_, ?_, ?_, ?_, hf.takers, ?_⟩
      · rw [hframe.dispatcher, hf.dispatcher]
      · rw [hframe.collector, hf.collector]
      · rw [hframe.workers, hf.ids]
      · rw [hfeeds.receivers, hf.receivers, hlive]
      · exact hf.kept.trans (List.prefix_append _ _)
      · intro hsome
        rw [hfeeds.buffer, ← hf.waiting (hlive ▸ hsome), List.append_assoc]
        rfl
      · rw [hframe.invoked, hf.invoked]
        rfl
      · intro k hk
        rw [isIdleAt, hframe.workers]
        exact hf.line k hk

/-- The caller has heard of every worker that has ended, or is still to hear of it, and returns when
there is none left. -/
structure Joins (s : Pipeline) : Prop where
  wholeRun : s.supervisor.wholeRun = false
  point : s.supervisor.point = .workers ∨
    s.supervisor.point = .done ∧ s.exits = [] ∧ s.allWorkersEnded = true
  crashed : ∀ k w message, s.workers[k]? = some w → w.point = .crashed message →
    k ∈ s.exits ∨ s.supervisor.panics.workers ≠ []
  failed : s.supervisor.panics.workers ≠ [] → ∃ w ∈ s.workers, ∃ message, w.point = .crashed message

variable {s t : Pipeline}

theorem Joins.supervisorStep (hs : Joins s) (h : SupervisorStep s t) : Joins t := by
  cases h with
  | sawCollector _ hpoint | sawDispatcher hpoint | sawDispatcherCrash _ hpoint =>
      rcases hs.point with h | ⟨h, -⟩ <;> rw [hpoint] at h <;> cases h
  | joined k rest hpoint hexits =>
      -- The end that is heard of is the first of those that were not, and a crash is a failure.
      have hstill : ∀ {u : Pipeline}, u.supervisor.point = s.supervisor.point →
          u.supervisor.wholeRun = s.supervisor.wholeRun → u.workers = s.workers → u.exits = rest →
          (u.supervisor.panics.workers ≠ [] ∨
            u.supervisor.panics.workers = s.supervisor.panics.workers ∧
              ∀ w message, s.workers[k]? = some w → w.point ≠ .crashed message) →
          (u.supervisor.panics.workers ≠ [] →
            ∃ w ∈ s.workers, ∃ message, w.point = .crashed message) → Joins u := by
        intro u hupoint hwhole hworkers hrest hheard hfailed
        refine ⟨hwhole.trans hs.wholeRun, .inl (hupoint.trans hpoint), ?_, ?_⟩
        · rw [hworkers, hrest]
          intro j w message hw hcrashed
          rcases hheard with hsome | ⟨hsame, hfine⟩
          · exact .inr hsome
          · rw [hsame]
            refine (hs.crashed j w message hw hcrashed).imp_left fun hj => ?_
            rw [hexits] at hj
            refine (List.mem_cons.mp hj).resolve_left ?_
            rintro rfl
            exact hfine w message hw hcrashed
        · rw [hworkers]
          exact hfailed
      unfold joinWorker
      split
      next id message hw =>
        exact hstill rfl rfl rfl rfl (.inl (by simp))
          fun _ => ⟨_, List.mem_of_getElem? hw, message, rfl⟩
      next w hfine hw =>
        refine hstill rfl rfl rfl rfl (.inr ⟨rfl, fun v message hv hpoint => ?_⟩) hs.failed
        obtain ⟨id, point⟩ := v
        cases (show point = .crashed message from hpoint)
        exact hfine id message (Option.some.inj (hw.symm.trans hv))
      next hnone =>
        refine hstill rfl rfl rfl rfl (.inr ⟨rfl, fun v message hv => ?_⟩) hs.failed
        exact absurd (hnone.symm.trans hv) nofun
  | returned hpoint hexits hworkers =>
      have hend : s.endSupervisor = s.setSupervisor .done := by
        simp [endSupervisor, hs.wholeRun]
      rw [hend]
      exact ⟨hs.wholeRun, .inr ⟨rfl, hexits, hworkers⟩, hs.crashed, hs.failed⟩

theorem Joins.of_frame (hs : Joins s) (hsupervisor : t.supervisor = s.supervisor)
    (hworkers : t.workers = s.workers) (hexits : t.exits = s.exits) : Joins t := by
  refine ⟨hsupervisor ▸ hs.wholeRun, ?_, ?_, ?_⟩
  · rw [hsupervisor, hexits, allWorkersEnded, hworkers]
    exact hs.point
  · rw [hworkers, hexits, hsupervisor]
    exact hs.crashed
  · rw [hworkers, hsupervisor]
    exact hs.failed

/-- A packet of this task and this work was taken. -/
def HasTaken (f : Crew) (p : Packet Job) : Prop :=
  ∃ q ∈ f.packets, q.task = p.task ∧ q.item.work = p.item.work

/-- How many packets were sent that panic when they are dropped. -/
def fragileSent (f : Crew) : Nat :=
  f.sent.countP (·.item.work.panicsWhenDropped)

/-- Every packet in the hands of a worker was taken, a worker that has crashed has dropped a packet that
panics at that, and two such packets are behind the end of the process. -/
structure Sourced (f : Crew) : Prop where
  running : ∀ e ∈ f.state.executions, f.HasTaken e.packet
  returned : ∀ w ∈ f.state.workers, ∀ p, w.point.result? = some p → f.HasTaken p
  crashed : ∀ w ∈ f.state.workers, ∀ message, w.point = .crashed message →
    ∃ p ∈ f.sent, p.item.work.panicsWhenDropped = true ∧ message = droppedMessage p
  aborted : f.state.aborted = true → 2 ≤ f.fragileSent

theorem HasTaken.mono {p : Packet Job} (h : f.HasTaken p) (hgrows : f.packets <+: g.packets) :
    g.HasTaken p := by
  obtain ⟨q, hq, hsame⟩ := h
  exact ⟨q, hgrows.subset hq, hsame⟩

theorem HasTaken.exists_fragile {p : Packet Job} (h : f.HasTaken p)
    (hpanics : p.item.work.panicsWhenDropped = true) :
    ∃ q ∈ f.packets, q.item.work.panicsWhenDropped = true ∧ droppedMessage p = droppedMessage q := by
  obtain ⟨q, hq, htask, hwork⟩ := h
  exact ⟨q, hq, hwork ▸ hpanics, by rw [droppedMessage, droppedMessage, htask]⟩

/-- What a live worker drops when it ends was sent: what it held was taken, and what is left waited. -/
theorem Sourced.dropped (hf : Sourced f) (hserves : Serves config f) {w : Worker}
    (hw : w ∈ f.state.workers) (hlive : f.state.liveWorkers ≠ 0) {t : Pipeline} {point : WorkerPoint}
    {own lost : List (Packet Job)} (h : WorkerDrops f.state t w point own lost) :
    (∀ message, point = .crashed message →
      ∃ p ∈ f.sent, p.item.work.panicsWhenDropped = true ∧ message = droppedMessage p) ∧
    (t.aborted = true → 2 ≤ f.fragileSent) := by
  have hwaiting := hserves.waiting hlive
  have hheld : ∀ p ∈ own, f.HasTaken p := fun p hp =>
    hf.returned w hw p (Option.mem_toList.mp (h.held.subset hp))
  refine ⟨fun message hcrashed => ?_, fun haborted => ?_⟩
  · obtain ⟨p, hp, hpanics, rfl⟩ := exists_of_dropPanic? (h.crashed message hcrashed)
    rw [← hwaiting]
    rcases List.mem_append.mp hp with hown | hlost
    · obtain ⟨q, hq, hfragile, hmessage⟩ := (hheld p hown).exists_fragile hpanics
      exact ⟨q, List.mem_append_left _ hq, hfragile, hmessage⟩
    · exact ⟨p, List.mem_append_right _ (h.left.subset hlost), hpanics, rfl⟩
  · rcases h.aborted haborted with hbefore | hnow
    · exact hf.aborted hbefore
    · -- A worker holds one packet at most, and a fragile one is among those that were taken.
      rw [dropAborts, decide_eq_true_iff, List.countP_append] at hnow
      have hleft : lost.countP (·.item.work.panicsWhenDropped) ≤
          f.state.handoff.buffer.countP (·.item.work.panicsWhenDropped) := h.left.countP_le
      have hone : own.countP (·.item.work.panicsWhenDropped) ≤
          f.packets.countP (·.item.work.panicsWhenDropped) := by
        rcases Nat.eq_zero_or_pos (own.countP (·.item.work.panicsWhenDropped)) with hnone | hsome
        · rw [hnone]
          exact Nat.zero_le _
        · obtain ⟨p, hp, hpanics⟩ := List.countP_pos_iff.mp hsome
          obtain ⟨q, hq, hfragile, -⟩ := (hheld p hp).exists_fragile hpanics
          calc own.countP (·.item.work.panicsWhenDropped) ≤ own.length := List.countP_le_length
            _ ≤ w.point.result?.toList.length := h.held.length_le
            _ ≤ 1 := Option.length_toList_le
            _ ≤ f.packets.countP (·.item.work.panicsWhenDropped) :=
              List.countP_pos_iff.mpr ⟨q, hq, hfragile⟩
      rw [fragileSent, ← hwaiting, List.countP_append]
      omega

theorem Sourced.worker (hf : Sourced f) (hserves : Serves config f) (hlinked : Linked f.state) {k : Nat}
    {w : Worker} {t : Pipeline} (hworker : f.state.workers[k]? = some w)
    (h : WorkerStep f.state k w t) :
    Sourced { f with
      state := t
      line := f.line.filter t.isIdleAt
      taken := f.taken ++ (f.state.take? (.act (.worker k))).toList } := by
  have hw := List.mem_of_getElem? hworker
  have hgrows : f.packets <+:
      (f.taken ++ (f.state.take? (.act (.worker k))).toList).map (·.packet) := by
    rw [List.map_append]
    exact List.prefix_append _ _
  have hsome : f.state.liveWorkers ≠ 0 := by
    intro hnone
    have hlive := h.isLive
    rw [WorkerPoint.isLive, isOver_of_liveWorkers hnone w hw] at hlive
    cases hlive
  obtain ⟨point, own, lost, hworkers, hdrops⟩ := h.drops hlinked hworker
  obtain ⟨hcrashed, haborted⟩ := hf.dropped hserves hw hsome hdrops
  refine ⟨?_, ?_, ?_, haborted⟩
  · intro e he
    rcases h.takes_or_stays_or_ends hworker with
      ⟨p, rest, -, -, htake, rfl⟩ | ⟨-, hinvoked, -⟩
    · rcases List.mem_append.mp he with hold | hnew
      · exact (hf.running e hold).mono hgrows
      · refine ⟨p, ?_, ?_⟩
        · rw [packets, htake, List.map_append]
          exact List.mem_append_right _ (List.mem_singleton_self _)
        · rw [List.mem_singleton.mp hnew]
          exact ⟨rfl, rfl⟩
    · rcases h.begins_or_rests with ⟨p, rest, -, rfl⟩ | ⟨hexecutions, -⟩
      · simp [beginWork] at hinvoked
      · exact (hf.running e (hexecutions ▸ he)).mono hgrows
  · obtain ⟨point', hworkers', hresult⟩ := h.result.1
    intro v hv p hp
    rw [hworkers'] at hv
    rcases List.mem_or_eq_of_mem_set hv with hold | rfl
    · exact (hf.returned v hold p hp).mono hgrows
    · exact (hf.returned w hw p (hresult p hp)).mono hgrows
  · intro v hv message hpoint
    rw [hworkers] at hv
    rcases List.mem_or_eq_of_mem_set hv with hold | rfl
    · exact hf.crashed v hold message hpoint
    · exact hcrashed message hpoint

theorem Sourced.work (hf : Sourced f) {ticket : Nat} {t : Pipeline}
    (h : ExecutionStep f.state ticket t) :
    Sourced { f with state := t, line := f.line.filter t.isIdleAt } := by
  cases h with
  | delivered e k w task startedAt hfind hend hworker hpoint =>
      refine ⟨fun x hx => hf.running x (List.mem_of_mem_eraseP hx), ?_, ?_, hf.aborted⟩
      · intro v hv p hp
        rcases List.mem_or_eq_of_mem_set hv with hold | rfl
        · exact hf.returned v hold p hp
        · have hrun := hf.running e (List.mem_of_find?_eq_some hfind)
          cases hpanics : e.packet.item.work.panics <;>
            simp [WorkerPoint.result?, outcomeOf, hpanics, Outcome.packet?] at hp
          rw [← hp]
          exact hrun
      · intro v hv message hcrashed
        rcases List.mem_or_eq_of_mem_set hv with hold | rfl
        · exact hf.crashed v hold message hcrashed
        · cases hcrashed
  | late => exact ⟨fun x hx => hf.running x (List.mem_of_mem_eraseP hx), hf.returned, hf.crashed, hf.aborted⟩

theorem Sourced.called (hf : Sourced f) (c : Call) :
    Sourced { f with
      state := (f.state.call c).2
      sent := f.sent ++ (f.state.sending? c).toList } := by
  have hframe := stagesFrame_of_call f.state c
  refine ⟨?_, ?_, ?_, ?_⟩
  · rw [hframe.executions]
    exact hf.running
  · rw [hframe.workers]
    exact hf.returned
  · rw [hframe.workers]
    intro w hw message hpoint
    obtain ⟨p, hp, hblamed⟩ := hf.crashed w hw message hpoint
    exact ⟨p, List.mem_append_left _ hp, hblamed⟩
  · intro haborted
    have hbefore := hf.aborted (hframe.aborted ▸ haborted)
    rw [fragileSent, List.countP_append]
    exact Nat.le_trans hbefore (Nat.le_add_right _ _)

/-- What keeps a worker of a settled pool from going on. It cannot be that another worker holds the
receiver while there is something to receive: the first of the line would take it. -/
theorem Serves.settled (hf : Serves config f) (hsettled : f.IsSettled) {k : Nat} {w : Worker}
    (hworker : f.state.workers[k]? = some w) :
    w.point.isOver = true ∨
      f.state.signal.isShutdown = false ∧
        (w.point = .idle ∧ f.state.handoff.buffer = [] ∧ f.state.handoff.senders ≠ 0 ∨
          f.state.IsHeldUp w.point) := by
  have hblocked : ∀ j, f.mayAct (.worker j) = true → f.state.step (.worker j) = none := by
    intro j hmay
    have hnone := (hsettled j).2
    rwa [move, if_pos hmay, Option.map_eq_none_iff] at hnone
  by_cases hmay : f.mayAct (.worker k) = true
  · rcases worker_blocked hworker (hblocked k hmay) with hover | ⟨hopen, hidle | hrun | hforward⟩
    · exact .inl hover
    · exact .inr ⟨hopen, .inl hidle⟩
    · obtain ⟨ticket, task, startedAt, hpoint, htime⟩ := hrun
      exact .inr ⟨hopen, .inr (hpoint ▸ htime)⟩
    · obtain ⟨p, hpoint, hroom⟩ := hforward
      exact .inr ⟨hopen, .inr (hpoint ▸ hroom)⟩
  · -- The worker waits in the line, and the first of the line finds nothing.
    simp only [mayAct, Bool.or_eq_true, Bool.not_eq_true', not_or, Bool.not_eq_false] at hmay
    obtain ⟨⟨hopen, hidle⟩, -⟩ := hmay
    have hline : k ∈ f.line := by
      by_contra hout
      have hask := (hsettled k).1
      rw [move, if_pos (by simp [mayAsk, hopen, hidle, hout])] at hask
      cases hask
    obtain ⟨j, rest, hfirst⟩ := List.exists_cons_of_ne_nil (List.ne_nil_of_mem hline)
    have hstuck := hblocked j (by simp [mayAct, hfirst])
    have hfirstIdle := hf.line j (by rw [hfirst]; exact List.mem_cons_self)
    obtain ⟨v, hv, hvidle⟩ := (Option.any_eq_true _ _).mp hfirstIdle
    have hpoint : w.point = .idle := by
      rw [isIdleAt, hworker] at hidle
      exact Schedule.eq_idle_of_isIdle hidle
    rcases worker_blocked hv hstuck with hover | ⟨hsignal, hfirstBlocked⟩
    · rw [Schedule.eq_idle_of_isIdle hvidle] at hover
      cases hover
    · rw [Schedule.eq_idle_of_isIdle hvidle] at hfirstBlocked
      rcases hfirstBlocked with ⟨-, hbuffer, hsenders⟩ | ⟨_, _, _, h, -⟩ | ⟨_, h, -⟩
      · exact .inr ⟨hsignal, .inl ⟨hpoint, hbuffer, hsenders⟩⟩
      · cases h
      · cases h

/-! ### Cancelling and joining -/

@[simp] theorem joinWorker_workers (k : Nat) (s : Pipeline) :
    (s.joinWorker k).workers = s.workers := by
  unfold joinWorker
  split <;> rfl

@[simp] theorem joinWorker_exits (k : Nat) (s : Pipeline) : (s.joinWorker k).exits = s.exits := by
  unfold joinWorker
  split <;> rfl

theorem move_supervisor {t : Pipeline} (h : f.state.step .supervisor = some t) :
    f.move (.act .supervisor) = some { f with state := t, line := f.line.filter t.isIdleAt } := by
  simp [move, mayAct, take?, h]

/-- When every worker has ended, the caller comes to its answer by itself. -/
theorem Joins.returns (hf : Joins f.state) (hended : f.state.allWorkersEnded = true) :
    ∃ n g, followBy move (List.replicate n (.act .supervisor)) f = some g ∧
      g.state.workers = f.state.workers ∧ ∀ around, ∃ outcome, g.state.poolEnding? around = some outcome := by
  -- By induction on the workers that the caller has still to hear of.
  induction hexits : f.state.exits generalizing f with
  | nil =>
      by_cases hdone : f.state.supervisor.point = .done
      · have hover : f.state.isOver = true := by simp [isOver, hdone]
        exact ⟨0, f, rfl, rfl, fun around => ⟨_, if_pos hover⟩⟩
      · have hpoint := hf.point.resolve_right fun h => hdone h.1
        have hstep : f.state.step .supervisor = some f.state.endSupervisor := by
          simp [Pipeline.step, stepSupervisor, hpoint, hexits, hended]
        have hover : f.state.endSupervisor.isOver = true := by simp [isOver, endSupervisor]
        have hfollow := congrArg (Option.bind · (followBy move [])) (move_supervisor hstep)
        refine ⟨1, _, hfollow, ?_, fun around => ⟨_, if_pos hover⟩⟩
        simp [endSupervisor, hf.wholeRun]
  | cons k rest ih =>
      have hpoint := hf.point.resolve_right fun h => by
        rw [hexits] at h
        cases h.2.1
      have hstep : f.state.step .supervisor = some ({ f.state with exits := rest }.joinWorker k) := by
        simp [Pipeline.step, stepSupervisor, hpoint, hexits]
      have hworkers : ({ f.state with exits := rest }.joinWorker k).workers = f.state.workers :=
        joinWorker_workers k _
      obtain ⟨n, g, hfollow, hg, hending⟩ :=
        ih (f := { f with
          state := { f.state with exits := rest }.joinWorker k
          line := f.line.filter ({ f.state with exits := rest }.joinWorker k).isIdleAt })
          (hf.supervisorStep (.joined k rest hpoint hexits))
          (by rwa [allWorkersEnded, hworkers]) (joinWorker_exits k _)
      refine ⟨n + 1, g, ?_, hg.trans hworkers, hending⟩
      rw [List.replicate_succ, followBy, move_supervisor hstep]
      exact hfollow

/-! ### First come, first served -/

end Crew

end Fanout
