import Fanout.Proofs.Pipeline.Crew
import Fanout.Proofs.Pipeline.Metrics

/-!
Timers. A worker counts from the moment at which it took its packet, and a collector in its loop knows
when its next tick is due. Whatever is done from outside and however far the clock jumps, no timer is
overdue once the stages have settled (`no_timer_overdue`): the deadline of what a worker waits for is
still to come, the next tick is at most an interval away, and counters that are finished when the clock
reaches the tick have ended the collection.
-/

namespace Fanout

/-- The last thing that a worker took. -/
def latestTake? (worker : Nat) (taken : List Take) : Option Take :=
  taken.reverse.find? (·.worker = worker)

theorem latestTake?_append (worker : Nat) (taken : List Take) (x : Take) :
    latestTake? worker (taken ++ [x]) =
      if x.worker = worker then some x else latestTake? worker taken := by
  simp only [latestTake?, List.reverse_append, List.reverse_singleton, List.singleton_append,
    List.find?_cons]
  split <;> simp_all

/-- When the next tick of a collector in its loop is due. -/
def CollectorPoint.nextTick? : CollectorPoint → Option Nat
  | .receiving due | .accepting _ due | .counted _ due | .ticking due => some due
  | _ => none

/-- The collector is in its loop or comes to it, and it has still to look whether the run is over before
it can wait. -/
def CollectorPoint.tickIsDue (now : Nat) : CollectorPoint → Bool
  | .starting | .ticking _ => true
  | .receiving due | .accepting _ due | .counted _ due => due ≤ now
  | _ => false

/-- A tick that was heard is followed by one within an interval. -/
theorem Collector.tickAfter_le {c : Collector} {due now : Nat} (h : due ≤ now) :
    c.tickAfter due now ≤ now + c.tickIntervalMs := by
  unfold tickAfter
  split <;> omega

theorem Collector.isFinished_iff {counters : Counters} {c : Collector} :
    c.isFinished counters = true ↔
      (c.mode = .gracefulDrain ∨ counters.supplyExhausted = true) ∧
        counters.want ≤ counters.received ∧ counters.sent ≤ counters.received := by
  simp [isFinished, Counters.isDrained]

/-- What can happen next in a session: an actor takes a step, or a call is made from outside. -/
inductive SessionMove
  | act (a : Actor)
  | call (c : Call)
  deriving DecidableEq, Repr

/-- The moves of a run are moves of a session. -/
def SessionMove.ofMove : Move → SessionMove
  | .act a => .act a
  | .advance ms => .call (.advance ms)
  | .release task => .call (.release task)

/-- A system that is driven from outside, with what its workers took, in this order. -/
structure Session where
  state : Pipeline
  taken : List Take := []

namespace Pipeline

variable {s t : Pipeline}

/-- A collector in its loop that cannot go on waits for a tick that is still to come. -/
theorem collector_waits (hcollecting : s.collector.point.isCollecting = true)
    (h : s.step .collector = none) :
    ∃ due, s.collector.point = .receiving due ∧ s.now < due := by
  change s.stepCollector = none at h
  unfold stepCollector at h
  cases hpoint : s.collector.point <;> simp only [hpoint] at h hcollecting
  case receiving due =>
    refine ⟨due, rfl, Nat.lt_of_not_le fun hdue => ?_⟩
    split at h
    next => cases h
    next =>
      split at h
      next => cases h
      next => split at h <;> cases h
  case starting | ticking | counted => split at h <;> cases h
  case accepting => cases h
  all_goals cases hcollecting

/-! ### A tick that finds the run finished -/

/-- The collection is over, or it will be when the collector looks. -/
def Leaving (s : Pipeline) : Prop :=
  s.collector.point.isCollecting = false ∨
    s.collector.point.tickIsDue s.now = true ∧ s.collector.isFinished s.counters = true

/-- A collector that is leaving has left when it cannot go on. -/
theorem Leaving.left (hs : Leaving s) (h : s.step .collector = none) :
    s.collector.point.isCollecting = false := by
  rcases hs with hleft | ⟨hdue, -⟩
  · exact hleft
  · by_contra hcollecting
    obtain ⟨due, hpoint, hlater⟩ := collector_waits (eq_true_of_ne_false hcollecting) h
    rw [hpoint] at hdue
    exact absurd (of_decide_eq_true hdue) (Nat.not_le_of_lt hlater)

/-- Fewer tasks to wait for and more results do not make a finished run unfinished. -/
theorem Leaving.mono (hs : Leaving s) (hmode : t.collector.mode = s.collector.mode)
    (hwant : t.counters.want ≤ s.counters.want) (hsent : t.counters.sent ≤ s.counters.sent)
    (hreceived : s.counters.received ≤ t.counters.received)
    (hexhausted : s.counters.supplyExhausted = true → t.counters.supplyExhausted = true)
    (hleft : s.collector.point.isCollecting = false → t.collector.point.isCollecting = false)
    (hdue : s.collector.point.tickIsDue s.now = true →
      t.collector.point.tickIsDue t.now = true) : Leaving t := by
  refine hs.imp hleft fun ⟨hbefore, hfinished⟩ => ⟨hdue hbefore, ?_⟩
  rw [Collector.isFinished_iff] at hfinished ⊢
  rw [hmode]
  exact ⟨hfinished.1.imp_right hexhausted, by omega, by omega⟩

/-- A step of the collector. -/
theorem Leaving.collectorStep (hs : Leaving s) (h : CollectorStep s t) : Leaving t := by
  have hlooks : ∀ {point : CollectorPoint}, s.collector.point = point → point.isCollecting = true →
      s.collector.point.isCollecting = false → t.collector.point.isCollecting = false := by
    intro point hpoint hcollecting hleft
    rw [hpoint, hcollecting] at hleft
    cases hleft
  cases h with
  | sated | interrupted | deserted | drained | reached | closedPausing | closed | woke =>
      exact .inl rfl
  | reported => exact .inl (CollectorPoint.isCollecting_afterDropping _ _)
  | began hpoint =>
      exact hs.mono rfl (Nat.le_refl _) (Nat.le_refl _) (Nat.le_refl _) id (hlooks hpoint rfl)
        fun _ => by simp [CollectorPoint.tickIsDue]
  | took p rest due hpoint =>
      exact hs.mono rfl (Nat.le_refl _) (Nat.le_refl _) (Nat.le_refl _) id (hlooks hpoint rfl)
        fun hdue => by rwa [hpoint] at hdue
  | ticked due hpoint =>
      exact hs.mono rfl (Nat.le_refl _) (Nat.le_refl _) (Nat.le_refl _) id (hlooks hpoint rfl)
        fun _ => rfl
  | undrained due hpoint hunfinished =>
      have hstays := hs.resolve_left (by rw [hpoint]; exact Bool.noConfusion)
      rw [hunfinished] at hstays
      cases hstays.2
  | accepted p due hpoint =>
      exact hs.mono rfl (Nat.le_refl _) (Nat.le_refl _) (Nat.le_succ _) id (hlooks hpoint rfl)
        fun hdue => by rwa [hpoint] at hdue
  | continued seen due hpoint =>
      have hlooks := hlooks hpoint rfl
      obtain ⟨log, heq, -⟩ := stopWhenEnough_eq seen s
      rw [heq] at hlooks ⊢
      refine hs.mono rfl (Nat.le_of_eq ?_) (Nat.le_of_eq ?_) (Nat.le_of_eq ?_) (fun h => ?_) hlooks
        fun hdue => by rwa [hpoint] at hdue
      all_goals
        simp only [setCollector]
        split <;> first | rfl | exact h

/-- How many dispatches were counted, whatever became of the tasks. -/
def dispatches (s : Pipeline) : Nat :=
  s.metrics.count .dispatched

/-- Only a dispatch keeps a collector that is leaving. -/
theorem Leaving.step {a : Actor} (hs : Leaving s) (h : s.step a = some t) :
    Leaving t ∨ s.dispatcher.point.isOver = false ∧ s.dispatches < t.dispatches := by
  have hmove : s.move (.act a) = some t := h
  cases moveBy_of_move hmove with
  | dispatcher h =>
      have hframe := h.frame
      have hstays : t.counters.want ≤ s.counters.want → t.counters.sent ≤ s.counters.sent →
          (s.counters.supplyExhausted = true → t.counters.supplyExhausted = true) → Leaving t := by
        intro hwant hsent hexhausted
        refine hs.mono ?_ hwant hsent (Nat.le_of_eq hframe.received.symm) hexhausted ?_ ?_
        · rw [hframe.collector]
        · rw [hframe.collector]
          exact id
        · rw [hframe.collector, hframe.now]
          exact id
      cases h with
      | counted i p hpoint =>
          refine .inr ⟨by rw [hpoint]; rfl, ?_⟩
          simp [dispatches]
      | exhausted => exact .inl (hstays (Nat.zero_le _) (Nat.le_refl _) fun _ => rfl)
      | _ => exact .inl (hstays (Nat.le_refl _) (Nat.le_refl _) id)
  | worker k w hworker h =>
      have hframe := h.frame
      refine .inl (hs.mono ?_ (Nat.le_of_eq hframe.want) ?_ (Nat.le_of_eq hframe.received.symm) ?_ ?_
        ?_)
      · rw [hframe.collector]
      · rcases h.counters with ⟨hcounters, -⟩ | ⟨_, -, hcounters, -⟩
        · exact Nat.le_of_eq (congrArg Counters.sent hcounters)
        · rw [hcounters]
          exact Nat.sub_le _ _
      · rw [hframe.supplyExhausted]
        exact id
      · rw [hframe.collector]
        exact id
      · rw [hframe.collector, hframe.now]
        exact id
  | collector h => exact .inl (hs.collectorStep h)
  | supervisor h =>
      obtain ⟨supervisor, exits, metrics, log, rfl, -, -⟩ := supervisorStep_frame h
      exact .inl hs
  | execution ticket h => cases h <;> exact .inl hs

/-- Dispatches stay counted, and a dispatcher that has ended stays so. -/
theorem dispatches_of_step {a : Actor} (h : s.step a = some t) : s.dispatches ≤ t.dispatches ∧
    (s.dispatcher.point.isOver = true → t.dispatcher.point.isOver = true) := by
  have hgrows : ∀ {more}, t.metrics = s.metrics ++ more → s.dispatches ≤ t.dispatches := by
    intro more hmore
    rw [dispatches, dispatches, hmore, List.count_append]
    exact Nat.le_add_right _ _
  have hmove : s.move (.act a) = some t := h
  cases moveBy_of_move hmove with
  | dispatcher h =>
      refine ⟨?_, fun hover => ?_⟩
      · rcases h.counting_cases with ⟨_, _, -, -, -, hmetrics⟩ | ⟨-, -, hmetrics⟩
        · exact hgrows hmetrics
        · exact Nat.le_of_eq (by rw [dispatches, dispatches, hmetrics])
      · rw [h.isOver] at hover
        cases hover
  | worker k w hworker h => exact ⟨hgrows h.metrics.1, h.frame.dispatcher ▸ id⟩
  | collector h =>
      refine ⟨?_, h.frame.dispatcher ▸ id⟩
      rcases h.metrics with ⟨hmetrics, -⟩ | ⟨_, hmetrics, -⟩
      · exact Nat.le_of_eq (by rw [dispatches, dispatches, hmetrics])
      · exact hgrows hmetrics
  | supervisor h =>
      refine ⟨?_, ?_⟩
      · by_cases hwhole : s.supervisor.wholeRun = true
        · exact hgrows (h.metrics hwhole).2
        · refine Nat.le_of_eq ?_
          cases h <;> simp [dispatches, afterDispatcher_eq, endSupervisor, hwhole]
      · obtain ⟨supervisor, exits, metrics, log, rfl, -, -⟩ := supervisorStep_frame h
        exact id
  | execution ticket h => cases h <;> exact ⟨Nat.le_refl _, id⟩

end Pipeline

namespace Session

open Pipeline

/-- What a session begins with, and what it can be driven by: a whole run, which keeps its counters, its
channels and its signal to itself, a pool alone or a collector alone. -/
inductive Drives (config : PipelineConfig) : Pipeline → List SessionMove → Prop
  | run (jobs : List Job) (moves : List Move) : Drives config (ofRun config jobs) (moves.map .ofMove)
  | pool (capacity : Nat) (moves : List SessionMove) : Drives config (ofPool config capacity) moves
  | collector (capacity : Nat) (moves : List SessionMove) :
      Drives config (ofCollector config capacity) moves

def move : SessionMove → Session → Option Session
  | .act a, f => (f.state.step a).map fun t =>
      { f with state := t, taken := f.taken ++ (f.state.take? (.act a)).toList }
  | .call c, f => some { f with state := (f.state.call c).2 }

variable {config : PipelineConfig} {f g : Session}

/-- Workers that wait for a work know when they took it, and the collector knows when its next tick is
due. -/
structure OnTime (config : PipelineConfig) (f : Session) : Prop where
  linked : Linked f.state
  ids : f.state.plan.workers.Nodup
  timeout : f.state.plan.workers = [] ∨ f.state.plan.taskTimeoutMs = config.taskTimeoutMs
  interval : f.state.collector.point = .absent ∨
    f.state.plan.tickIntervalMs = config.tickIntervalMs
  begun : ∀ w ∈ f.state.workers, ∀ ticket task startedAt outcome,
    w.point = .executing ticket task startedAt outcome →
      ∃ p, p.task = task ∧ latestTake? w.id f.taken = some ⟨w.id, p, startedAt⟩
  ticks : ∀ due, f.state.collector.point.nextTick? = some due →
    due ≤ f.state.now + config.tickIntervalMs

theorem onTime_start {s : Pipeline} {moves : List SessionMove} (hdrives : Drives config s moves) :
    OnTime config { state := s } := by
  have hidle : ∀ ids : List Nat, ∀ w ∈ ids.map fun id => ({ id } : Worker),
      ∀ ticket task startedAt outcome, w.point ≠ .executing ticket task startedAt outcome := by
    intro ids w hw ticket task startedAt outcome hpoint
    obtain ⟨id, -, rfl⟩ := List.mem_map.mp hw
    cases hpoint
  have hids : (((List.range config.workerCount).map fun id => ({ id } : Worker)).map (·.id)).Nodup := by
    simpa [Function.comp_def] using List.nodup_range
  cases hdrives with
  | run jobs =>
      exact ⟨⟨nofun, fun w hw _ _ _ _ h => absurd h (hidle _ w hw _ _ _ _)⟩,
        hids, .inr rfl, .inr rfl,
        fun w hw _ _ _ _ h => absurd h (hidle _ w hw _ _ _ _), nofun⟩
  | pool capacity =>
      exact ⟨⟨nofun, fun w hw _ _ _ _ h => absurd h (hidle _ w hw _ _ _ _)⟩,
        hids, .inr rfl, .inl rfl,
        fun w hw _ _ _ _ h => absurd h (hidle _ w hw _ _ _ _), nofun⟩
  | collector capacity =>
      exact ⟨⟨nofun, nofun⟩, List.nodup_nil, .inl rfl, .inr rfl, nofun, nofun⟩

/-- A worker that waits for a work goes on with the one that it took last. -/
theorem OnTime.begun_of_workerStep (hf : OnTime config f) {k : Nat} {w : Worker} {t : Pipeline}
    (hworker : f.state.workers[k]? = some w) (h : WorkerStep f.state k w t) :
    ∀ v ∈ t.workers, ∀ ticket task startedAt outcome,
      v.point = .executing ticket task startedAt outcome →
        ∃ p, p.task = task ∧
          latestTake? v.id (f.taken ++ (f.state.take? (.act (.worker k))).toList) =
            some ⟨v.id, p, startedAt⟩ := by
  intro v hv ticket task startedAt outcome hpoint
  obtain ⟨j, hj⟩ := List.mem_iff_getElem?.mp hv
  rcases h.takes_or_stays_or_ends hworker with
    ⟨p, rest, -, -, htake, rfl⟩ | ⟨htake, -, point, hworkers, hrests, -⟩
  · rw [htake, Option.toList_some, latestTake?_append]
    rcases getElem?_set_cases hj with ⟨rfl, rfl⟩ | ⟨hjk, hold⟩
    · cases hpoint
      exact ⟨p, rfl, if_pos rfl⟩
    · have hother : w.id ≠ v.id := by
        intro heq
        have hsame : f.state.plan.workers[j]? = f.state.plan.workers[k]? := by
          simp [plan, List.getElem?_map, hold, hworker, heq]
        have hlt : j < f.state.plan.workers.length := by
          simpa [plan] using (List.getElem?_eq_some_iff.mp hold).1
        exact hjk ((List.getElem?_inj hlt hf.ids).mp hsame)
      rw [if_neg hother]
      exact hf.begun v (List.mem_of_getElem? hold) _ _ _ _ hpoint
  · rw [htake, Option.toList_none, List.append_nil]
    rw [hworkers] at hj
    rcases getElem?_set_cases hj with ⟨rfl, rfl⟩ | ⟨-, hold⟩
    · exact absurd hpoint (hrests _ _ _ _)
    · exact hf.begun v (List.mem_of_getElem? hold) _ _ _ _ hpoint

/-- The next tick of a collector in its loop is at most an interval away. -/
theorem OnTime.ticks_of_collectorStep (hf : OnTime config f) {t : Pipeline}
    (h : CollectorStep f.state t) :
    ∀ due, t.collector.point.nextTick? = some due → due ≤ t.now + config.tickIntervalMs := by
  intro due hdue
  -- A collector that keeps its next tick kept it before; the others count from now.
  have hkept : f.state.collector.point.nextTick? = some due →
      t.now = f.state.now → due ≤ t.now + config.tickIntervalMs := by
    intro hbefore hnow
    rw [hnow]
    exact hf.ticks due hbefore
  have hinterval : f.state.collector.point ≠ .absent →
      f.state.collector.tickIntervalMs = config.tickIntervalMs := hf.interval.resolve_left
  cases h with
  | sated | interrupted | deserted | drained | reached | closedPausing | closed | woke => cases hdue
  | reported exit =>
      have hnone : (CollectorPoint.afterDropping exit f.state.outbound.lostWithReceiver).nextTick? = none :=
        CollectorPoint.apply_afterDropping CollectorPoint.nextTick? rfl (fun _ => rfl) _
      cases hnone.symm.trans hdue
  | began =>
      cases hdue
      exact Nat.le_add_right _ _
  | took p rest next hpoint | undrained next hpoint | accepted p next hpoint =>
      exact hkept (by rw [hpoint]; exact hdue) rfl
  | continued seen next hpoint =>
      obtain ⟨log, heq, -⟩ := stopWhenEnough_eq seen f.state
      rw [heq] at hdue hkept ⊢
      exact hkept (by rw [hpoint]; exact hdue) rfl
  | ticked next hpoint hsignal hbuffer hsenders hlate =>
      cases hdue
      rw [← hinterval (by rw [hpoint]; exact CollectorPoint.noConfusion)]
      exact Collector.tickAfter_le hlate

theorem OnTime.act (hf : OnTime config f) {a : Actor} {t : Pipeline} (h : f.state.step a = some t) :
    OnTime config { f with state := t, taken := f.taken ++ (f.state.take? (.act a)).toList } := by
  have hmove : f.state.move (.act a) = some t := h
  have hplan := plan_of_move hmove
  have hquiet : f.state.take? (.act a) = none → t.workers = f.state.workers →
      t.collector = f.state.collector → t.now = f.state.now →
      OnTime config { f with state := t, taken := f.taken ++ (f.state.take? (.act a)).toList } := by
    intro htake hworkers hcollector hnow
    refine ⟨linked_of_move hf.linked hmove, hplan ▸ hf.ids, hplan ▸ hf.timeout, ?_, ?_, ?_⟩
    · rw [hcollector, hplan]
      exact hf.interval
    · rw [hworkers, htake, Option.toList_none, List.append_nil]
      exact hf.begun
    · rw [hcollector, hnow]
      exact hf.ticks
  cases moveBy_of_move hmove with
  | dispatcher h => exact hquiet rfl h.frame.workers h.frame.collector h.frame.now
  | worker k w hworker h =>
      refine ⟨linked_of_move hf.linked hmove, hplan ▸ hf.ids, hplan ▸ hf.timeout, ?_,
        hf.begun_of_workerStep hworker h, ?_⟩
      · rw [h.frame.collector, hplan]
        exact hf.interval
      · rw [h.frame.collector, h.frame.now]
        exact hf.ticks
  | collector h =>
      refine ⟨linked_of_move hf.linked hmove, hplan ▸ hf.ids, hplan ▸ hf.timeout, ?_, ?_,
        hf.ticks_of_collectorStep h⟩
      · refine .inr (hplan ▸ hf.interval.resolve_left fun habsent => ?_)
        cases h <;> simp_all
      · rw [h.frame.workers, show f.state.take? (.act .collector) = none from rfl, Option.toList_none,
          List.append_nil]
        exact hf.begun
  | supervisor h =>
      obtain ⟨supervisor, exits, metrics, log, rfl, -, -⟩ := supervisorStep_frame h
      exact hquiet rfl rfl rfl rfl
  | execution ticket h =>
      cases h with
      | delivered e k w task startedAt hfind hend hworker hpoint =>
          refine ⟨linked_of_move hf.linked hmove, hplan ▸ hf.ids, hplan ▸ hf.timeout, hf.interval, ?_,
            hf.ticks⟩
          rw [show f.state.take? (.act (.execution ticket)) = none from rfl, Option.toList_none,
            List.append_nil]
          intro v hv _ _ _ _ hafter
          rcases List.mem_or_eq_of_mem_set hv with hold | rfl
          · exact hf.begun v hold _ _ _ _ hafter
          · cases hafter
            exact hf.begun w (List.mem_of_getElem? hworker) _ _ _ _ hpoint
      | late => exact hquiet rfl rfl rfl rfl

theorem OnTime.call (hf : OnTime config f) (c : Call) :
    OnTime config { f with state := (f.state.call c).2 } := by
  have hplan := plan_of_call f.state c
  have hframe := stagesFrame_of_call f.state c
  refine ⟨?_, hplan ▸ hf.ids, hplan ▸ hf.timeout, ?_, ?_, ?_⟩
  · exact hf.linked.of_frame hframe.now hframe.nextTicket (fun _ he => hframe.executions ▸ he)
      fun _ hw => .inl (hframe.workers ▸ hw)
  · rw [hframe.collector, hplan]
    exact hf.interval
  · rw [hframe.workers]
    exact hf.begun
  · rw [hframe.collector]
    exact fun due hdue => Nat.le_trans (hf.ticks due hdue) (Nat.add_le_add_right hframe.now _)

theorem onTime_of_follow {s : Pipeline} {moves : List SessionMove} (hdrives : Drives config s moves)
    (h : followBy move moves { state := s } = some f) : OnTime config f := by
  refine followBy_preserves ?_ (onTime_start hdrives) h
  rintro f m g hf hmove
  cases m with
  | act a =>
      obtain ⟨t, ht, rfl⟩ := Option.map_eq_some_iff.mp hmove
      exact hf.act ht
  | call c => exact Option.some.inj hmove ▸ hf.call c

/-! ### Once the stages have settled -/

/-- A run is a session. -/
theorem exists_session_of_follow {moves : List Move} {t : Pipeline}
    (h : f.state.follow moves = some t) :
    ∃ taken, followBy move (moves.map .ofMove) f = some { state := t, taken } := by
  induction moves generalizing f with
  | nil =>
      cases h
      exact ⟨f.taken, rfl⟩
  | cons m rest ih =>
      obtain ⟨u, hu, hrest⟩ := Option.bind_eq_some_iff.mp h
      obtain ⟨taken, hmove⟩ : ∃ taken, move (.ofMove m) f = some { state := u, taken } := by
        cases m with
        | act a => exact ⟨_, congrArg (Option.map _) (show f.state.step a = some u from hu)⟩
        | advance | release =>
            cases hu
            exact ⟨f.taken, rfl⟩
      obtain ⟨later, hfollow⟩ := ih (f := { state := u, taken }) hrest
      refine ⟨later, ?_⟩
      rw [List.map_cons, followBy, hmove]
      exact hfollow

theorem dispatches_le_of_follow {actors : List Actor}
    (h : followBy move (actors.map .act) f = some g) : f.state.dispatches ≤ g.state.dispatches := by
  induction actors generalizing f with
  | nil =>
      cases h
      exact Nat.le_refl _
  | cons a rest ih =>
      obtain ⟨u, hu, hrest⟩ := Option.bind_eq_some_iff.mp h
      obtain ⟨t, ht, rfl⟩ := Option.map_eq_some_iff.mp hu
      exact Nat.le_trans (dispatches_of_step ht).1 (ih hrest)

/-- However the actors go on, a collector that is leaving has left when it cannot go on, unless a
dispatch was counted in between. -/
theorem left_or_dispatched {actors : List Actor} (hleaving : Leaving f.state)
    (h : followBy move (actors.map .act) f = some g) (hblocked : g.state.step .collector = none) :
    g.state.collector.point.isCollecting = false ∨
      f.state.dispatcher.point.isOver = false ∧ f.state.dispatches < g.state.dispatches := by
  induction actors generalizing f with
  | nil =>
      cases h
      exact .inl (hleaving.left hblocked)
  | cons a rest ih =>
      obtain ⟨u, hu, hrest⟩ := Option.bind_eq_some_iff.mp h
      obtain ⟨t, ht, rfl⟩ := Option.map_eq_some_iff.mp hu
      obtain ⟨hgrows, hends⟩ := dispatches_of_step ht
      rcases hleaving.step ht with hleaving | ⟨hgoes, hcounted⟩
      · refine (ih hleaving hrest).imp_right fun ⟨hgoes, hcounted⟩ =>
          ⟨?_, Nat.lt_of_le_of_lt hgrows hcounted⟩
        by_contra hover
        rw [hends (eq_true_of_ne_false hover)] at hgoes
        cases hgoes
      · exact .inr ⟨hgoes, Nat.lt_of_lt_of_le hcounted (dispatches_le_of_follow hrest)⟩

/-- A session of the moves of a run is that run. -/
theorem follow_of_session {moves : List Move} (h : followBy move (moves.map .ofMove) f = some g) :
    f.state.follow moves = some g.state := by
  induction moves generalizing f with
  | nil =>
      cases h
      rfl
  | cons m rest ih =>
      obtain ⟨u, hu, hrest⟩ := Option.bind_eq_some_iff.mp h
      have hmove : f.state.move m = some u.state := by
        cases m with
        | act a =>
            obtain ⟨t, ht, rfl⟩ := Option.map_eq_some_iff.mp hu
            exact ht
        | advance | release =>
            cases hu
            rfl
      rw [follow, hmove]
      exact ih hrest

/-- Only a whole run has a dispatcher. -/
theorem isOver_or_reachable {s : Pipeline} {moves : List SessionMove} (hdrives : Drives config s moves)
    (h : followBy move moves { state := s } = some f) :
    f.state.dispatcher.point.isOver = true ∨ ∃ jobs, Reachable config jobs f.state := by
  have hstays : ∀ (f : Session) m g, f.state.dispatcher.point.isOver = true → move m f = some g →
      g.state.dispatcher.point.isOver = true := by
    rintro f m g hover hmove
    cases m with
    | act a =>
        obtain ⟨t, ht, rfl⟩ := Option.map_eq_some_iff.mp hmove
        exact (dispatches_of_step ht).2 hover
    | call c =>
        cases hmove
        rw [(stagesFrame_of_call f.state c).dispatcher, hover]
  cases hdrives with
  | run jobs moves => exact .inr ⟨jobs, moves, follow_of_session h⟩
  | pool | collector => exact .inl (followBy_preserves hstays rfl h)

/-- A settled run that is finished has no collector that looks for more. -/
theorem isCollecting_of_finished {jobs : List Job} {s : Pipeline} (hvalid : config.defect? = none)
    (hs : Reachable config jobs s) (hsettled : IsSettled s)
    (hfinished : s.collector.isFinished s.counters = true) :
    s.collector.point.isCollecting = false := by
  by_contra hcollecting
  obtain ⟨w, hw, ticket, task, startedAt, hpoint, -⟩ :=
    exists_running_of_settled hs hvalid hsettled (eq_true_of_ne_false hcollecting)
  obtain ⟨k, hworker⟩ := List.mem_iff_getElem?.mp hw
  have hunder := (ledger_of_reachable hs).received_lt_sent_of_held hworker (by simp [hpoint])
  obtain ⟨-, -, hall⟩ := Collector.isFinished_iff.mp hfinished
  exact absurd hall (Nat.not_le_of_lt hunder)

/-- A worker that waits for its work and cannot go on waits for a deadline that is still to come. -/
theorem OnTime.deadline (hf : OnTime config f) (hsettled : IsSettled f.state) {w : Worker}
    (hw : w ∈ f.state.workers) {ticket task startedAt : Nat} {outcome : Outcome}
    (hpoint : w.point = .executing ticket task startedAt outcome) :
    outcome = .running ∧ startedAt ≤ f.state.now ∧
      f.state.now < startedAt + config.taskTimeoutMs := by
  obtain ⟨k, hworker⟩ := List.mem_iff_getElem?.mp hw
  have htimeout : f.state.taskTimeoutMs = config.taskTimeoutMs :=
    hf.timeout.resolve_left (List.ne_nil_of_mem (List.mem_map_of_mem hw))
  have hbegun := (hf.linked.waits w hw _ _ _ _ hpoint).begun
  rcases worker_blocked hworker (hsettled _ (.worker k)) with
    hover | ⟨-, ⟨hidle, -⟩ | ⟨_, _, _, hrunning, hdeadline⟩ | ⟨_, hforwarding, -⟩⟩
  · rw [hpoint] at hover
    cases hover
  · rw [hpoint] at hidle
    cases hidle
  · rw [hpoint] at hrunning
    cases hrunning
    exact ⟨rfl, hbegun, htimeout ▸ hdeadline⟩
  · rw [hpoint] at hforwarding
    cases hforwarding

/-- Where there is a collector with a tick to hear, the actors come to a state in which nobody can go
on. -/
theorem OnTime.settles (hf : OnTime config f) (hvalid : config.defect? = none)
    (hdue : f.state.collector.point.tickIsDue f.state.now = true) :
    ∃ (actors : List Actor) (g : Session), followBy move (actors.map .act) f = some g ∧
      IsQuiet g.state := by
  have hinterval : f.state.collector.tickIntervalMs = config.tickIntervalMs := by
    refine hf.interval.resolve_left fun habsent => ?_
    rw [habsent] at hdue
    cases hdue
  have htick := (defect?_eq_none hvalid).2.2.1
  obtain ⟨actors, -, t, hrun, hquiet⟩ := exists_quiet (hinterval ▸ Nat.pos_of_ne_zero htick)
  obtain ⟨taken, hsession⟩ := exists_session_of_follow hrun
  rw [List.map_map] at hsession
  exact ⟨actors, _, hsession, hquiet⟩

/-- A worker that has heard of the return of its work takes that for the end of it, however late it is,
unless the signal is closed. -/
theorem exists_step_of_returned {s : Pipeline} {k : Nat} {w : Worker} {ticket task startedAt : Nat}
    {p : Packet Job} (hworker : s.workers[k]? = some w)
    (hpoint : w.point = .executing ticket task startedAt (.returned p)) :
    ∃ t point, s.step (.worker k) = some t ∧ t.counters = s.counters ∧ t.metrics = s.metrics ∧
      t.workers[k]? = some { w with point } ∧
      if s.signal.isShutdown then point.isOver = true else point = .forwarding p := by
  have hk := (List.getElem?_eq_some_iff.mp hworker).1
  simp only [Pipeline.step, stepWorker, hworker, hpoint]
  split
  next hsignal =>
    split
    next message _ =>
      exact ⟨_, .crashed message, rfl, rfl, rfl, by simp [crashWorker, hk], rfl⟩
    next =>
      exact ⟨_, .afterDropping s.handoff.lostWithReceiver, rfl, rfl, rfl, by simp [endWorker, hk],
        WorkerPoint.isOver_afterDropping _⟩
  next => exact ⟨_, .forwarding p, rfl, rfl, rfl, by simp [hk], rfl⟩

/-- What is true of the timers of a session. -/
structure KeepsTime (config : PipelineConfig) (f : Session) : Prop where
  /-- A worker that waits for a work has waited since it took the packet, and its deadline is to come. -/
  deadlines : IsSettled f.state → ∀ w ∈ f.state.workers, ∀ ticket task startedAt outcome,
    w.point = .executing ticket task startedAt outcome →
      (∃ p, p.task = task ∧ latestTake? w.id f.taken = some ⟨w.id, p, startedAt⟩) ∧
      outcome = .running ∧ startedAt ≤ f.state.now ∧
      f.state.now < startedAt + config.taskTimeoutMs
  ticks : IsSettled f.state → f.state.collector.point.isCollecting = true →
    ∃ due, f.state.collector.point = .receiving due ∧
      f.state.now < due ∧ due ≤ f.state.now + config.tickIntervalMs
  /-- Counters that are finished when the clock reaches the tick have ended the collection before the
  collector can wait again, in whatever order the actors go on. -/
  leaves : IsSettled f.state → ∀ due ms, f.state.collector.point = .receiving due →
    due ≤ f.state.now + ms → f.state.collector.isFinished f.state.counters = true →
      ∀ (actors : List Actor) (g : Session),
        followBy move (.call (.advance ms) :: actors.map .act) f = some g →
          g.state.step .collector = none → g.state.collector.point.isCollecting = false
  /-- The counters may also come to be finished while the actors go on and a tick is due. Then another
  dispatch that is counted before the collector looks keeps it, and nothing else does. -/
  passes : f.state.collector.point.tickIsDue f.state.now = true →
    f.state.collector.isFinished f.state.counters = true →
      ∀ (actors : List Actor) (g : Session), followBy move (actors.map .act) f = some g →
        g.state.step .collector = none → g.state.collector.point.isCollecting = false ∨
          f.state.dispatcher.point.isOver = false ∧ f.state.dispatches < g.state.dispatches
  /-- A settled run that is finished has no collector that looks for more. -/
  finished : ∀ jobs, Reachable config jobs f.state → IsSettled f.state →
    f.state.collector.isFinished f.state.counters = true →
      f.state.collector.point.isCollecting = false
  /-- With a tick to hear the actors come to a state in which nobody can go on. -/
  settles : f.state.collector.point.tickIsDue f.state.now = true →
    ∃ (actors : List Actor) (g : Session), followBy move (actors.map .act) f = some g ∧ IsQuiet g.state
  /-- A worker that has heard of the return of its work does not give the task up, however late it is. -/
  returned : ∀ (k : Nat) (w : Worker) (ticket task startedAt : Nat) (p : Packet Job),
    f.state.workers[k]? = some w → w.point = .executing ticket task startedAt (.returned p) →
      ∃ t point, f.state.step (.worker k) = some t ∧ t.counters = f.state.counters ∧
        t.metrics = f.state.metrics ∧ t.workers[k]? = some { w with point } ∧
        if f.state.signal.isShutdown then point.isOver = true else point = .forwarding p

/-- No timer is overdue once the stages have settled, whatever was done from outside and however far the
clock has moved. -/
theorem no_timer_overdue (hvalid : config.defect? = none) {s : Pipeline} {moves : List SessionMove}
    (hdrives : Drives config s moves) (h : followBy move moves { state := s } = some f) :
    KeepsTime config f := by
  have hf := onTime_of_follow hdrives h
  refine ⟨?_, ?_, ?_, fun hdue hfinished actors g hfollow =>
    left_or_dispatched (.inr ⟨hdue, hfinished⟩) hfollow, fun jobs hs => isCollecting_of_finished hvalid hs,
    fun hdue => hf.settles hvalid hdue, fun k w ticket task startedAt p => exists_step_of_returned⟩
  · intro hsettled w hw ticket task startedAt outcome hpoint
    exact ⟨hf.begun w hw _ _ _ _ hpoint, hf.deadline hsettled hw hpoint⟩
  · intro hsettled hcollecting
    obtain ⟨due, hpoint, hlater⟩ := collector_waits hcollecting (hsettled _ .collector)
    exact ⟨due, hpoint, hlater, hf.ticks due (by rw [hpoint]; rfl)⟩
  · intro hsettled due ms hpoint hreached hfinished actors g hfollow hblocked
    rcases isOver_or_reachable hdrives h with hover | ⟨jobs, hs⟩
    · -- Without a dispatcher no dispatch can be counted.
      let late : Session := { f with state := (f.state.call (.advance ms)).2 }
      have hleaving : Leaving late.state := .inr ⟨by
        rw [show late.state.collector.point = .receiving due from hpoint]
        exact decide_eq_true hreached, hfinished⟩
      refine (left_or_dispatched hleaving hfollow hblocked).resolve_right fun hdispatched => ?_
      rw [show late.state.dispatcher.point.isOver = true from hover] at hdispatched
      cases hdispatched.1
    · have hleft := isCollecting_of_finished hvalid hs hsettled hfinished
      rw [hpoint] at hleft
      cases hleft

/-- The worker takes the first of two tasks, the clock jumps by 12, and the worker takes the second. -/
def jumpingMoves : List Move :=
  List.replicate 3 (.act .collector) ++ List.replicate 5 (.act .dispatcher) ++ [.act (.worker 0)] ++
    List.replicate 4 (.act .dispatcher) ++ [.advance 12] ++ List.replicate 2 (.act .collector) ++
    List.replicate 3 (.act (.worker 0))

/-- The result of the first task arrives, and the second task is late when the clock stands at 10. -/
def expiringMoves : List Move :=
  List.replicate 3 (.act .collector) ++ List.replicate 4 (.act .dispatcher) ++ [.act (.worker 0)] ++
    List.replicate 4 (.act .dispatcher) ++
    [.act (.execution 0), .act (.worker 0), .act (.worker 0), .act (.worker 0)] ++
    List.replicate 3 (.act .collector) ++ [.act .dispatcher, .advance 10] ++
    List.replicate 2 (.act (.worker 0))

/-- The clock of a run jumps over the deadline of one task and over two ticks: the next task has its full
time from there, and so has the next tick. A collector whose counters were finished from outside leaves
with the tick that comes late. And a run whose last task is given up when a tick is due leaves with that
tick. -/
theorem no_timer_overdue_of_jump :
    (∃ f, followBy move (jumpingMoves.map .ofMove)
        { state := ofRun { workerCount := 1, taskTimeoutMs := 10, tickIntervalMs := 4 }
            (List.replicate 2 ⟨.hanging, 0⟩) } = some f ∧
      f.state.workers = [⟨0, .executing 1 1 12 .running⟩] ∧
      (∃ p, p.task = 1 ∧ latestTake? 0 f.taken = some ⟨0, p, 12⟩) ∧ f.state.now < 12 + 10 ∧
      ∃ due, f.state.collector.point = .receiving due ∧ f.state.now < due ∧ due ≤ f.state.now + 4) ∧
    (∃ f g, followBy move
        (List.replicate 3 (.act .collector) ++ [.call (.record 0), .call .received])
        { state := ofCollector { want := 1, tickIntervalMs := 4 } 1 } = some f ∧
      IsSettled f.state ∧ f.state.collector.point = .receiving 4 ∧
      f.state.collector.isFinished f.state.counters = true ∧
      followBy move (.call (.advance 9) :: (List.replicate 4 Actor.collector).map .act) f = some g ∧
      g.state.collector.point.isCollecting = false) ∧
    ∃ f g, followBy move (expiringMoves.map .ofMove)
        { state := ofRun { workerCount := 1, want := 1, taskTimeoutMs := 10, tickIntervalMs := 10 }
            [⟨.instant, 0⟩, ⟨.hanging, 0⟩] } = some f ∧
      f.state.now = 10 ∧ f.state.collector.point = .receiving 10 ∧
      f.state.collector.isFinished f.state.counters = true ∧
      followBy move ((List.replicate 4 Actor.collector).map .act) f = some g ∧
      g.state.collector.point.isCollecting = false := by
  refine ⟨?_, ?_, ?_⟩
  · have hrun : (followBy move (jumpingMoves.map .ofMove)
        { state := ofRun { workerCount := 1, taskTimeoutMs := 10, tickIntervalMs := 4 }
            (List.replicate 2 ⟨.hanging, 0⟩) }).map
        (fun f => (f.state.workers, f.state.collector.point, decide (IsSettled f.state))) =
        some ([⟨0, .executing 1 1 12 .running⟩], .receiving 16, true) := by decide +kernel
    obtain ⟨f, hfollow, hseen⟩ := Option.map_eq_some_iff.mp hrun
    obtain ⟨hworkers, hcollector, hsettled⟩ : f.state.workers = [⟨0, .executing 1 1 12 .running⟩] ∧
        f.state.collector.point = .receiving 16 ∧ IsSettled f.state := by simpa using hseen
    have htime := no_timer_overdue rfl (.run _ _) hfollow
    obtain ⟨htake, -, -, hlater⟩ := htime.deadlines hsettled ⟨0, .executing 1 1 12 .running⟩
      (by rw [hworkers]; exact List.mem_singleton_self _) 1 1 12 .running rfl
    exact ⟨f, hfollow, hworkers, htake, hlater, htime.ticks hsettled (by rw [hcollector]; rfl)⟩
  · have hrun : ∃ f g, followBy move
        (List.replicate 3 (.act .collector) ++ [.call (.record 0), .call .received])
        { state := ofCollector { want := 1, tickIntervalMs := 4 } 1 } = some f ∧
        IsSettled f.state ∧ f.state.collector.point = .receiving 4 ∧
        f.state.collector.isFinished f.state.counters = true ∧
        followBy move (.call (.advance 9) :: (List.replicate 4 Actor.collector).map .act) f = some g ∧
        f.state.now = 0 ∧ g.state.step .collector = none :=
      ⟨_, _, rfl, by decide, rfl, rfl, rfl, rfl, rfl⟩
    obtain ⟨f, g, hfollow, hsettled, hpoint, hfinished, hrest, hnow, hblocked⟩ := hrun
    have htime := no_timer_overdue rfl (.collector 1 _) hfollow
    exact ⟨f, g, hfollow, hsettled, hpoint, hfinished, hrest,
      htime.leaves hsettled 4 9 hpoint (by omega) hfinished _ g hrest hblocked⟩
  · have hrun : ((followBy move (expiringMoves.map .ofMove)
        { state := ofRun { workerCount := 1, want := 1, taskTimeoutMs := 10, tickIntervalMs := 10 }
            [⟨.instant, 0⟩, ⟨.hanging, 0⟩] }).bind fun f =>
        (followBy move ((List.replicate 4 Actor.collector).map .act) f).map fun g =>
          (f, (g.state.step .collector).isNone)).map
        (fun seen => (seen.1.state.now, seen.1.state.collector.point,
          seen.1.state.collector.isFinished seen.1.state.counters,
          seen.1.state.dispatcher.point.isOver, seen.2)) =
        some (10, .receiving 10, true, true, true) := by decide +kernel
    obtain ⟨⟨f, blocked⟩, hgoes, hseen⟩ := Option.map_eq_some_iff.mp hrun
    obtain ⟨f, hfollow, hgoes⟩ := Option.bind_eq_some_iff.mp hgoes
    obtain ⟨g, hrest, hg⟩ := Option.map_eq_some_iff.mp hgoes
    cases hg
    obtain ⟨hnow, hpoint, hfinished, hover, hblocked⟩ : f.state.now = 10 ∧
        f.state.collector.point = .receiving 10 ∧ f.state.collector.isFinished f.state.counters = true ∧
        f.state.dispatcher.point.isOver = true ∧ g.state.step .collector = none := by simpa using hseen
    have htime := no_timer_overdue rfl (.run _ _) hfollow
    refine ⟨f, g, hfollow, hnow, hpoint, hfinished, hrest, ?_⟩
    have hdue : f.state.collector.point.tickIsDue f.state.now = true := by
      rw [hpoint, hnow]
      rfl
    refine (htime.passes hdue hfinished _ g hrest hblocked).resolve_right fun hdispatched => ?_
    rw [hover] at hdispatched
    cases hdispatched.1

end Session

end Fanout
