import Fanout.Proofs.Pipeline.Shutdown

/-!
The run does not hang. When no stage can go on although the collector still looks for results, some
worker waits for a work and will give it up within the time limit (`exists_running_of_settled`).
Every round of the clock therefore finds a task that was begun since the last one, and the tasks run
out.
-/

namespace Fanout

/-- The collector has not decided to end. -/
def CollectorPoint.isCollecting : CollectorPoint → Bool
  | .starting | .receiving _ | .accepting .. | .counted .. | .ticking _ => true
  | _ => false

theorem CollectorPoint.isCollecting_of_isOver {point : CollectorPoint} (h : point.isOver = true) :
    point.isCollecting = false := by
  cases point <;> first | rfl | cases h

theorem CollectorPoint.isCollecting_afterDropping (exit : CollectorExit) (lost : List (Packet Job)) :
    (CollectorPoint.afterDropping exit lost).isCollecting = false :=
  apply_afterDropping isCollecting rfl (fun _ => rfl) lost

namespace Pipeline

inductive IsStage : Actor → Prop
  | dispatcher : IsStage .dispatcher
  | worker (k : Nat) : IsStage (.worker k)
  | collector : IsStage .collector

/-- No stage can take a step until the clock moves or a work ends. -/
def IsSettled (s : Pipeline) : Prop :=
  ∀ a, IsStage a → s.step a = none

variable {s t : Pipeline}

theorem isSettled_iff : IsSettled s ↔
    ((s.step .dispatcher).isNone &&
      (List.range s.workers.length).all (fun k => (s.step (.worker k)).isNone) &&
      (s.step .collector).isNone) = true := by
  simp only [Bool.and_eq_true, List.all_eq_true, List.mem_range, Option.isNone_iff_eq_none]
  constructor
  · intro h
    exact ⟨⟨h _ .dispatcher, fun k _ => h _ (.worker k)⟩, h _ .collector⟩
  · rintro ⟨⟨hdispatcher, hworkers⟩, hcollector⟩ a ha
    cases ha with
    | dispatcher => exact hdispatcher
    | collector => exact hcollector
    | worker k =>
        by_cases hk : k < s.workers.length
        · exact hworkers k hk
        · show s.stepWorker k = none
          rw [stepWorker, List.getElem?_eq_none (Nat.le_of_not_lt hk)]

instance : Decidable (IsSettled s) :=
  decidable_of_iff _ isSettled_iff.symm

/-! ### What blocks a stage -/

theorem dispatcher_blocked (h : s.step .dispatcher = none) :
    s.dispatcher.point.isOver = true ∨
      s.signal.isShutdown = false ∧ s.handoff.receivers ≠ 0 ∧ s.handoff.hasRoom = false ∧
        ∃ i p, s.dispatcher.point = .reserving i p := by
  change s.stepDispatcher = none at h
  unfold stepDispatcher at h
  split at h
  next =>
    split at h
    next => cases h
    next => cases h
    next => split at h <;> cases h
  next i p hpoint =>
    right
    split at h
    next => cases h
    next hsignal =>
      split at h
      next => cases h
      next hreceivers =>
        split at h
        next => cases h
        next hroom =>
          exact ⟨eq_false_of_ne_true hsignal, hreceivers, eq_false_of_ne_true hroom, i, p, hpoint⟩
  next => split at h <;> cases h
  next => cases h
  next hpoint => left; rw [hpoint]; rfl
  next message hpoint => left; rw [hpoint]; rfl

theorem worker_blocked {k : Nat} {w : Worker} (hworker : s.workers[k]? = some w)
    (h : s.step (.worker k) = none) :
    w.point.isOver = true ∨
      s.signal.isShutdown = false ∧
        ((w.point = .idle ∧ s.handoff.buffer = [] ∧ s.handoff.senders ≠ 0) ∨
        (∃ ticket task startedAt, w.point = .executing ticket task startedAt .running ∧
          s.now < startedAt + s.taskTimeoutMs) ∨
        ∃ p, w.point = .forwarding p ∧ s.outbound.receivers ≠ 0 ∧ s.outbound.hasRoom = false) := by
  change s.stepWorker k = none at h
  unfold stepWorker at h
  rw [hworker] at h
  dsimp only at h
  split at h
  next hpoint =>
    right
    split at h
    next => cases h
    next hsignal =>
      refine ⟨eq_false_of_ne_true hsignal, .inl ?_⟩
      split at h
      next => cases h
      next htake =>
        split at h
        next => cases h
        next hsenders => exact ⟨hpoint, Channel.take?_eq_none htake, hsenders⟩
  next ticket task startedAt outcome hpoint =>
    right
    split at h
    next => split at h <;> cases h
    next hsignal =>
      refine ⟨eq_false_of_ne_true hsignal, .inr (.inl ?_)⟩
      split at h
      next => cases h
      next => cases h
      next =>
        split at h
        next => cases h
        next hdeadline =>
          exact ⟨ticket, task, startedAt, hpoint, Nat.lt_of_not_le hdeadline⟩
  next => cases h
  next => cases h
  next p hpoint =>
    right
    split at h
    next => split at h <;> cases h
    next hsignal =>
      refine ⟨eq_false_of_ne_true hsignal, .inr (.inr ?_)⟩
      split at h
      next => split at h <;> cases h
      next hreceivers =>
        split at h
        next => cases h
        next hroom => exact ⟨p, hpoint, hreceivers, eq_false_of_ne_true hroom⟩
  next hpoint => left; rw [hpoint]; rfl
  next message hpoint => left; rw [hpoint]; rfl

theorem collector_blocked (h : s.step .collector = none) :
    (s.collector.point.isCollecting = true ∧ s.outbound.buffer = [] ∧ s.outbound.senders ≠ 0) ∨
    (∃ exit wake, s.collector.point = .pausing exit wake ∧ s.now < wake) ∨
    s.collector.point.isOver = true ∨ s.collector.point = .absent := by
  change s.stepCollector = none at h
  unfold stepCollector at h
  dsimp only at h
  split at h
  next => split at h <;> cases h
  next nextTick hpoint =>
    split at h
    next => cases h
    next =>
      split at h
      next => cases h
      next htake =>
        split at h
        next => cases h
        next hsenders =>
          left
          rw [hpoint]
          exact ⟨rfl, Channel.take?_eq_none htake, hsenders⟩
  next => split at h <;> cases h
  next => cases h
  next => split at h <;> cases h
  next => split at h <;> cases h
  next exit wake hpoint =>
    right; left
    split at h
    next => cases h
    next hwake => exact ⟨exit, wake, hpoint, Nat.lt_of_not_le hwake⟩
  next => cases h
  next exit hpoint => exact .inr (.inr (.inl (by rw [hpoint]; rfl)))
  next exit message hpoint => exact .inr (.inr (.inl (by rw [hpoint]; rfl)))
  next hpoint => exact .inr (.inr (.inr hpoint))

/-! ### A settled run waits for a work -/

theorem defect?_eq_none {config : PipelineConfig} (h : config.defect? = none) :
    config.workerCount ≠ 0 ∧ config.taskTimeoutMs ≠ 0 ∧ config.tickIntervalMs ≠ 0 ∧
      config.handoffCapacity ≠ 0 :=
  PipelineConfig.defect?_eq_none_iff.mp h

variable {config : PipelineConfig} {jobs : List Job}

theorem timeout_of_reachable (hs : Reachable config jobs s) :
    s.taskTimeoutMs = config.taskTimeoutMs :=
  congrArg Plan.taskTimeoutMs (plan_of_reachable hs)

/-- A dispatcher that has not ended has something to do when the handoff channel is empty. -/
theorem dispatcher_goes_on (hwired : Wired s) (hcapacity : s.handoff.capacity ≠ 0)
    (hsenders : s.handoff.senders ≠ 0) (hbuffer : s.handoff.buffer = []) : s.step .dispatcher ≠ none := by
  intro hblocked
  rcases dispatcher_blocked hblocked with hover | ⟨-, -, hroom, i, p, hpoint⟩
  · rw [hwired.handoffSenders, hover] at hsenders
    exact hsenders rfl
  · have hreserved := hwired.handoffReserved
    rw [hpoint] at hreserved
    simp [Channel.hasRoom, hbuffer, hreserved] at hroom
    exact hcapacity hroom

theorem exists_running_of_settled (hs : Reachable config jobs s) (hvalid : config.defect? = none)
    (hsettled : IsSettled s) (hcollecting : s.collector.point.isCollecting = true) :
    ∃ w ∈ s.workers, ∃ ticket task startedAt,
      w.point = .executing ticket task startedAt .running ∧
      s.now < startedAt + config.taskTimeoutMs ∧ startedAt ≤ s.now := by
  have hwired := wired_of_reachable hs
  have hlinked := linked_of_reachable hs
  have hplan := plan_of_reachable hs
  obtain ⟨-, -, -, hcapacity⟩ := defect?_eq_none hvalid
  have hblocked := collector_blocked (hsettled _ .collector)
  obtain ⟨hbuffer, hsenders⟩ : s.outbound.buffer = [] ∧ s.outbound.senders ≠ 0 := by
    rcases hblocked with h | ⟨exit, wake, h, -⟩ | hover | h
    · exact h.2
    · rw [h] at hcollecting
      cases hcollecting
    · rw [CollectorPoint.isCollecting_of_isOver hover] at hcollecting
      cases hcollecting
    · rw [h] at hcollecting
      cases hcollecting
  -- Some worker is alive; what blocks it cannot be a channel.
  rw [hwired.outboundSenders] at hsenders
  obtain ⟨w, hw, hlive⟩ := List.countP_pos_iff.mp (Nat.pos_of_ne_zero hsenders)
  obtain ⟨k, hworker⟩ := List.mem_iff_getElem?.mp hw
  rcases worker_blocked hworker (hsettled _ (.worker k)) with
    hover | ⟨-, ⟨-, hhandoff, hsource⟩ | ⟨ticket, task, startedAt, hpoint, hdeadline⟩ |
      ⟨p, -, -, hroom⟩⟩
  · simp [WorkerPoint.isLive, hover] at hlive
  · have hsize : s.handoff.capacity = config.handoffCapacity := congrArg Plan.handoffCapacity hplan
    have hgoes := dispatcher_goes_on hwired (hsize ▸ hcapacity) hsource hhandoff
    exact absurd (hsettled _ .dispatcher) hgoes
  · rw [timeout_of_reachable hs] at hdeadline
    exact ⟨w, hw, ticket, task, startedAt, hpoint, hdeadline, (hlinked.waits w hw _ _ _ _ hpoint).begun⟩
  · have hsize : s.outbound.capacity = 1 := congrArg Plan.outboundCapacity hplan
    simp [Channel.hasRoom, hbuffer, hwired.outboundReserved, hsize] at hroom

/-! ### Every round begins a task -/

/-- The clock moves by the time limit of a task; then works end and stages go on until the run is
settled. -/
def Round (s t : Pipeline) : Prop :=
  ∃ moves, (s.advance s.taskTimeoutMs).follow moves = some t ∧ IsSettled t

inductive Rounds : Nat → Pipeline → Pipeline → Prop
  | refl (s : Pipeline) : Rounds 0 s s
  | tail {n : Nat} {s t u : Pipeline} (hbefore : Rounds n s t) (hround : Round t u) :
      Rounds (n + 1) s u

theorem Reachable.round (hs : Reachable config jobs s) (h : Round s t) : Reachable config jobs t := by
  obtain ⟨moves, hmoves, -⟩ := h
  exact (hs.move (m := .advance s.taskTimeoutMs) rfl).follow hmoves

theorem Reachable.rounds {n : Nat} (hs : Reachable config jobs s) (h : Rounds n s t) :
    Reachable config jobs t := by
  induction h with
  | refl => exact hs
  | tail hbefore hround ih => exact (ih hs).round hround

/-- Tasks whose work has not begun. -/
def unbegun (s : Pipeline) : Nat :=
  s.undispatched.length + s.handedOff.length

theorem DispatcherStep.unbegun_le (h : DispatcherStep s t) : t.unbegun ≤ s.unbegun := by
  have hflow := h.flow (f := fun _ => 1)
  have hkept : s.discarded.length ≤ t.discarded.length := by
    cases h <;> simp [endDispatcher]
  simp only [weigh_one] at hflow
  simp only [unbegun]
  omega

/-- A ticket is given out for a task that had not begun. -/
theorem begun_of_move {m : Move} (h : s.move m = some t) :
    t.nextTicket + t.unbegun ≤ s.nextTicket + s.unbegun := by
  cases moveStep_of_move h with
  | dispatcher h => exact Nat.add_le_add (Nat.le_of_eq h.frame.nextTicket) h.unbegun_le
  | worker k w hworker h =>
      have hundispatched := undispatched_congr h.frame.dispatcher h.frame.withheld
      simp only [unbegun, hundispatched, handedOff, h.frame.dispatcher, List.length_append,
        List.length_map]
      rcases h.begins_or_rests with ⟨p, rest, hbuffer, rfl⟩ | ⟨-, hticket, hbuffer, -⟩
      · rw [hbuffer]
        simp only [beginWork, setWorker, List.length_cons]
        omega
      · omega
  | collector h =>
      have hframe := h.frame
      simp only [unbegun, undispatched_congr hframe.dispatcher hframe.withheld,
        handedOff_congr hframe.dispatcher hframe.handoff, hframe.nextTicket, Nat.le_refl]
  | supervisor h =>
      obtain ⟨supervisor, exits, metrics, log, rfl, -, -⟩ := supervisorStep_frame h
      exact Nat.le_refl _
  | execution ticket h => cases h <;> exact Nat.le_refl _
  | advanced | released => exact Nat.le_refl _

theorem nextTicket_le (hs : Reachable config jobs s) : s.nextTicket ≤ jobs.length := by
  have hall : s.nextTicket + s.unbegun ≤ jobs.length := by
    refine hs.induction ?_ fun _ _ _ _ ih h => Nat.le_trans (begun_of_move h) ih
    simp [unbegun, undispatched, handedOff, ofRun, map_task_enumerate]
  calc s.nextTicket ≤ s.nextTicket + s.unbegun := Nat.le_add_right _ _
    _ ≤ jobs.length := hall

/-- A worker that waits for a work has waited before the move too, or got its ticket by it. -/
theorem executing_of_move {m : Move} (h : s.move m = some t) {w : Worker} (hw : w ∈ t.workers)
    {ticket task startedAt : Nat} {outcome : Outcome}
    (hpoint : w.point = .executing ticket task startedAt outcome) :
    (∃ v ∈ s.workers, ∃ task outcome, v.point = .executing ticket task startedAt outcome) ∨
      ticket = s.nextTicket := by
  cases moveStep_of_move h with
  | dispatcher h => exact .inl ⟨w, h.frame.workers ▸ hw, task, outcome, hpoint⟩
  | worker k v hworker h =>
      rcases h.executing_cases hw hpoint with hold | ⟨hnew, -, -⟩
      · exact .inl ⟨w, hold, task, outcome, hpoint⟩
      · exact .inr hnew
  | collector h => exact .inl ⟨w, h.frame.workers ▸ hw, task, outcome, hpoint⟩
  | supervisor h =>
      obtain ⟨supervisor, exits, metrics, log, rfl, -, -⟩ := supervisorStep_frame h
      exact .inl ⟨w, hw, task, outcome, hpoint⟩
  | execution _ h =>
      cases h with
      | delivered e k v task' startedAt' hfind hend hworker hbefore =>
          rcases List.mem_or_eq_of_mem_set hw with hold | rfl
          · exact .inl ⟨w, hold, task, outcome, hpoint⟩
          · cases hpoint
            exact .inl ⟨v, List.mem_of_getElem? hworker, _, _, hbefore⟩
      | late => exact .inl ⟨w, hw, task, outcome, hpoint⟩
  | advanced | released => exact .inl ⟨w, hw, task, outcome, hpoint⟩

theorem now_le_of_move {m : Move} (h : s.move m = some t) : s.now ≤ t.now := by
  cases moveStep_of_move h with
  | dispatcher h => exact Nat.le_of_eq h.frame.now.symm
  | worker k w hworker h => exact Nat.le_of_eq h.frame.now.symm
  | collector h => exact Nat.le_of_eq h.frame.now.symm
  | supervisor h =>
      obtain ⟨supervisor, exits, metrics, log, rfl, -, -⟩ := supervisorStep_frame h
      exact Nat.le_refl _
  | execution ticket h => cases h <;> exact Nat.le_refl _
  | advanced ms => exact Nat.le_add_right _ _
  | released => exact Nat.le_refl _

/-- Whatever was begun under an old ticket was begun by then. -/
structure Since (first moment : Nat) (s : Pipeline) : Prop where
  issued : first ≤ s.nextTicket
  old : ∀ w ∈ s.workers, ∀ ticket task startedAt outcome,
    w.point = .executing ticket task startedAt outcome → ticket < first → startedAt ≤ moment

theorem nextTicket_mono {m : Move} (h : s.move m = some t) : s.nextTicket ≤ t.nextTicket := by
  cases moveStep_of_move h with
  | dispatcher h => exact Nat.le_of_eq h.frame.nextTicket.symm
  | worker k w hworker h =>
      rcases h.begins_or_rests with ⟨p, rest, hbuffer, rfl⟩ | ⟨-, hticket, -⟩
      · exact Nat.le_succ _
      · exact Nat.le_of_eq hticket.symm
  | collector h => exact Nat.le_of_eq h.frame.nextTicket.symm
  | supervisor h =>
      obtain ⟨supervisor, exits, metrics, log, rfl, -, -⟩ := supervisorStep_frame h
      exact Nat.le_refl _
  | execution ticket h => cases h <;> exact Nat.le_refl _
  | advanced | released => exact Nat.le_refl _

theorem since_of_move {first moment : Nat} {m : Move} (hs : Since first moment s)
    (h : s.move m = some t) : Since first moment t := by
  refine ⟨Nat.le_trans hs.issued (nextTicket_mono h), ?_⟩
  intro w hw ticket task startedAt outcome hpoint hticket
  rcases executing_of_move h hw hpoint with ⟨v, hv, task', outcome', hbefore⟩ | rfl
  · exact hs.old v hv ticket task' startedAt outcome' hbefore hticket
  · exact absurd hs.issued (Nat.not_le_of_lt hticket)

/-- A collector that has decided to end does not go back. -/
theorem isCollecting_of_move {m : Move} (h : s.move m = some t)
    (hcollecting : t.collector.point.isCollecting = true) :
    s.collector.point.isCollecting = true := by
  cases moveStep_of_move h with
  | dispatcher h => exact h.frame.collector ▸ hcollecting
  | worker k w hworker h => exact h.frame.collector ▸ hcollecting
  | collector h =>
      cases h with
      | sated hpoint | began hpoint | took _ _ _ hpoint | ticked _ hpoint | undrained _ hpoint
      | accepted _ _ hpoint | continued _ _ hpoint | interrupted _ hpoint | deserted _ hpoint
      | drained _ hpoint | reached _ _ hpoint =>
          rw [hpoint]
          rfl
      | closedPausing | closed | woke => cases hcollecting
      | reported exit =>
          rw [show (s.endCollector exit).collector.point.isCollecting = false from
            CollectorPoint.isCollecting_afterDropping exit _] at hcollecting
          cases hcollecting
  | supervisor h =>
      obtain ⟨supervisor, exits, metrics, log, rfl, -, -⟩ := supervisorStep_frame h
      exact hcollecting
  | execution ticket h => cases h <;> exact hcollecting
  | advanced | released => exact hcollecting

/-- A round after which the collector still looks for results has begun a task. -/
theorem nextTicket_lt_of_round (hs : Reachable config jobs s) (hvalid : config.defect? = none)
    (hround : Round s t) (hcollecting : t.collector.point.isCollecting = true) :
    s.nextTicket < t.nextTicket := by
  have hreach := hs.round hround
  obtain ⟨moves, hmoves, hsettled⟩ := hround
  obtain ⟨w, hw, ticket, task, startedAt, hpoint, hdeadline, -⟩ :=
    exists_running_of_settled hreach hvalid hsettled hcollecting
  have hstart : Since s.nextTicket s.now (s.advance s.taskTimeoutMs) :=
    ⟨Nat.le_refl _, fun v hv _ _ _ _ hv' _ => ((linked_of_reachable hs).waits v hv _ _ _ _ hv').begun⟩
  have hsince : Since s.nextTicket s.now t ∧ (s.advance s.taskTimeoutMs).now ≤ t.now :=
    follow_preserves (P := fun u => Since s.nextTicket s.now u ∧ _ ≤ u.now)
      (fun _ _ _ hu hmove => ⟨since_of_move hu.1 hmove, Nat.le_trans hu.2 (now_le_of_move hmove)⟩)
      ⟨hstart, Nat.le_refl _⟩ hmoves
  have hnow : s.now + config.taskTimeoutMs ≤ t.now :=
    calc s.now + config.taskTimeoutMs = s.now + s.taskTimeoutMs := by rw [timeout_of_reachable hs]
      _ ≤ t.now := hsince.2
  -- What runs now was begun after the clock moved, so its ticket is new.
  have hnew : ¬ ticket < s.nextTicket := by
    intro hticket
    have hold := hsince.1.old w hw ticket task startedAt _ hpoint hticket
    omega
  have hissued := ((linked_of_reachable hreach).waits w hw _ _ _ _ hpoint).issued
  omega

/-- While the collector looks for results, more tasks have begun than rounds have passed. -/
theorem rounds_lt_nextTicket {n : Nat} (hs : Reachable config jobs s)
    (hvalid : config.defect? = none) (hsettled : IsSettled s) (h : Rounds n s t)
    (hcollecting : t.collector.point.isCollecting = true) : n < t.nextTicket := by
  induction h with
  | refl =>
      obtain ⟨w, hw, ticket, task, startedAt, hpoint, -⟩ :=
        exists_running_of_settled hs hvalid hsettled hcollecting
      have hissued := ((linked_of_reachable hs).waits w hw _ _ _ _ hpoint).issued
      exact Nat.lt_of_le_of_lt (Nat.zero_le _) hissued
  | tail hbefore hround ih =>
      rename_i n s t u
      have hearlier : t.collector.point.isCollecting = true := by
        obtain ⟨moves, hmoves, -⟩ := hround
        by_contra hleft
        have hpreserved : u.collector.point.isCollecting ≠ true :=
          follow_preserves (P := fun v => v.collector.point.isCollecting ≠ true)
            (fun _ _ _ hv hmove hlooks => hv (isCollecting_of_move hmove hlooks))
            (show (t.advance t.taskTimeoutMs).collector.point.isCollecting ≠ true from hleft) hmoves
        exact hpreserved hcollecting
      have hlt := nextTicket_lt_of_round (hs.rounds hbefore) hvalid hround hcollecting
      exact Nat.lt_of_le_of_lt (ih hs hsettled hearlier) hlt

end Pipeline

end Fanout
