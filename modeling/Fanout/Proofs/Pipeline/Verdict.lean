import Fanout.Proofs.Pipeline.Shutdown

/-!
What the collector knows when it decides to end. At each of its points the shared counters meet a
condition (`Holds`): while it looks for results the target is not met, or the loading is stopped; and
once it has decided on an exit, the exit says what it means (`Verdict`). The condition survives every
move of the other actors, because a run in which everything counted has arrived and nothing more can
be counted stays so (`Complete`).
-/

namespace Fanout

/-- The exit that the collector has decided on. -/
def CollectorPoint.exit? : CollectorPoint → Option CollectorExit
  | .closing exit | .pausing exit _ | .reporting exit | .finished exit | .crashed exit _ => some exit
  | _ => none

theorem CollectorPoint.exit?_afterDropping (exit : CollectorExit) (lost : List (Packet Job)) :
    (CollectorPoint.afterDropping exit lost).exit? = some exit :=
  apply_afterDropping exit? rfl (fun _ => rfl) lost

namespace Pipeline

/-- Everything that was counted has arrived, and nothing more will be counted. -/
structure Complete (s : Pipeline) : Prop where
  sent : s.counters.sent = s.counters.received
  ended : s.counters.supplyExhausted = true ∨ s.counters.cursor = .stopped

/-- The collector looks for more results. -/
structure Looking (s : Pipeline) : Prop where
  short : s.collector.mode = .abandon → s.counters.received < s.collector.want
  stopped : 0 < s.counters.received → s.collector.want ≤ s.counters.received →
    s.counters.cursor = .stopped

/-- The collector has just counted a result and seen these counters. -/
structure Saw (seen : Counters) (s : Pipeline) : Prop where
  received : seen.received = s.counters.received
  want : seen.want = s.collector.want ∨ seen.want = 0 ∧ s.counters.supplyExhausted = true
  within : s.collector.mode = .abandon → s.counters.received ≤ s.collector.want

def Verdict (s : Pipeline) : CollectorExit → Prop
  | .targetReached =>
      s.collector.mode = .abandon ∧ s.counters.received = s.collector.want ∧
        s.counters.cursor = .stopped
  | .drained | .outboundClosed =>
      Complete s ∧ (s.collector.mode = .abandon → s.counters.received < s.collector.want)
  | .shutdown => False

def Holds (s : Pipeline) : CollectorPoint → Prop
  | .absent => False
  | .starting => s.counters.received = 0
  | .receiving _ | .ticking _ | .accepting .. => Looking s
  | .counted seen _ => Saw seen s
  | .closing exit | .pausing exit _ | .reporting exit | .finished exit | .crashed exit _ => Verdict s exit

theorem holds_afterDropping (s : Pipeline) (exit : CollectorExit) (lost : List (Packet Job)) :
    Holds s (.afterDropping exit lost) = Verdict s exit :=
  CollectorPoint.apply_afterDropping (Holds s) rfl (fun _ => rfl) lost

/-- The loading is stopped for a reason, and the collector acts on what holds. -/
structure Collecting (s : Pipeline) : Prop where
  reason : s.counters.cursor = .stopped →
    s.collector.want ≤ s.counters.received ∨ s.counters.supplyExhausted = true
  holds : Holds s s.collector.point

variable {s t : Pipeline} {total : Nat}

/-! ### The other actors -/

/-- No dispatch is counted any more. -/
theorem Complete.dispatcherStep (hs : Complete s) (hpaced : Paced total s)
    (h : DispatcherStep s t) : Complete t := by
  refine ⟨?_, hs.ended.imp h.onward.exhausted h.onward.stopped⟩
  rw [h.frame.received, ← hs.sent]
  cases h with
  | counted i p hpoint hcursor =>
      rcases hs.ended with hexhausted | hstopped
      · have hover := (hpaced.exhausted hexhausted).2
        rw [hpoint] at hover
        cases hover
      · rw [hstopped] at hcursor
        cases hcursor
  | _ => simp [endDispatcher, Counters.exhaust]

/-- No task is given up any more. -/
theorem Complete.workerStep {k : Nat} {w : Worker} (hs : Complete s) (hledger : Ledger total s)
    (hworker : s.workers[k]? = some w) (h : WorkerStep s k w t) : Complete t := by
  refine ⟨?_, hs.ended.imp h.onward.exhausted h.onward.stopped⟩
  rcases h.counters with ⟨hcounters, -⟩ | ⟨task, hpoint, -, -⟩
  · rw [hcounters, hs.sent]
  · have hlt := hledger.received_lt_sent hworker hpoint
    exact absurd hs.sent (Nat.ne_of_gt hlt)

theorem Verdict.of_frame {exit : CollectorExit} (hs : Verdict s exit)
    (hmode : t.collector.mode = s.collector.mode) (hwant : t.collector.want = s.collector.want)
    (hreceived : t.counters.received = s.counters.received)
    (hstopped : s.counters.cursor = .stopped → t.counters.cursor = .stopped)
    (hcomplete : Complete s → Complete t) : Verdict t exit := by
  cases exit with
  | targetReached =>
      obtain ⟨habandon, hexact, hcursor⟩ := hs
      refine ⟨?_, ?_, hstopped hcursor⟩
      · rw [hmode, habandon]
      · rw [hreceived, hwant, hexact]
  | drained | outboundClosed =>
      refine ⟨hcomplete hs.1, ?_⟩
      rw [hmode, hwant, hreceived]
      exact hs.2
  | shutdown => exact hs

/-- What the collector relies on stays when another actor moves. -/
theorem Collecting.of_frame (hs : Collecting s) (honward : Onward s t)
    (hcollector : t.collector = s.collector) (hreceived : t.counters.received = s.counters.received)
    (hstops : t.counters.cursor = .stopped → s.counters.cursor = .stopped)
    (hcomplete : Complete s → Complete t) : Collecting t where
  reason hstopped := by
    rw [hcollector, hreceived]
    exact (hs.reason (hstops hstopped)).imp_right honward.exhausted
  holds := by
    have hholds := hs.holds
    have hlooking : Looking s → Looking t := by
      intro hl
      refine ⟨?_, ?_⟩ <;> rw [hcollector, hreceived]
      · exact hl.short
      · intro hpos hwant
        exact honward.stopped (hl.stopped hpos hwant)
    rw [hcollector]
    cases hpoint : s.collector.point <;> rw [hpoint] at hholds
    case absent => exact hholds
    case starting => exact hreceived.trans hholds
    case receiving | ticking | accepting => exact hlooking hholds
    case counted seen nextTick =>
      refine ⟨?_, ?_, ?_⟩
      · rw [hreceived]
        exact hholds.received
      · rw [hcollector]
        exact hholds.want.imp_right fun h => ⟨h.1, honward.exhausted h.2⟩
      · rw [hcollector, hreceived]
        exact hholds.within
    case closing | pausing | reporting | finished | crashed =>
      exact hholds.of_frame (by rw [hcollector]) (by rw [hcollector]) hreceived honward.stopped
        hcomplete

/-! ### The collector -/

theorem targetReached_iff {c : Collector} {received : Nat} :
    c.targetReached received = true ↔ c.mode = .abandon ∧ c.want ≤ received := by
  simp [Collector.targetReached]

theorem lt_want_of_not_reached {c : Collector} {received : Nat}
    (h : c.targetReached received = false) (hmode : c.mode = .abandon) : received < c.want := by
  by_contra hover
  rw [targetReached_iff.mpr ⟨hmode, Nat.le_of_not_lt hover⟩] at h
  cases h

theorem held_of_isOver (h : ∀ w ∈ s.workers, w.point.isOver = true) : s.held = [] := by
  rw [held, List.flatMap_eq_nil_iff]
  intro w hw
  have hover := h w hw
  cases hpoint : w.point <;> rw [hpoint] at hover <;> first | rfl | cases hover

/-- An outbound channel that all workers left with nothing in it has brought everything that was
counted. -/
theorem complete_of_deserted (hwired : Wired s) (hledger : Ledger total s) (horderly : Orderly s)
    (hworkers : s.workers ≠ []) (htaken : s.collector.point.taken = [])
    (hbuffer : s.outbound.buffer = []) (hsenders : s.outbound.senders = 0) : Complete s := by
  rw [hwired.outboundSenders] at hsenders
  have hdead := isOver_of_liveWorkers hsenders
  obtain ⟨w, hw⟩ := List.exists_mem_of_ne_nil _ hworkers
  obtain ⟨hover, hhandoff⟩ := horderly.left w hw (hdead w hw)
  refine ⟨?_, horderly.ended hover⟩
  have hcounted : s.dispatcher.point.counted = [] := by
    cases hpoint : s.dispatcher.point <;> rw [hpoint] at hover <;> first | rfl | cases hover
  have hsent := hledger.sent_eq
  rw [held_of_isOver hdead, handedOff, hcounted, hhandoff, outgoing, htaken, hbuffer,
    horderly.discarded, ← hledger.received] at hsent
  exact hsent

/-- A tick that finds the run drained finds it complete. -/
theorem complete_of_drained (hledger : Ledger total s) (hpaced : Paced total s)
    (hlooking : Looking s) (hwant : s.collector.mode = .gracefulDrain → 0 < s.collector.want)
    (hfinished : s.collector.isFinished s.counters = true) : Complete s := by
  simp only [Collector.isFinished, Counters.isDrained, Bool.and_eq_true, Bool.or_eq_true,
    decide_eq_true_eq] at hfinished
  obtain ⟨hmode, htarget, hall⟩ := hfinished
  have hreceived := hledger.received
  have hsent := hledger.sent_eq
  refine ⟨by omega, ?_⟩
  cases hexhausted : s.counters.supplyExhausted with
  | true => exact .inl rfl
  | false =>
      have hgraceful : s.collector.mode = .gracefulDrain := by simpa [hexhausted] using hmode
      have hpos := hwant hgraceful
      have hmarker := hpaced.want
      rw [hexhausted] at hmarker
      simp only [Bool.false_eq_true, ↓reduceIte] at hmarker
      exact .inr (hlooking.stopped (by omega) (by omega))

/-- Having seen a result the collector stops the loading as soon as the target is met, and whatever
it does next it has a reason to. -/
theorem Saw.stopWhenEnough {seen : Counters} (hs : Saw seen s)
    (hreason : s.counters.cursor = .stopped →
      s.collector.want ≤ s.counters.received ∨ s.counters.supplyExhausted = true) :
    ∃ counters log, s.stopWhenEnough seen = { s with counters, log } ∧
      counters.received = s.counters.received ∧
      (counters.cursor = .stopped →
        s.collector.want ≤ s.counters.received ∨ counters.supplyExhausted = true) ∧
      (s.collector.want ≤ s.counters.received → counters.cursor = .stopped) := by
  obtain ⟨log, heq, -⟩ := stopWhenEnough_eq seen s
  refine ⟨_, log, heq, ?_⟩
  have hreceived := hs.received
  split
  next hmet =>
    refine ⟨rfl, ?_, fun _ => rfl⟩
    intro _
    rcases hs.want with h | h
    · exact .inl (by omega)
    · exact .inr h.2
  next hunmet =>
    refine ⟨rfl, hreason, ?_⟩
    intro hwant
    rcases hs.want with h | h <;> omega

theorem Collecting.collectorStep (hs : Collecting s) (hwired : Wired s) (hledger : Ledger total s)
    (hpaced : Paced total s) (horderly : s.signal.isShutdown = false → Orderly s)
    (hworkers : s.workers ≠ [])
    (hwant : s.collector.mode = .gracefulDrain → 0 < s.collector.want) (h : CollectorStep s t) :
    Collecting t := by
  have hholds := hs.holds
  have hreason := hs.reason
  cases h with
  | sated hpoint htarget =>
      obtain ⟨hmode, hzero⟩ := targetReached_iff.mp htarget
      rw [hpoint] at hholds
      refine ⟨fun _ => .inl (Nat.le_trans hzero (Nat.zero_le _)), hmode, ?_, rfl⟩
      exact Eq.trans hholds (Nat.le_zero.mp hzero).symm
  | began hpoint htarget =>
      rw [hpoint] at hholds
      refine ⟨hreason, ?_, ?_⟩
      · intro hmode
        have hlt := lt_want_of_not_reached htarget hmode
        rw [← show s.counters.received = 0 from hholds] at hlt
        exact hlt
      · intro hpos
        exact absurd hholds (Nat.ne_of_gt hpos)
  | interrupted nextTick hpoint hsignal =>
      rw [hwired.isShutdown, hpoint] at hsignal
      cases hsignal
  | took p rest nextTick hpoint | ticked nextTick hpoint | undrained nextTick hpoint =>
      rw [hpoint] at hholds
      exact ⟨hreason, hholds.short, hholds.stopped⟩
  | deserted nextTick hpoint hsignal hbuffer hsenders =>
      rw [hpoint] at hholds
      have hcomplete := complete_of_deserted hwired hledger (horderly hsignal) hworkers
        (by rw [hpoint]; rfl) hbuffer hsenders
      exact ⟨hreason, ⟨hcomplete.sent, hcomplete.ended⟩, hholds.short⟩
  | drained nextTick hpoint hfinished =>
      rw [hpoint] at hholds
      have hcomplete := complete_of_drained hledger hpaced hholds hwant hfinished
      exact ⟨hreason, ⟨hcomplete.sent, hcomplete.ended⟩, hholds.short⟩
  | accepted p nextTick hpoint =>
      rw [hpoint] at hholds
      refine ⟨?_, rfl, ?_, hholds.short⟩
      · intro hstopped
        exact (hreason hstopped).imp_left fun hmet => Nat.le_succ_of_le hmet
      · have hmarker := hpaced.want
        cases hexhausted : s.counters.supplyExhausted with
        | true =>
            rw [hexhausted] at hmarker
            exact .inr ⟨hmarker, hexhausted⟩
        | false =>
            rw [hexhausted] at hmarker
            exact .inl hmarker
  | reached seen nextTick hpoint htarget =>
      rw [hpoint] at hholds
      obtain ⟨hmode, hmet⟩ := targetReached_iff.mp htarget
      rw [hholds.received] at hmet
      obtain ⟨counters, log, heq, hreceived, hkept, hstops⟩ := hholds.stopWhenEnough hreason
      have hexact := Nat.le_antisymm (hholds.within hmode) hmet
      rw [heq]
      refine ⟨?_, hmode, ?_, hstops hmet⟩
      · simpa [hreceived] using hkept
      · exact hreceived.trans hexact
  | continued seen nextTick hpoint htarget =>
      rw [hpoint] at hholds
      obtain ⟨counters, log, heq, hreceived, hkept, hstops⟩ := hholds.stopWhenEnough hreason
      rw [heq]
      refine ⟨?_, ?_, ?_⟩
      · simpa [hreceived] using hkept
      · intro hmode
        have hlt := lt_want_of_not_reached htarget hmode
        rw [hholds.received, ← hreceived] at hlt
        exact hlt
      · intro _ hmet
        exact hstops (hreceived ▸ hmet)
  | closedPausing exit hpoint | closed exit hpoint | woke exit _ hpoint =>
      rw [hpoint] at hholds
      exact ⟨hreason, hholds.of_frame rfl rfl rfl id fun h => ⟨h.sent, h.ended⟩⟩
  | reported exit hpoint =>
      rw [hpoint] at hholds
      refine ⟨hreason, (holds_afterDropping _ exit _).mpr ?_⟩
      exact hholds.of_frame rfl rfl rfl id fun h => ⟨h.sent, h.ended⟩

/-! ### All reachable states -/

theorem DispatcherStep.stops (h : DispatcherStep s t) (hstopped : t.counters.cursor = .stopped) :
    s.counters.cursor = .stopped := by
  cases h with
  | counted => cases hstopped
  | _ => exact hstopped

theorem collecting_of_move {m : Move} (hs : Collecting s) (hwired : Wired s)
    (hledger : Ledger total s) (hpaced : Paced total s)
    (horderly : s.signal.isShutdown = false → Orderly s) (hworkers : s.workers ≠ [])
    (hwant : s.collector.mode = .gracefulDrain → 0 < s.collector.want) (h : s.move m = some t) :
    Collecting t := by
  have honward := onward_of_move h
  cases moveStep_of_move h with
  | dispatcher h =>
      exact hs.of_frame honward h.frame.collector h.frame.received h.stops
        fun hcomplete => hcomplete.dispatcherStep hpaced h
  | worker k w hworker h =>
      have hframe := h.frame
      refine hs.of_frame honward hframe.collector hframe.received ?_
        fun hcomplete => hcomplete.workerStep hledger hworker h
      rw [hframe.cursor]
      exact id
  | collector h => exact hs.collectorStep hwired hledger hpaced horderly hworkers hwant h
  | supervisor h =>
      obtain ⟨supervisor, exits, metrics, log, rfl, -, -⟩ := supervisorStep_frame h
      exact hs.of_frame honward rfl rfl id fun h => ⟨h.sent, h.ended⟩
  | execution ticket h =>
      cases h <;> exact hs.of_frame honward rfl rfl id fun h => ⟨h.sent, h.ended⟩
  | advanced | released => exact hs.of_frame honward rfl rfl id fun h => ⟨h.sent, h.ended⟩

variable {config : PipelineConfig} {jobs : List Job}

theorem mode_of_reachable (hs : Reachable config jobs s) :
    s.collector.mode = config.shutdownMode :=
  congrArg Plan.mode (plan_of_reachable hs)

theorem want_of_reachable (hs : Reachable config jobs s) : s.collector.want = config.want :=
  congrArg Plan.want (plan_of_reachable hs)

theorem collecting_of_reachable (hs : Reachable config jobs s) (hcount : config.workerCount ≠ 0)
    (hwant : config.shutdownMode = .gracefulDrain → 0 < config.want) : Collecting s := by
  refine hs.induction ⟨fun h => (by cases h), rfl⟩ fun s m t hreach ih hmove => ?_
  refine collecting_of_move ih (wired_of_reachable hreach) (ledger_of_reachable hreach)
    (paced_of_reachable hreach) (orderly_of_reachable hreach hcount) (workers_ne_nil hreach hcount)
    ?_ hmove
  rw [mode_of_reachable hreach, want_of_reachable hreach]
  exact hwant

end Pipeline

end Fanout
