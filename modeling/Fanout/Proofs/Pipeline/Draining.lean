import Fanout.Proofs.Pipeline.Progress
import Fanout.Proofs.Pipeline.Verdict

/-!
Does a drained exit mean that the loading is over? A run that is complete stays so and counts no
dispatch any more (`Complete.move`), and a collector that ends with this exit has found the run
complete, unless a draining run has the target zero: its first tick finds nothing missing while the
loading goes on (`exists_drained_loading`). These runs are the only exception
(`loading_over_iff`).
-/

namespace Fanout

namespace Pipeline

/-- The loading is over, and it stays over: whatever follows, no dispatch is counted any more and none
is taken back. -/
structure LoadingOver (s : Pipeline) : Prop where
  ended : s.counters.supplyExhausted = true ∨ s.counters.cursor = .stopped
  sent : ∀ moves t, s.follow moves = some t → t.counters.sent = s.counters.sent
  refused : ∀ moves t i p, s.follow moves = some t → t.dispatcher.point = .counting i p →
    t.counters.tryRecordDispatch i = none

variable {s t : Pipeline} {config : PipelineConfig} {jobs : List Job}

/-- Nothing is left to happen to the counters once everything that was counted has arrived. -/
theorem Complete.move {total : Nat} {m : Move} (hs : Complete s) (hledger : Ledger total s)
    (hpaced : Paced total s) (hexit : s.collector.point.exit?.isSome = true)
    (h : s.move m = some t) : Complete t ∧ t.counters.sent = s.counters.sent := by
  have hsent : Complete t → t.counters.received = s.counters.received →
      Complete t ∧ t.counters.sent = s.counters.sent := by
    intro ht hreceived
    refine ⟨ht, ?_⟩
    rw [ht.sent, hreceived, hs.sent]
  cases moveStep_of_move h with
  | dispatcher h => exact hsent (hs.dispatcherStep hpaced h) h.frame.received
  | worker k w hworker h => exact hsent (hs.workerStep hledger hworker h) h.frame.received
  | collector h =>
      cases h with
      | closedPausing | closed | woke | reported => exact hsent ⟨hs.sent, hs.ended⟩ rfl
      | sated hpoint | began hpoint | interrupted _ hpoint | took _ _ _ hpoint | deserted _ hpoint
      | ticked _ hpoint | drained _ hpoint | undrained _ hpoint | accepted _ _ hpoint
      | reached _ _ hpoint | continued _ _ hpoint =>
          rw [hpoint] at hexit
          cases hexit
  | supervisor h =>
      obtain ⟨supervisor, exits, metrics, log, rfl, -, -⟩ := supervisorStep_frame h
      exact hsent ⟨hs.sent, hs.ended⟩ rfl
  | execution ticket h => cases h <;> exact hsent ⟨hs.sent, hs.ended⟩ rfl
  | advanced | released => exact hsent ⟨hs.sent, hs.ended⟩ rfl

/-- An exit that was decided on stays. -/
theorem exit?_of_move {m : Move} {exit : CollectorExit}
    (hexit : s.collector.point.exit? = some exit) (h : s.move m = some t) :
    t.collector.point.exit? = some exit := by
  cases moveStep_of_move h with
  | dispatcher h => rw [h.frame.collector, hexit]
  | worker k w hworker h => rw [h.frame.collector, hexit]
  | collector h =>
      cases h with
      | closedPausing _ hpoint | closed _ hpoint | woke _ _ hpoint =>
          rw [hpoint] at hexit
          exact hexit
      | reported _ hpoint =>
          rw [hpoint] at hexit
          cases hexit
          exact CollectorPoint.exit?_afterDropping exit _
      | sated hpoint | began hpoint | interrupted _ hpoint | took _ _ _ hpoint | deserted _ hpoint
      | ticked _ hpoint | drained _ hpoint | undrained _ hpoint | accepted _ _ hpoint
      | reached _ _ hpoint | continued _ _ hpoint =>
          rw [hpoint] at hexit
          cases hexit
  | supervisor h =>
      obtain ⟨supervisor, exits, metrics, log, rfl, -, -⟩ := supervisorStep_frame h
      exact hexit
  | execution ticket h => cases h <;> exact hexit
  | advanced | released => exact hexit

/-- A dispatcher that is about to count is refused once the run is complete. -/
theorem Complete.refuses {total i : Nat} {p : Packet Job} (hs : Complete s) (hpaced : Paced total s)
    (hpoint : s.dispatcher.point = .counting i p) : s.counters.tryRecordDispatch i = none := by
  rcases hs.ended with hexhausted | hstopped
  · have hover := (hpaced.exhausted hexhausted).2
    rw [hpoint] at hover
    cases hover
  · simp [Counters.tryRecordDispatch, hstopped]

/-- When the collector has ended and the run is complete, the loading is over. -/
theorem Complete.loadingOver {exit : CollectorExit} (hs : Complete s)
    (hreach : Reachable config jobs s) (hexit : s.collector.point.exit? = some exit) :
    LoadingOver s := by
  have hlater : ∀ moves t, s.follow moves = some t →
      Complete t ∧ t.counters.sent = s.counters.sent ∧ Reachable config jobs t := by
    intro moves t hfollow
    have hstays := follow_preserves
      (P := fun u => Reachable config jobs u ∧ u.collector.point.exit? = some exit ∧ Complete u ∧
        u.counters.sent = s.counters.sent)
      (fun u m v hu hmove => by
        obtain ⟨hureach, huexit, hucomplete, husent⟩ := hu
        obtain ⟨hcomplete, hsent⟩ := hucomplete.move (ledger_of_reachable hureach)
          (paced_of_reachable hureach) (by rw [huexit]; rfl) hmove
        exact ⟨hureach.move hmove, exit?_of_move huexit hmove, hcomplete, hsent.trans husent⟩)
      ⟨hreach, hexit, hs, rfl⟩ hfollow
    exact ⟨hstays.2.2.1, hstays.2.2.2, hstays.1⟩
  refine ⟨hs.ended, fun moves t hfollow => (hlater moves t hfollow).2.1, ?_⟩
  intro moves t i p hfollow hpoint
  obtain ⟨hcomplete, -, htreach⟩ := hlater moves t hfollow
  exact hcomplete.refuses (paced_of_reachable htreach) hpoint

/-- With the target zero the first tick of a draining run finds it drained, whatever there is to
load. -/
theorem exists_drained_loading (hcount : config.workerCount ≠ 0)
    (hmode : config.shutdownMode = .gracefulDrain) (hwant : config.want = 0) (jobs : List Job) :
    ∃ s, Reachable config jobs s ∧ s.collector.point.exit? = some .drained ∧
      s.counters = .new 0 := by
  have hfollow : (ofRun config jobs).follow (List.replicate 3 (.act .collector)) =
      some ((ofRun config jobs).setCollector (.closing .drained)) := by
    simp [follow, Pipeline.move, step, stepCollector, ofRun, Collector.targetReached,
      Collector.isFinished, Signal.isShutdown, Channel.take?, Counters.isDrained, Counters.new,
      hcount, hmode, hwant]
  refine ⟨_, ⟨_, hfollow⟩, rfl, ?_⟩
  rw [← hwant]
  rfl

/-- In a run of a valid configuration a drained exit means that the loading is over, unless the run
drains and has the target zero. -/
theorem loading_over_iff (hvalid : config.defect? = none) :
    (∀ s, Reachable config jobs s → s.collector.point.exit? = some .drained → LoadingOver s) ↔
      config.shutdownMode = .abandon ∨ 0 < config.want := by
  have hcount := (defect?_eq_none hvalid).1
  constructor
  · intro hover
    cases hmode : config.shutdownMode with
    | abandon => exact .inl rfl
    | gracefulDrain =>
        refine .inr (Nat.pos_of_ne_zero fun hzero => ?_)
        obtain ⟨s, hs, hexit, hcounters⟩ := exists_drained_loading hcount hmode hzero jobs
        have hended := (hover s hs hexit).ended
        rw [hcounters] at hended
        rcases hended with h | h <;> cases h
  · intro hplan s hs hexit
    have hwant : config.shutdownMode = .gracefulDrain → 0 < config.want := by
      intro hmode
      rw [hmode] at hplan
      exact hplan.resolve_left nofun
    have hholds := (collecting_of_reachable hs hcount hwant).holds
    have hcomplete : Complete s := by
      cases hpoint : s.collector.point <;> rw [hpoint] at hexit hholds <;> cases hexit <;>
        exact hholds.1
    exact hcomplete.loadingOver hs hexit

/-- The first of two tasks meets the target, and the next tick finds the run drained. -/
theorem loading_over_of_two : ∃ s,
    Reachable { workerCount := 1, want := 1 } (List.replicate 2 ⟨.instant, 0⟩) s ∧
    s.collector.point.exit? = some .drained ∧ s.counters.sent = 1 ∧ LoadingOver s := by
  let moves := List.replicate 4 (Move.act .dispatcher) ++ [.act (.worker 0), .act (.execution 0),
    .act (.worker 0), .act (.worker 0), .act .collector, .act .collector, .act .collector,
    .act .collector, .act .collector, .act .collector]
  have hrun : ∃ s, (ofRun { workerCount := 1, want := 1 } (List.replicate 2 ⟨.instant, 0⟩)).follow moves =
      some s ∧ s.collector.point.exit? = some .drained ∧ s.counters.sent = 1 := ⟨_, rfl, rfl, rfl⟩
  obtain ⟨s, hfollow, hexit, hsent⟩ := hrun
  exact ⟨s, ⟨moves, hfollow⟩, hexit, hsent,
    (loading_over_iff rfl).mpr (.inr Nat.one_pos) s ⟨moves, hfollow⟩ hexit⟩

/-- With the target zero the collector finds the run drained while the dispatcher holds a slot, and then
the dispatch is counted. -/
theorem drains_while_loading : ∃ s t,
    Reachable { workerCount := 1, want := 0 } [⟨.instant, 0⟩] s ∧
    s.collector.point.exit? = some .drained ∧ s.counters.supplyExhausted = false ∧
    s.counters.cursor ≠ .stopped ∧ s.move (.act .dispatcher) = some t ∧
    s.counters.sent = 0 ∧ t.counters.sent = 1 := by
  let moves := List.replicate 2 (Move.act .dispatcher) ++ List.replicate 3 (.act .collector)
  have hrun : ∃ s t, (ofRun { workerCount := 1, want := 0 } [⟨.instant, 0⟩]).follow moves = some s ∧
      s.collector.point.exit? = some .drained ∧ s.counters.supplyExhausted = false ∧
      s.counters.cursor = .loading 0 ∧ s.move (.act .dispatcher) = some t ∧
      s.counters.sent = 0 ∧ t.counters.sent = 1 := ⟨_, _, rfl, rfl, rfl, rfl, rfl, rfl, rfl⟩
  obtain ⟨s, t, hfollow, hexit, hexhausted, hcursor, hcounts, hbefore, hafter⟩ := hrun
  exact ⟨s, t, ⟨moves, hfollow⟩, hexit, hexhausted, by simp [hcursor], hcounts, hbefore, hafter⟩

end Pipeline

end Fanout
