import Fanout.Pipeline.Report
import Fanout.Proofs.Pipeline.Termination

/-!
A run comes to its end. Once the collector has decided to end, only its final pause can keep it, and
after that the signal is closed, so that neither the dispatcher nor a worker can stay. The caller then
has seen the end of every stage, or it has panicked with the collector.
-/

namespace Fanout

namespace Pipeline

variable {s t : Pipeline} {config : PipelineConfig} {jobs : List Job}

/-- The stages and the caller of a run are there, and the final pause is short. -/
structure Present (s : Pipeline) : Prop where
  collector : s.collector.point ≠ .absent
  supervisor : s.supervisor.point ≠ .absent
  pause : ∀ exit wake, s.collector.point = .pausing exit wake →
    wake ≤ s.now + PipelineConfig.trailingPauseMs

theorem Present.of_frame (hs : Present s) (hnow : s.now ≤ t.now)
    (hcollector : t.collector = s.collector) (hsupervisor : t.supervisor = s.supervisor) :
    Present t where
  collector := hcollector ▸ hs.collector
  supervisor := hsupervisor ▸ hs.supervisor
  pause exit wake hpoint := by
    rw [hcollector] at hpoint
    have hwake := hs.pause exit wake hpoint
    omega

theorem Present.collectorStep (hs : Present s) (h : CollectorStep s t) : Present t := by
  have hframe := h.frame
  have hsupervisor : t.supervisor.point ≠ .absent := hframe.supervisor ▸ hs.supervisor
  cases h with
  | closedPausing exit =>
      refine ⟨by simp, hsupervisor, ?_⟩
      intro exit' wake hpoint
      cases hpoint
      exact Nat.le_refl _
  | reached | continued => exact ⟨by simp, hsupervisor, fun _ _ hpoint => by cases hpoint⟩
  | reported exit =>
      have hover := CollectorPoint.isOver_afterDropping exit s.outbound.lostWithReceiver
      refine ⟨fun habsent => ?_, hsupervisor, fun exit' wake hpausing => ?_⟩
      · rw [show CollectorPoint.afterDropping exit _ = _ from habsent] at hover
        cases hover
      · rw [show CollectorPoint.afterDropping exit _ = _ from hpausing] at hover
        cases hover
  | _ =>
      refine ⟨by simp [accept], hsupervisor, ?_⟩
      intro exit wake hpoint
      cases hpoint

theorem Present.supervisorStep (hs : Present s) (h : SupervisorStep s t) : Present t := by
  have hpoint : t.supervisor.point ≠ .absent := by
    cases h with
    | sawCollector => simp
    | sawDispatcher | sawDispatcherCrash =>
        rw [afterDispatcher_eq]
        simp only [setSupervisor]
        split <;> simp
    | joined k rest hpoint => simp [hpoint]
    | returned => simp [endSupervisor]
  obtain ⟨supervisor, exits, metrics, log, rfl, -, -⟩ := supervisorStep_frame h
  exact ⟨hs.collector, hpoint, hs.pause⟩

theorem runReport?_eq_some {report : RunReport} (h : s.runReport? = some report) :
    s.collector.point = .finished report.exit ∧ report.packets = s.collector.results ∧
      report.counters = s.counters := by
  unfold runReport? collection? at h
  split at h
  next =>
    split at h
    next exit hpoint =>
      cases h
      exact ⟨hpoint, rfl, rfl⟩
    next => cases h
  next => cases h

theorem Rounds.split {n : Nat} (h : Rounds n s t) :
    ∀ a b, n = a + b → ∃ u, Rounds a s u ∧ Rounds b u t := by
  induction h with
  | refl s =>
      intro a b hn
      obtain ⟨rfl, rfl⟩ : a = 0 ∧ b = 0 := by omega
      exact ⟨s, .refl s, .refl s⟩
  | tail hbefore hround ih =>
      intro a b hn
      cases b with
      | zero =>
          subst hn
          exact ⟨_, .tail hbefore hround, .refl _⟩
      | succ b =>
          obtain ⟨u, hfirst, hrest⟩ := ih a b (by omega)
          exact ⟨u, hfirst, .tail hrest hround⟩

theorem Rounds.follow {n : Nat} (h : Rounds n s t) : ∃ moves, s.follow moves = some t := by
  induction h with
  | refl => exact ⟨[], rfl⟩
  | tail hbefore hround ih =>
      rename_i t u
      obtain ⟨before, hfirst⟩ := ih
      obtain ⟨moves, hmoves, -⟩ := hround
      refine ⟨before ++ .advance t.taskTimeoutMs :: moves, ?_⟩
      rw [follow_append, hfirst]
      exact hmoves

end Pipeline

end Fanout
