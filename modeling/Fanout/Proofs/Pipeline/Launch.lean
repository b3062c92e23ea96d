import Fanout.Pipeline.Launch
import Fanout.Proofs.Pipeline.Plan
import Fanout.Proofs.Config.RoundTrip

/-!
Whether a run can be set up. A configuration without a defect asks for channels with slots and for a tick
with a period, so all parts of its run can be made, with one exception: nothing keeps the capacity of the
handoff channel below the limit of channels. The run of such a configuration panics before any stage has
moved (`launch_by_capacity`).
-/

namespace Fanout

variable {config : PipelineConfig} {jobs : List Job}

namespace Channel

theorem bounded_eq_ok {α : Type} {capacity : Nat} (hpos : capacity ≠ 0) (hmax : capacity ≤ maxCapacity)
    (senders receivers : Nat) :
    (bounded capacity senders receivers : Except SetupFault (Channel α)) =
      .ok { capacity, senders, receivers } := by
  rw [bounded, if_neg hpos, if_neg (Nat.not_lt.mpr hmax)]

theorem bounded_eq_error {α : Type} {capacity : Nat} (hpos : capacity ≠ 0)
    (hmax : maxCapacity < capacity) (senders receivers : Nat) :
    (bounded capacity senders receivers : Except SetupFault (Channel α)) =
      .error .excessiveCapacity := by
  rw [bounded, if_neg hpos, if_pos hmax]

end Channel

/-- A collector with a period can make its ticker, and goes where its first step takes it. -/
theorem Collector.firstPoint_eq {s : Pipeline} (htick : s.collector.tickIntervalMs ≠ 0)
    (hstart : s.collector.point = .starting) :
    ∃ point t, s.collector.firstPoint s.now = .ok point ∧ s.step .collector = some t ∧
      t.collector.point = point := by
  simp only [firstPoint, Pipeline.step, Pipeline.stepCollector, hstart, if_neg htick]
  split
  next => exact ⟨_, _, rfl, rfl, rfl⟩
  next => exact ⟨_, _, rfl, rfl, rfl⟩

namespace Pipeline

theorem setUp_eq_ok (hvalid : config.defect? = none)
    (hmax : config.handoffCapacity ≤ Channel.maxCapacity) (jobs : List Job) :
    setUp config jobs = .ok (ofRun config jobs) := by
  obtain ⟨-, -, htick, hcapacity⟩ := PipelineConfig.defect?_eq_none_iff.mp hvalid
  obtain ⟨point, -, hpoint, -⟩ :=
    Collector.firstPoint_eq (s := ofRun config jobs) htick rfl
  rw [setUp, Channel.bounded_eq_ok hcapacity hmax,
    Channel.bounded_eq_ok Nat.one_ne_zero (by decide : 1 ≤ Channel.maxCapacity)]
  show ((ofRun config jobs).collector.firstPoint (ofRun config jobs).now >>=
    fun _ => Except.ok (ofRun config jobs)) = .ok (ofRun config jobs)
  rw [hpoint]
  rfl

theorem setUp_eq_error (hvalid : config.defect? = none)
    (hmax : Channel.maxCapacity < config.handoffCapacity) (jobs : List Job) :
    setUp config jobs = .error .excessiveCapacity := by
  obtain ⟨-, -, -, hcapacity⟩ := PipelineConfig.defect?_eq_none_iff.mp hvalid
  rw [setUp, Channel.bounded_eq_error hcapacity hmax]
  rfl

/-- Whenever the collector begins, it can make its ticker. -/
theorem Reachable.firstPoint {s : Pipeline} (hs : Reachable config jobs s)
    (hvalid : config.defect? = none) (hstart : s.collector.point = .starting) :
    ∃ point t, s.collector.firstPoint s.now = .ok point ∧ s.step .collector = some t ∧
      t.collector.point = point := by
  refine Collector.firstPoint_eq ?_ hstart
  have hplan : s.collector.tickIntervalMs = config.tickIntervalMs :=
    congrArg Plan.tickIntervalMs (plan_of_reachable hs)
  rw [hplan]
  exact (PipelineConfig.defect?_eq_none_iff.mp hvalid).2.2.1

end Pipeline

namespace PipelineConfig

theorem launch_of_none (hvalid : config.defect? = none) (works : List Work) :
    config.launch works =
      (Pipeline.setUp config (works.map fun work => { work })).mapError .panicked := by
  rw [launch, hvalid]

theorem launch_of_fits (hvalid : config.defect? = none)
    (hmax : config.handoffCapacity ≤ Channel.maxCapacity) (works : List Work) :
    config.launch works = .ok (.ofRun config (works.map fun work => { work })) := by
  rw [launch_of_none hvalid, Pipeline.setUp_eq_ok hvalid hmax]
  rfl

theorem launch_of_beyond (hvalid : config.defect? = none)
    (hmax : Channel.maxCapacity < config.handoffCapacity) (works : List Work) :
    config.launch works = .error (.panicked .excessiveCapacity) := by
  rw [launch_of_none hvalid, Pipeline.setUp_eq_error hvalid hmax]
  rfl

/-- What is launched is the run of a configuration without a defect, and its channels can be had. -/
theorem of_launch_eq_ok {works : List Work} {s : Pipeline} (h : config.launch works = .ok s) :
    config.defect? = none ∧ config.handoffCapacity ≤ Channel.maxCapacity ∧
      s = .ofRun config (works.map fun work => { work }) := by
  cases hdefect : config.defect? with
  | some d =>
    rw [launch, hdefect] at h
    cases h
  | none =>
    rcases Nat.lt_or_ge Channel.maxCapacity config.handoffCapacity with hbeyond | hmax
    · rw [launch_of_beyond hdefect hbeyond] at h
      cases h
    · rw [launch_of_fits hdefect hmax] at h
      cases h
      exact ⟨rfl, hmax, rfl⟩

/-- How the call of a run begins. A configuration with a defect is refused with a failure of configuration.
One without is set up and runs, if the capacity of its handoff channel is not beyond what a channel can
have: both channels have slots, and the collector can make its ticker whenever it begins. The only panic
that any configuration leads to is that of a capacity beyond the limit, and every such capacity leads to
it. -/
theorem launch_by_capacity (config : PipelineConfig) (works : List Work) :
    (∀ d, config.defect? = some d →
      config.launch works = .error (.refused d) ∧
        ∀ origin, (d.failure origin).kind = .configuration) ∧
    (config.defect? = none → config.handoffCapacity ≤ Channel.maxCapacity →
      ∃ s, config.launch works = .ok s ∧ s = .ofRun config (works.map fun work => { work }) ∧
        config.run works = .ok (Schedule.startRun s).finish.state ∧
        ∀ t, Pipeline.Reachable config (works.map fun work => { work }) t →
          t.collector.point = .starting → ∃ point u, t.collector.firstPoint t.now = .ok point ∧
            t.step .collector = some u ∧ u.collector.point = point) ∧
    ∀ fault, config.launch works = .error (.panicked fault) ↔
      config.defect? = none ∧ Channel.maxCapacity < config.handoffCapacity ∧
        fault = .excessiveCapacity := by
  cases hdefect : config.defect? with
  | some d =>
    have hrefused : config.launch works = .error (.refused d) := by rw [launch, hdefect]
    refine ⟨?_, nofun, fun fault => ?_⟩
    · rintro _ ⟨⟩
      exact ⟨hrefused, fun _ => rfl⟩
    · rw [hrefused]
      exact iff_of_false nofun nofun
  | none =>
    refine ⟨nofun, fun _ hmax => ?_, fun fault => ?_⟩
    · have hlaunch := launch_of_fits hdefect hmax works
      exact ⟨_, hlaunch, rfl, by rw [run, hlaunch]; rfl, fun t ht => ht.firstPoint hdefect⟩
    · by_cases hmax : config.handoffCapacity ≤ Channel.maxCapacity
      · rw [launch_of_fits hdefect hmax]
        exact iff_of_false nofun fun h => absurd hmax (Nat.not_le.mpr h.2.1)
      · have hbeyond := Nat.lt_of_not_le hmax
        rw [launch_of_beyond hdefect hbeyond]
        constructor
        · rintro ⟨⟩
          exact ⟨rfl, hbeyond, rfl⟩
        · rintro ⟨-, -, rfl⟩
          rfl

/-- The largest capacity that a channel can have is no hindrance, and no capacity is refused. -/
theorem launch_by_capacity_of_largest :
    let config : PipelineConfig := { handoffCapacity := Channel.maxCapacity, workerCount := 2 }
    config.defect? = none ∧ config.handoffCapacity ≤ Channel.maxCapacity ∧
      (∃ s, config.launch [.hanging] = .ok s ∧ s.handoff.capacity = 2305843009213693951 ∧
        s.workers = [⟨0, .idle⟩, ⟨1, .idle⟩]) ∧
      ({ config with tickIntervalMs := 0 } : PipelineConfig).launch [.hanging] =
        .error (.refused .zeroTick) := by
  intro config
  obtain ⟨-, hstarts, -⟩ := launch_by_capacity config [.hanging]
  obtain ⟨s, hlaunch, hs, -⟩ := hstarts (by decide) (by decide)
  refine ⟨by decide, by decide, ⟨s, hlaunch, ?_, ?_⟩, ?_⟩
  · rw [hs]
    decide
  · rw [hs]
    rfl
  · exact ((launch_by_capacity { config with tickIntervalMs := 0 } [.hanging]).1 _ rfl).1

/-- One slot more, in a configuration of 64-bit numbers that has no defect, and the run panics. -/
theorem launch_panics_beyond_limit :
    let config : PipelineConfig := { handoffCapacity := Channel.maxCapacity + 1 }
    config.InRange ∧ config.defect? = none ∧
      config.launch [.instant] = .error (.panicked .excessiveCapacity) ∧
      ¬ (config.defect? = none → ∃ s, config.launch [.instant] = .ok s) := by
  intro config
  have hlaunch : config.launch [.instant] = .error (.panicked .excessiveCapacity) := rfl
  refine ⟨⟨by decide, by decide, by decide, by decide, by decide⟩, rfl, hlaunch, fun h => ?_⟩
  obtain ⟨s, hs⟩ := h rfl
  rw [hlaunch] at hs
  cases hs

end PipelineConfig

end Fanout
