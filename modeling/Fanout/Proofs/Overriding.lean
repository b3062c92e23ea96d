import Fanout.Proofs.Environment
import Fanout.Proofs.Settings.Reload
import Fanout.Proofs.Workload

/-!
What a command line makes of a configuration, and when the runner starts with it. Options are laid over a
loaded configuration before it is looked at, so that they may mend it or spoil it
(`overriding_keeps_usable`). The rules that are checked then are those that a run and the drawing of its
workload rely on.
-/

namespace Fanout

/-! ### Usable configurations -/

namespace RunnerConfig

/-- The rules for a configuration, all of them. -/
structure IsUsable (c : RunnerConfig) : Prop where
  workers : c.pipeline.workerCount ≠ 0
  timeout : c.pipeline.taskTimeoutMs ≠ 0
  tick : c.pipeline.tickIntervalMs ≠ 0
  capacity : c.pipeline.handoffCapacity ≠ 0
  range : c.workload.minTaskMs ≤ c.workload.maxTaskMs

variable {c : RunnerConfig}

theorem defect?_eq_none_iff : c.defect? = none ↔ c.IsUsable := by
  rw [defect?, Option.or_eq_none_iff, PipelineConfig.defect?_eq_none_iff,
    WorkloadConfig.defect?_eq_none_iff]
  exact ⟨fun ⟨⟨hworkers, htimeout, htick, hcapacity⟩, hrange⟩ =>
      ⟨hworkers, htimeout, htick, hcapacity, hrange⟩,
    fun h => ⟨⟨h.workers, h.timeout, h.tick, h.capacity⟩, h.range⟩⟩

/-- A range is found to be inverted only where it is. -/
theorem lt_of_invertedRange {lo hi : Nat} (h : c.defect? = some (.invertedRange lo hi)) :
    c.workload.maxTaskMs < c.workload.minTaskMs := by
  rcases Option.or_eq_some_iff.mp h with hpipeline | ⟨-, hworkload⟩
  · unfold PipelineConfig.defect? at hpipeline
    split_ifs at hpipeline <;> cases hpipeline
  · unfold WorkloadConfig.defect? at hworkload
    split_ifs at hworkload with hlt
    exact hlt

/-- A usable configuration is one that a run accepts. -/
theorem IsUsable.accepted (h : c.IsUsable) : c.pipeline.defect? = none :=
  PipelineConfig.defect?_eq_none_iff.mpr ⟨h.workers, h.timeout, h.tick, h.capacity⟩

/-- No run of it is refused, whatever its works. -/
theorem IsUsable.not_refused (h : c.IsUsable) (works : List Work) (d : ConfigDefect) :
    c.pipeline.launch works ≠ .error (.refused d) := by
  simp only [PipelineConfig.launch, h.accepted]
  cases Pipeline.setUp c.pipeline (works.map fun work => { work }) <;> exact nofun

/-- No random words make its workload panic for want of a range. -/
theorem IsUsable.draw (h : c.IsUsable) (words : List Nat) : c.workload.draw words ≠ .error .emptyRange :=
  fun hempty => Nat.not_lt.mpr h.range (WorkloadConfig.draw_eq_emptyRange_iff.mp hempty).1

end RunnerConfig

/-! ### Laying options over a configuration -/

/-- A field with an option laid over it: the option if it is given, and else what the field was. -/
def IsLaidOver {α : Type} (option : Option α) (before after : α) : Prop :=
  (∀ a, option = some a → after = a) ∧ (option = none → after = before)

theorem isLaidOver_iff {α : Type} {option : Option α} {before after : α} :
    IsLaidOver option before after ↔ after = option.getD before := by
  cases option <;> simp [IsLaidOver]

/-- An option that has been laid over a field is there when it comes again. -/
theorem isLaidOver_again {α : Type} (option : Option α) (a : α) :
    IsLaidOver option (option.getD a) (option.getD a) := by
  rw [isLaidOver_iff]
  cases option <;> rfl

theorem getD_ne_zero {option : Option Nat} {n : Nat} (hoption : option ≠ some 0) (hn : n ≠ 0) :
    option.getD n ≠ 0 := by
  cases option with
  | none => exact hn
  | some m => exact fun hzero => hoption (congrArg some hzero)

namespace CommandLine

/-- What the options change and what they leave. An upper bound takes the lower bound down with it. -/
structure Overrides (line : CommandLine) (c d : RunnerConfig) : Prop where
  workers : IsLaidOver line.workers c.pipeline.workerCount d.pipeline.workerCount
  want : IsLaidOver line.want c.pipeline.want d.pipeline.want
  timeout : IsLaidOver line.timeoutMs c.pipeline.taskTimeoutMs d.pipeline.taskTimeoutMs
  shutdownMode : IsLaidOver line.shutdownMode c.pipeline.shutdownMode d.pipeline.shutdownMode
  trailingPause : d.pipeline.trailingPause = c.pipeline.trailingPause
  tick : d.pipeline.tickIntervalMs = c.pipeline.tickIntervalMs
  capacity : d.pipeline.handoffCapacity = c.pipeline.handoffCapacity
  tasks : IsLaidOver line.tasks c.workload.taskCount d.workload.taskCount
  upper : IsLaidOver line.maxTaskMs c.workload.maxTaskMs d.workload.maxTaskMs
  lower : IsLaidOver (line.maxTaskMs.map (min c.workload.minTaskMs)) c.workload.minTaskMs
    d.workload.minTaskMs
  address : IsLaidOver (line.metricsAddress.map some) c.metricsAddress d.metricsAddress

variable {line : CommandLine} {c d : RunnerConfig}

theorem minTaskMs_override (line : CommandLine) (c : RunnerConfig) :
    (line.override c).workload.minTaskMs =
      (line.maxTaskMs.map (min c.workload.minTaskMs)).getD c.workload.minTaskMs := by
  unfold override
  cases line.maxTaskMs <;> rfl

theorem metricsAddress_override (line : CommandLine) (c : RunnerConfig) :
    (line.override c).metricsAddress = (line.metricsAddress.map some).getD c.metricsAddress := by
  unfold override
  cases line.metricsAddress <;> rfl

theorem overrides_override (line : CommandLine) (c : RunnerConfig) :
    line.Overrides c (line.override c) where
  workers := isLaidOver_iff.mpr rfl
  want := isLaidOver_iff.mpr rfl
  timeout := isLaidOver_iff.mpr rfl
  shutdownMode := isLaidOver_iff.mpr rfl
  trailingPause := rfl
  tick := rfl
  capacity := rfl
  tasks := isLaidOver_iff.mpr rfl
  upper := isLaidOver_iff.mpr rfl
  lower := isLaidOver_iff.mpr (minTaskMs_override line c)
  address := isLaidOver_iff.mpr (metricsAddress_override line c)

/-- The fields are described completely. -/
theorem overrides_iff : line.Overrides c d ↔ d = line.override c := by
  constructor
  · intro h
    obtain ⟨⟨_, _, _, _, _, _, _⟩, ⟨_, _, _⟩, _⟩ := d
    obtain ⟨hworkers, hwant, htimeout, hmode, hpause, htick, hcapacity, htasks, hupper, hlower,
      haddress⟩ := h
    simp only [isLaidOver_iff] at *
    subst_vars
    rw [← minTaskMs_override, ← metricsAddress_override]
    rfl
  · rintro rfl
    exact overrides_override line c

/-- What is laid over twice is the same as laid over once. -/
theorem override_override (line : CommandLine) (c : RunnerConfig) :
    line.override (line.override c) = line.override c := by
  symm
  rw [← overrides_iff]
  exact {
    workers := isLaidOver_again _ _
    want := isLaidOver_again _ _
    timeout := isLaidOver_again _ _
    shutdownMode := isLaidOver_again _ _
    trailingPause := rfl
    tick := rfl
    capacity := rfl
    tasks := isLaidOver_again _ _
    upper := isLaidOver_again _ _
    lower := by
      rw [minTaskMs_override]
      cases line.maxTaskMs <;> simp [IsLaidOver]
    address := by
      rw [metricsAddress_override]
      exact isLaidOver_again _ _ }

/-- With an upper bound there is no inverted range. -/
theorem range_override {m : Nat} (h : line.maxTaskMs = some m) (c : RunnerConfig) :
    (line.override c).workload.minTaskMs ≤ (line.override c).workload.maxTaskMs := by
  have hupper : (line.override c).workload.maxTaskMs = m := congrArg (Option.getD · _) h
  rw [minTaskMs_override, hupper, h]
  exact Nat.min_le_right _ _

/-- Options keep a configuration usable, unless they ask for no workers or no time. -/
theorem isUsable_override (hc : c.IsUsable) (hworkers : line.workers ≠ some 0)
    (htimeout : line.timeoutMs ≠ some 0) : (line.override c).IsUsable where
  workers := getD_ne_zero hworkers hc.workers
  timeout := getD_ne_zero htimeout hc.timeout
  tick := hc.tick
  capacity := hc.capacity
  range := by
    cases hoption : line.maxTaskMs with
    | some m => exact range_override hoption c
    | none =>
      have hupper : (line.override c).workload.maxTaskMs = c.workload.maxTaskMs :=
        congrArg (Option.getD · _) hoption
      rw [minTaskMs_override, hupper, hoption]
      exact hc.range

end CommandLine

/-! ### Loading the configuration of a run -/

namespace Runner

variable {line : CommandLine} {files : FileView} {vars : List Variable} {environment : Environment}
  {c d : RunnerConfig}

/-- Of a configuration that can be loaded, what the options make of it is looked at. -/
theorem loadIn_eq_ok_iff
    (h : Fanout.loadConfig RunnerConfig.form.reading files vars line.configDir environment = .ok c) :
    loadIn environment line files vars = .ok d ↔ d = line.override c ∧ d.IsUsable := by
  simp only [loadIn, h]
  cases hdefect : (line.override c).defect? with
  | none =>
    have husable := RunnerConfig.defect?_eq_none_iff.mp hdefect
    simp only [Except.ok.injEq]
    exact ⟨fun heq => heq ▸ ⟨rfl, husable⟩, fun hd => hd.1.symm⟩
  | some x =>
    constructor
    · intro herror
      cases herror
    · rintro ⟨rfl, husable⟩
      cases hdefect.symm.trans (RunnerConfig.defect?_eq_none_iff.mpr husable)

/-- The runner starts with what the options make of a configuration that was loaded for the environment. -/
theorem loadConfig_eq_ok_iff : loadConfig line files vars = .ok d ↔
    ∃ environment c,
      Environment.ofVariable (Variable.text? Environment.variableName vars) = .ok environment ∧
      Fanout.loadConfig RunnerConfig.form.reading files vars line.configDir environment = .ok c ∧
      d = line.override c ∧ d.IsUsable := by
  constructor
  · intro h
    cases henvironment : Environment.ofVariable (Variable.text? Environment.variableName vars) with
    | error message =>
      rw [loadConfig_of_refused henvironment] at h
      cases h
    | ok environment =>
      rw [loadConfig_of_environment henvironment] at h
      cases hload : Fanout.loadConfig RunnerConfig.form.reading files vars line.configDir environment with
      | error fault =>
        simp only [loadIn, hload] at h
        cases h
      | ok c => exact ⟨environment, c, rfl, hload, (loadIn_eq_ok_iff hload).mp h⟩
  · rintro ⟨environment, c, henvironment, hload, hd⟩
    rw [loadConfig_of_environment henvironment]
    exact (loadIn_eq_ok_iff hload).mpr hd

end Runner

/-- Options laid over a configuration twice change nothing more; a field is what its option says, or else
what it was, and only an upper bound on times changes the lower one, so that no range is inverted behind
it. A configuration without defects stays without them if no option asks for no workers or no time. The
runner starts with a configuration that can be loaded exactly when the options have made it usable,
whatever it was before, and such a configuration is accepted for a run and its workload has a range to
draw from. -/
theorem overriding_keeps_usable (line : CommandLine) :
    (∀ c : RunnerConfig,
      line.override (line.override c) = line.override c ∧
      (∀ d, line.Overrides c d ↔ d = line.override c) ∧
      (line.maxTaskMs ≠ none → ∀ lo hi, (line.override c).defect? ≠ some (.invertedRange lo hi)) ∧
      (c.defect? = none → line.workers ≠ some 0 → line.timeoutMs ≠ some 0 →
        (line.override c).defect? = none)) ∧
    ∀ (files : FileView) (vars : List Variable),
      (∀ environment c,
        Environment.ofVariable (Variable.text? Environment.variableName vars) = .ok environment →
        loadConfig RunnerConfig.form.reading files vars line.configDir environment = .ok c →
        ((∃ d, Runner.loadConfig line files vars = .ok d) ↔ (line.override c).IsUsable) ∧
        ∀ d, Runner.loadConfig line files vars = .ok d → d = line.override c) ∧
      ∀ d, Runner.loadConfig line files vars = .ok d →
        d.pipeline.defect? = none ∧
        (∀ works defect, d.pipeline.launch works ≠ .error (.refused defect)) ∧
        ∀ words, d.workload.draw words ≠ .error .emptyRange := by
  refine ⟨fun c => ⟨line.override_override c, fun d => CommandLine.overrides_iff, ?_, ?_⟩,
    fun files vars => ⟨fun environment c henvironment hload => ?_, fun d hd => ?_⟩⟩
  · intro hupper lo hi hdefect
    obtain ⟨m, hm⟩ := Option.ne_none_iff_exists'.mp hupper
    exact Nat.not_lt.mpr (CommandLine.range_override hm c) (RunnerConfig.lt_of_invertedRange hdefect)
  · simp only [RunnerConfig.defect?_eq_none_iff]
    exact CommandLine.isUsable_override
  · have hiff : ∀ d, Runner.loadConfig line files vars = .ok d ↔ d = line.override c ∧ d.IsUsable := by
      intro d
      rw [Runner.loadConfig_of_environment henvironment]
      exact Runner.loadIn_eq_ok_iff hload
    refine ⟨⟨?_, fun husable => ⟨_, (hiff _).mpr ⟨rfl, husable⟩⟩⟩, fun d hd => ((hiff d).mp hd).1⟩
    rintro ⟨d, hd⟩
    obtain ⟨rfl, husable⟩ := (hiff d).mp hd
    exact husable
  · obtain ⟨-, -, -, -, -, husable⟩ := Runner.loadConfig_eq_ok_iff.mp hd
    exact ⟨husable.accepted, husable.not_refused, husable.draw⟩

/-- An upper bound mends a range that is inverted in the file, and asking for no workers spoils what would
be usable. -/
theorem overriding_keeps_usable_of_inverted :
    let c : RunnerConfig := { workload := { minTaskMs := 9, maxTaskMs := 5 } }
    let line (workers : Nat) : CommandLine := { maxTaskMs := some 4, workers := some workers }
    c.defect? = some (.invertedRange 9 5) ∧
      ((line 2).override {}).defect? = none ∧
      Runner.loadConfig (line 2) (writtenFile c) [] =
        .ok { pipeline := { workerCount := 2 }, workload := { minTaskMs := 4, maxTaskMs := 4 } } ∧
      ¬ ∃ d, Runner.loadConfig (line 0) (writtenFile c) [] = .ok d := by
  intro c line
  have hrange : c.InRange := ⟨by constructor <;> decide, by constructor <;> decide, by decide⟩
  have hload := RunnerConfig.loadConfig_written hrange (holdsOnly_writtenFile c) (List.forall_mem_nil _) .dev
  rw [show c.held = c by decide] at hload
  obtain ⟨hvalid, hloads⟩ := overriding_keeps_usable (line 2)
  obtain ⟨hstarts, heq⟩ := (hloads (writtenFile c) []).1 .dev c rfl hload
  obtain ⟨d, hd⟩ := hstarts.mpr (RunnerConfig.defect?_eq_none_iff.mp (by decide))
  have hspoilt := ((overriding_keeps_usable (line 0)).2 (writtenFile c) []).1 .dev c rfl hload
  exact ⟨by decide, (hvalid {}).2.2.2 (by decide) (by decide) (by decide), by rw [hd, heq d hd]; rfl,
    fun h => (hspoilt.1.mp h).workers rfl⟩

end Fanout
