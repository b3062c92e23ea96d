import Fanout.Config
import Fanout.Config.Form

/-! The forms of the configurations. -/

namespace Fanout

def ShutdownMode.form : Form ShutdownMode :=
  .choice "ShutdownMode" ShutdownMode.label ShutdownMode.all

def PipelineConfig.fields : List (Field PipelineConfig) :=
  [.of "worker_count" .size (·.workerCount) fun n c => { c with workerCount := n },
    .of "want" .size (·.want) fun n c => { c with want := n },
    .of "task_timeout_ms" .milliseconds (·.taskTimeoutMs) fun n c => { c with taskTimeoutMs := n },
    .of "shutdown_mode" ShutdownMode.form (·.shutdownMode) fun m c => { c with shutdownMode := m },
    .of "trailing_pause" .boolean (·.trailingPause) fun b c => { c with trailingPause := b },
    .of "tick_interval_ms" .milliseconds (·.tickIntervalMs)
      fun n c => { c with tickIntervalMs := n },
    .of "handoff_capacity" .size (·.handoffCapacity) fun n c => { c with handoffCapacity := n }]

def PipelineConfig.form : Form PipelineConfig :=
  .record ⟨"DistribConfig", {}, fields⟩

def WorkloadConfig.fields : List (Field WorkloadConfig) :=
  [.of "task_count" .size (·.taskCount) fun n c => { c with taskCount := n },
    .of "min_task_ms" .milliseconds (·.minTaskMs) fun n c => { c with minTaskMs := n },
    .of "max_task_ms" .milliseconds (·.maxTaskMs) fun n c => { c with maxTaskMs := n }]

def WorkloadConfig.form : Form WorkloadConfig :=
  .record ⟨"WorkloadConfig", {}, fields⟩

def SocketAddress.form : Form (Option SocketAddress) :=
  .parsed "socket address" SocketAddress.parseErrorMessage SocketAddress.parse?
    SocketAddress.display

def RunnerConfig.fields : List (Field RunnerConfig) :=
  [.of "distrib" PipelineConfig.form (·.pipeline) fun p c => { c with pipeline := p },
    .of "workload" WorkloadConfig.form (·.workload) fun w c => { c with workload := w },
    .of "metrics_listen_addr" SocketAddress.form (·.metricsAddress)
      fun a c => { c with metricsAddress := a }]

def RunnerConfig.form : Form RunnerConfig :=
  .record ⟨"RunnerConfig", {}, fields⟩

end Fanout
