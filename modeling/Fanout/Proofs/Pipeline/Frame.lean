import Fanout.Proofs.Pipeline.Rules

/-!
What a step of a stage leaves alone. An invariant about a part of the state that no stage but one
touches is then proved for the steps of that stage only.
-/

namespace Fanout

namespace Channel

attribute [simp] reserve release dropSender dropReceiver commit

variable {α : Type} (x : α) (c : Channel α)

@[simp] theorem push_capacity : (c.push x).capacity = c.capacity := by
  unfold push
  split <;> rfl

@[simp] theorem push_reserved : (c.push x).reserved = c.reserved := by
  unfold push
  split <;> rfl

@[simp] theorem push_senders : (c.push x).senders = c.senders := by
  unfold push
  split <;> rfl

@[simp] theorem push_receivers : (c.push x).receivers = c.receivers := by
  unfold push
  split <;> rfl

theorem push_buffer :
    (c.push x).buffer = if c.receivers = 0 then c.buffer else c.buffer ++ [x] := by
  unfold push
  split <;> rfl

theorem dropReceiver_sublist : c.dropReceiver.buffer.Sublist c.buffer := by
  unfold dropReceiver
  split
  · exact List.nil_sublist _
  · exact List.Sublist.refl _

theorem length_dropReceiver_le : c.dropReceiver.buffer.length ≤ c.buffer.length :=
  c.dropReceiver_sublist.length_le

end Channel

namespace Pipeline

variable {s t : Pipeline}

/-- What a step of the dispatcher leaves alone. -/
structure DispatcherFrame (s t : Pipeline) : Prop where
  now : t.now = s.now
  signal : t.signal = s.signal
  outbound : t.outbound = s.outbound
  workers : t.workers = s.workers
  collector : t.collector = s.collector
  supervisor : t.supervisor = s.supervisor
  executions : t.executions = s.executions
  nextTicket : t.nextTicket = s.nextTicket
  receivers : t.handoff.receivers = s.handoff.receivers
  received : t.counters.received = s.counters.received
  abandoned : t.counters.abandoned = s.counters.abandoned
  abandonedTasks : t.abandonedTasks = s.abandonedTasks

theorem DispatcherStep.frame (h : DispatcherStep s t) : DispatcherFrame s t := by
  cases h with
  | stopped | exhausted | shutdown | closed | refused =>
      constructor <;> simp [endDispatcher, Counters.exhaust, abandonedTasks, Event.abandonedTask?]
  | unsupplied | drawn | reserved | counted | committed =>
      constructor <;> simp [endDispatcher, Counters.countDispatch, abandonedTasks]

/-- What a step of a worker leaves alone. -/
structure WorkerFrame (s t : Pipeline) : Prop where
  now : t.now = s.now
  signal : t.signal = s.signal
  dispatcher : t.dispatcher = s.dispatcher
  collector : t.collector = s.collector
  supervisor : t.supervisor = s.supervisor
  senders : t.handoff.senders = s.handoff.senders
  handoffReserved : t.handoff.reserved = s.handoff.reserved
  receivers : t.outbound.receivers = s.outbound.receivers
  outboundReserved : t.outbound.reserved = s.outbound.reserved
  cursor : t.counters.cursor = s.counters.cursor
  received : t.counters.received = s.counters.received
  want : t.counters.want = s.counters.want
  supplyExhausted : t.counters.supplyExhausted = s.counters.supplyExhausted
  withheld : t.withheld = s.withheld

theorem WorkerStep.frame {k : Nat} {w : Worker} (h : WorkerStep s k w t) : WorkerFrame s t := by
  cases h <;> constructor <;> simp [endWorker, crashWorker, beginWork, Counters.recordAbandoned]

/-- What a step of the collector leaves alone. -/
structure CollectorFrame (s t : Pipeline) : Prop where
  now : t.now = s.now
  handoff : t.handoff = s.handoff
  dispatcher : t.dispatcher = s.dispatcher
  workers : t.workers = s.workers
  supervisor : t.supervisor = s.supervisor
  executions : t.executions = s.executions
  nextTicket : t.nextTicket = s.nextTicket
  senders : t.outbound.senders = s.outbound.senders
  outboundReserved : t.outbound.reserved = s.outbound.reserved
  sent : t.counters.sent = s.counters.sent
  abandoned : t.counters.abandoned = s.counters.abandoned
  want : t.counters.want = s.counters.want
  supplyExhausted : t.counters.supplyExhausted = s.counters.supplyExhausted
  withheld : t.withheld = s.withheld
  abandonedTasks : t.abandonedTasks = s.abandonedTasks

theorem CollectorStep.frame (h : CollectorStep s t) : CollectorFrame s t := by
  cases h with
  | reached seen nextTick | continued seen nextTick =>
      obtain ⟨log, heq, htasks⟩ := stopWhenEnough_eq seen s
      refine ⟨?_, ?_, ?_, ?_, ?_, ?_, ?_, ?_, ?_, ?_, ?_, ?_, ?_, ?_, htasks⟩ <;> simp [heq] <;>
        split <;> simp [Counters.stopLoading]
  | _ =>
      constructor <;> simp [accept, endCollector, abandonedTasks, Event.abandonedTask?,
        Counters.stopLoading, Counters.recordReceived]

end Pipeline

end Fanout
