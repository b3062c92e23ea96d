import Fanout.Pipeline.Report
import Fanout.Proofs.Pipeline.Lockstep
import Fanout.Proofs.Pipeline.Packets
import Fanout.Proofs.Pipeline.Verdict

/-!
A collector alone, between a channel that others fill and counters that others change. Any number of
senders put packets into the channel and leave, dispatches are counted, taken back or stopped, the
supply runs out, the clock moves, and the signal may be closed from outside. Whatever the order, what
the collector has kept is the front of what was sent, and its exit says what came of the rest
(`InOrder`, `collector_accepts_prefix`).
-/

namespace Fanout

/-- A call that would take part in the sending or in the collecting. -/
def Call.collects : Call → Bool
  | .received | .arrive _ | .closeOutbound | .takeOutbound | .dropOutboundReceiver => true
  | _ => false

/-- A collector that runs alone, with what has come of it so far. -/
structure Intake where
  state : Pipeline
  /-- The packets that were put into the channel, in this order. -/
  sent : List (Packet Job) := []
  /-- The counters that the collector saw as it counted its arrivals, in this order. -/
  seen : List Counters := []
  /-- The signal was closed from outside. -/
  closed : Bool := false

/-- What can happen next around a collector. -/
inductive IntakeMove
  | collector
  /-- Somebody tries to put a packet into the channel. -/
  | arrive (p : Packet Job)
  /-- A sender goes. -/
  | leave
  /-- A call from outside, save those that take part in the collecting. -/
  | call (c : Call)
  deriving DecidableEq, Repr

namespace Pipeline

/-- The counters that the next step of the collector counts an arrival with. -/
def arrivesNext? (s : Pipeline) : Option Counters :=
  match s.collector.point with
  | .accepting .. => some s.counters.recordReceived
  | _ => none

/-- The call closes the signal. -/
def closesSignal (s : Pipeline) : Call → Bool
  | .shutdown => s.holdings.transmitter
  | _ => false

end Pipeline

namespace Intake

open Pipeline

/-- A collector before anything has moved, with so many senders. -/
def start (config : PipelineConfig) (capacity senders : Nat) : Intake :=
  let s := ofCollector config capacity
  { state := { s with outbound := { s.outbound with senders } } }

def move : IntakeMove → Intake → Option Intake
  | .collector, f => f.state.stepCollector.map fun t =>
    { f with state := t, seen := f.seen ++ f.state.arrivesNext?.toList }
  | .arrive p, f =>
    let sending := f.state.outbound.trySend (0 < f.state.outbound.senders) p
    some { f with
      state := { f.state with outbound := sending.2 }
      sent := f.sent ++ if sending.1 = .sent then [p] else [] }
  | .leave, f =>
    if f.state.outbound.senders = 0 then none
    else some { f with state := { f.state with outbound := f.state.outbound.dropSender } }
  | .call c, f =>
    if c.collects then none
    else some { f with
      state := (f.state.call c).2
      closed := f.closed || f.state.closesSignal c }

/-- The results that the collector has kept. -/
def results (f : Intake) : List (Packet Job) :=
  f.state.collector.results

/-- The target that the run must not go beyond is not met. -/
def Short (config : PipelineConfig) (f : Intake) : Prop :=
  config.shutdownMode = .abandon → f.results.length < config.want

/-- What an exit says. -/
structure Concludes (config : PipelineConfig) (f : Intake) (exit : CollectorExit) : Prop where
  within : config.shutdownMode = .abandon → f.results.length ≤ config.want
  reached : exit = .targetReached ↔
    config.shutdownMode = .abandon ∧ f.results.length = config.want
  deserted : exit = .outboundClosed → f.results = f.sent ∧ f.state.outbound.senders = 0
  interrupted : exit = .shutdown → f.closed = true

/-- What the collector can rely on at a point. -/
def Knows (config : PipelineConfig) (f : Intake) : CollectorPoint → Prop
  | .absent => False
  | .starting => f.results = []
  | .receiving _ | .ticking _ | .accepting .. => f.Short config
  | .counted seen _ => seen.received = f.results.length ∧
      (config.shutdownMode = .abandon → f.results.length ≤ config.want)
  | .closing exit | .pausing exit _ | .reporting exit | .finished exit | .crashed exit _ =>
      f.Concludes config exit

theorem knows_afterDropping (config : PipelineConfig) (f : Intake) (exit : CollectorExit)
    (lost : List (Packet Job)) :
    f.Knows config (.afterDropping exit lost) = f.Concludes config exit :=
  CollectorPoint.apply_afterDropping (f.Knows config) rfl (fun _ => rfl) lost

/-- What was sent is with the collector or still in the channel, in the order in which it was sent. -/
structure InOrder (config : PipelineConfig) (f : Intake) : Prop where
  mode : f.state.collector.mode = config.shutdownMode
  want : f.state.collector.want = config.want
  receivers : f.state.outbound.receivers = (!f.state.collector.point.isOver).toNat
  kept : f.results <+: f.sent
  line : f.state.collector.point.isOver = false →
    f.results ++ f.state.collector.point.packets ++ f.state.outbound.buffer = f.sent
  received : f.state.counters.received = f.results.length
  transmitters : f.state.signal.transmitters =
    (!f.state.collector.point.isOver).toNat + f.state.holdings.transmitter.toNat
  requested : f.state.signal.requested = (f.state.collector.point.hasClosed || f.closed)
  numbered : f.seen.map (·.received) = List.range' 1 f.results.length
  stops : ∀ seen ∈ f.seen, seen.want ≤ seen.received → f.state.counters.cursor = .stopped ∨
    ∃ nextTick, f.state.collector.point = .counted seen nextTick
  knows : f.Knows config f.state.collector.point

variable {config : PipelineConfig} {capacity senders : Nat} {f g : Intake}

theorem inOrder_start (config : PipelineConfig) (capacity senders : Nat) :
    InOrder config (start config capacity senders) where
  mode := rfl
  want := rfl
  receivers := rfl
  kept := List.prefix_refl _
  line _ := rfl
  received := rfl
  transmitters := rfl
  requested := rfl
  numbered := rfl
  stops := nofun
  knows := rfl

/-- While the collector is there the signal is closed only if somebody closed it. -/
theorem InOrder.isShutdown (hf : InOrder config f)
    (hfinished : f.state.collector.point.isOver = false) :
    f.state.signal.isShutdown = (f.state.collector.point.hasClosed || f.closed) := by
  rw [Signal.isShutdown, hf.requested, hf.transmitters, hfinished]
  simp

/-! ### The collector goes on -/

theorem Short.concludes (hf : f.Short config) (exit : CollectorExit) (hexit : exit ≠ .targetReached)
    (hdeserted : exit = .outboundClosed → f.results = f.sent ∧ f.state.outbound.senders = 0)
    (hinterrupted : exit = .shutdown → f.closed = true) : f.Concludes config exit := by
  refine ⟨fun hmode => Nat.le_of_lt (hf hmode), ⟨fun h => absurd h hexit, ?_⟩, hdeserted,
    hinterrupted⟩
  rintro ⟨hmode, hexact⟩
  exact absurd hexact (Nat.ne_of_lt (hf hmode))

theorem concludes_reached (hmode : config.shutdownMode = .abandon)
    (hexact : f.results.length = config.want) : f.Concludes config .targetReached :=
  ⟨fun _ => Nat.le_of_eq hexact, ⟨fun _ => ⟨hmode, hexact⟩, fun _ => rfl⟩, nofun, nofun⟩

/-- What the collector relies on stays while it keeps its results. -/
theorem Knows.of_frame {point : CollectorPoint} (hf : f.Knows config point)
    (hresults : g.results = f.results)
    (hsent : f.state.outbound.senders = 0 → g.sent = f.sent ∧ g.state.outbound.senders = 0)
    (hclosed : f.closed = true → g.closed = true) : g.Knows config point := by
  have hshort : f.Short config → g.Short config := by
    rw [Short, Short, hresults]
    exact id
  have hconcludes : ∀ {exit}, f.Concludes config exit → g.Concludes config exit := by
    intro exit hexit
    refine ⟨?_, ?_, ?_, fun h => hclosed (hexit.interrupted h)⟩
    · rw [hresults]
      exact hexit.within
    · rw [hresults]
      exact hexit.reached
    · intro h
      obtain ⟨hall, hsenders⟩ := hexit.deserted h
      rw [hresults, (hsent hsenders).1]
      exact ⟨hall, (hsent hsenders).2⟩
  cases point with
  | absent => exact hf
  | starting => exact hresults.trans hf
  | receiving | ticking | accepting => exact hshort hf
  | counted =>
      rw [Knows, hresults]
      exact hf
  | closing | pausing | reporting | finished | crashed => exact hconcludes hf

/-- The collector goes to another point without a packet on its way. -/
theorem InOrder.turns (hf : InOrder config f) {t : Pipeline} {point : CollectorPoint}
    (hcollector : t.collector = { f.state.collector with point })
    (houtbound : t.outbound = f.state.outbound) (hholdings : t.holdings = f.state.holdings)
    (hreceived : t.counters.received = f.state.counters.received)
    (htransmitters : t.signal.transmitters = f.state.signal.transmitters)
    (hrequested : t.signal.requested = (point.hasClosed || f.closed))
    (hbefore : f.state.collector.point.packets = [] ∧ f.state.collector.point.isOver = false)
    (hafter : point.packets = [] ∧ point.isOver = false)
    (hstops : ∀ seen ∈ f.seen, seen.want ≤ seen.received → t.counters.cursor = .stopped)
    (hknows : f.Knows config point) : InOrder config { f with state := t } := by
  have hpoint : t.collector.point = point := by rw [hcollector]
  have hresults : ({ f with state := t } : Intake).results = f.results := by
    rw [results, hcollector]
    rfl
  refine ⟨?_, ?_, ?_, ?_, ?_, ?_, ?_, ?_, ?_, ?_, ?_⟩
  · rw [hcollector]
    exact hf.mode
  · rw [hcollector]
    exact hf.want
  · rw [houtbound, hf.receivers, hbefore.2, hpoint, hafter.2]
  · rw [hresults]
    exact hf.kept
  · intro _
    rw [hresults, hpoint, hafter.1, houtbound, ← hf.line hbefore.2, hbefore.1]
  · rw [hreceived, hresults, hf.received]
  · rw [htransmitters, hf.transmitters, hbefore.2, hpoint, hafter.2, hholdings]
  · rw [hrequested, hpoint]
  · rw [hresults]
    exact hf.numbered
  · intro seen hseen hmet
    exact .inl (hstops seen hseen hmet)
  · rw [hpoint]
    exact hknows.of_frame hresults (fun h => ⟨rfl, (congrArg Channel.senders houtbound).trans h⟩) id

/-- Away from a count everything that was seen has had its effect. -/
theorem InOrder.stopped (hf : InOrder config f)
    (hpoint : ∀ seen nextTick, f.state.collector.point ≠ .counted seen nextTick) :
    ∀ seen ∈ f.seen, seen.want ≤ seen.received → f.state.counters.cursor = .stopped := by
  intro seen hseen hmet
  rcases hf.stops seen hseen hmet with hstopped | ⟨nextTick, hcounted⟩
  · exact hstopped
  · exact absurd hcounted (hpoint seen nextTick)

theorem InOrder.took (hf : InOrder config f) {p : Packet Job} {rest : List (Packet Job)}
    {nextTick : Nat} (hpoint : f.state.collector.point = .receiving nextTick)
    (hbuffer : f.state.outbound.buffer = p :: rest) :
    InOrder config { f with state := { f.state with
      outbound := { f.state.outbound with buffer := rest } }.setCollector (.accepting p nextTick) } where
  mode := hf.mode
  want := hf.want
  receivers := by simpa [hpoint] using hf.receivers
  kept := hf.kept
  line _ := by simpa [hpoint, hbuffer, results] using hf.line (by rw [hpoint]; rfl)
  received := hf.received
  transmitters := by simpa [hpoint] using hf.transmitters
  requested := by simpa [hpoint] using hf.requested
  numbered := hf.numbered
  stops seen hseen hmet := .inl (hf.stopped (by simp [hpoint]) seen hseen hmet)
  knows := by
    have hknows := hf.knows
    rw [hpoint] at hknows
    exact hknows

theorem InOrder.accepted (hf : InOrder config f) {p : Packet Job} {nextTick : Nat}
    (hpoint : f.state.collector.point = .accepting p nextTick) :
    InOrder config { f with
      state := f.state.accept p nextTick
      seen := f.seen ++ [f.state.counters.recordReceived] } := by
  have hresults : ({ f with
      state := f.state.accept p nextTick
      seen := f.seen ++ [f.state.counters.recordReceived] } : Intake).results = f.results ++ [p] := rfl
  have hline := hf.line (by rw [hpoint]; rfl)
  rw [hpoint] at hline
  refine ⟨hf.mode, hf.want, ?_, ?_, ?_, ?_, ?_, ?_, ?_, ?_, ?_⟩
  · simpa [accept, hpoint] using hf.receivers
  · rw [hresults, ← hline]
    exact List.prefix_append _ _
  · intro _
    rw [hresults, ← hline]
    simp [accept]
  · rw [hresults, List.length_append, ← hf.received]
    rfl
  · simpa [accept, hpoint] using hf.transmitters
  · simpa [accept, hpoint] using hf.requested
  · rw [hresults, List.length_append, List.length_singleton, List.range'_1_concat, List.map_append,
      hf.numbered]
    simp [Counters.recordReceived, hf.received, Nat.add_comm]
  · intro seen hseen hmet
    rcases List.mem_append.mp hseen with hold | hnew
    · exact .inl (hf.stopped (by simp [hpoint]) seen hold hmet)
    · exact .inr ⟨nextTick, by rw [List.mem_singleton.mp hnew]; rfl⟩
  · have hknows := hf.knows
    rw [hpoint] at hknows
    refine ⟨?_, ?_⟩
    · rw [hresults, List.length_append, ← hf.received]
      rfl
    · intro hmode
      rw [hresults, List.length_append]
      exact hknows hmode

/-- The effect of a count comes before everything else that the collector does. -/
theorem InOrder.stopped_of_counted (hf : InOrder config f) {seen : Counters} {nextTick : Nat}
    (hpoint : f.state.collector.point = .counted seen nextTick) :
    ∃ counters log, f.state.stopWhenEnough seen = { f.state with counters, log } ∧
      counters.received = f.state.counters.received ∧
      ∀ earlier ∈ f.seen, earlier.want ≤ earlier.received → counters.cursor = .stopped := by
  obtain ⟨log, heq, -⟩ := stopWhenEnough_eq seen f.state
  refine ⟨_, log, heq, by split <;> rfl, ?_⟩
  intro earlier hearlier hmet
  rcases hf.stops earlier hearlier hmet with hstopped | ⟨tick, hcounted⟩
  · split
    · rfl
    · exact hstopped
  · rw [hpoint] at hcounted
    cases hcounted
    rw [if_pos hmet]
    rfl

theorem InOrder.reported (hf : InOrder config f) {exit : CollectorExit}
    (hpoint : f.state.collector.point = .reporting exit) :
    InOrder config { f with state := f.state.endCollector exit } := by
  have hknows := hf.knows
  rw [hpoint] at hknows
  refine ⟨hf.mode, hf.want, ?_, hf.kept, ?_, hf.received, ?_, ?_, hf.numbered, ?_, ?_⟩
  · simp [endCollector, hf.receivers, hpoint]
  · simp [endCollector]
  · simp [endCollector, Signal.dropTransmitter, hf.transmitters, hpoint]
  · simp [endCollector, Signal.dropTransmitter, hf.requested, hpoint]
  · intro seen hseen hmet
    exact .inl (hf.stopped (by simp [hpoint]) seen hseen hmet)
  · exact (knows_afterDropping config _ exit _).mpr
      ⟨hknows.within, hknows.reached, hknows.deserted, hknows.interrupted⟩

theorem InOrder.collector (hf : InOrder config f) (h : f.move .collector = some g) :
    InOrder config g := by
  obtain ⟨t, ht, rfl⟩ := Option.map_eq_some_iff.mp h
  have hknows := hf.knows
  have hrequested := hf.requested
  -- Only the step that counts an arrival adds to what was seen.
  have hquiet : f.state.arrivesNext? = none → InOrder config { f with state := t } →
      InOrder config { f with state := t, seen := f.seen ++ f.state.arrivesNext?.toList } := by
    intro hnone hstate
    simpa only [hnone, Option.toList_none, List.append_nil] using hstate
  cases collectorStep_of_step ht with
  | sated hpoint htarget =>
      rw [hpoint] at hknows hrequested
      rw [targetReached_iff, hf.mode, hf.want] at htarget
      refine hquiet (by simp [arrivesNext?, hpoint]) (hf.turns rfl rfl rfl rfl rfl hrequested
        (by simp [hpoint]) ⟨rfl, rfl⟩ (fun _ _ _ => rfl) (concludes_reached htarget.1 ?_))
      exact (congrArg List.length hknows).trans (Nat.le_zero.mp htarget.2).symm
  | began hpoint htarget =>
      rw [hpoint] at hknows hrequested
      refine hquiet (by simp [arrivesNext?, hpoint]) (hf.turns rfl rfl rfl rfl rfl hrequested
        (by simp [hpoint]) ⟨rfl, rfl⟩ (hf.stopped (by simp [hpoint])) fun hmode => ?_)
      have hlt := lt_want_of_not_reached htarget (hf.mode.trans hmode)
      rw [hf.want] at hlt
      exact Nat.lt_of_le_of_lt (Nat.le_of_eq (congrArg List.length hknows)) hlt
  | interrupted nextTick hpoint hsignal =>
      rw [hf.isShutdown (by rw [hpoint]; rfl)] at hsignal
      rw [hpoint] at hknows hrequested hsignal
      exact hquiet (by simp [arrivesNext?, hpoint]) (hf.turns rfl rfl rfl rfl rfl hrequested
        (by simp [hpoint]) ⟨rfl, rfl⟩ (hf.stopped (by simp [hpoint]))
        (hknows.concludes .shutdown nofun nofun fun _ => hsignal))
  | took p rest nextTick hpoint hsignal hbuffer =>
      exact hquiet (by simp [arrivesNext?, hpoint]) (hf.took hpoint hbuffer)
  | deserted nextTick hpoint hsignal hbuffer hsenders =>
      have hline := hf.line (by rw [hpoint]; rfl)
      rw [hpoint] at hknows hrequested
      rw [hpoint, hbuffer, List.append_nil] at hline
      refine hquiet (by simp [arrivesNext?, hpoint]) (hf.turns rfl rfl rfl rfl rfl hrequested
        (by simp [hpoint]) ⟨rfl, rfl⟩ (hf.stopped (by simp [hpoint]))
        (hknows.concludes .outboundClosed nofun (fun _ => ⟨?_, hsenders⟩) nofun))
      simpa using hline
  | ticked nextTick hpoint | undrained nextTick hpoint =>
      rw [hpoint] at hknows hrequested
      exact hquiet (by simp [arrivesNext?, hpoint]) (hf.turns rfl rfl rfl rfl rfl hrequested
        (by simp [hpoint]) ⟨rfl, rfl⟩ (hf.stopped (by simp [hpoint])) hknows)
  | drained nextTick hpoint hfinished =>
      rw [hpoint] at hknows hrequested
      exact hquiet (by simp [arrivesNext?, hpoint]) (hf.turns rfl rfl rfl rfl rfl hrequested
        (by simp [hpoint]) ⟨rfl, rfl⟩ (hf.stopped (by simp [hpoint]))
        (hknows.concludes .drained nofun nofun nofun))
  | accepted p nextTick hpoint =>
      have harrives : f.state.arrivesNext? = some f.state.counters.recordReceived := by
        simp [arrivesNext?, hpoint]
      rw [harrives]
      exact hf.accepted hpoint
  | reached seen nextTick hpoint htarget =>
      obtain ⟨counters, log, heq, hreceived, hstops⟩ := hf.stopped_of_counted hpoint
      rw [hpoint] at hknows hrequested
      rw [targetReached_iff, hf.mode, hf.want] at htarget
      rw [heq] at hquiet ⊢
      refine hquiet (by simp [arrivesNext?, hpoint]) (hf.turns rfl rfl rfl hreceived rfl hrequested
        (by simp [hpoint]) ⟨rfl, rfl⟩ hstops (concludes_reached htarget.1 ?_))
      exact Nat.le_antisymm (hknows.2 htarget.1) (hknows.1 ▸ htarget.2)
  | continued seen nextTick hpoint htarget =>
      obtain ⟨counters, log, heq, hreceived, hstops⟩ := hf.stopped_of_counted hpoint
      rw [hpoint] at hknows hrequested
      rw [heq] at hquiet ⊢
      refine hquiet (by simp [arrivesNext?, hpoint]) (hf.turns rfl rfl rfl hreceived rfl hrequested
        (by simp [hpoint]) ⟨rfl, rfl⟩ hstops fun hmode => ?_)
      have hlt := lt_want_of_not_reached htarget (hf.mode.trans hmode)
      rw [hknows.1, hf.want] at hlt
      exact hlt
  | closedPausing exit hpoint | closed exit hpoint =>
      rw [hpoint] at hknows
      exact hquiet (by simp [arrivesNext?, hpoint]) (hf.turns rfl rfl rfl rfl rfl rfl
        (by simp [hpoint]) ⟨rfl, rfl⟩ (hf.stopped (by simp [hpoint])) hknows)
  | woke exit wake hpoint =>
      rw [hpoint] at hknows hrequested
      exact hquiet (by simp [arrivesNext?, hpoint]) (hf.turns rfl rfl rfl rfl rfl hrequested
        (by simp [hpoint]) ⟨rfl, rfl⟩ (hf.stopped (by simp [hpoint])) hknows)
  | reported exit hpoint =>
      exact hquiet (by simp [arrivesNext?, hpoint]) (hf.reported hpoint)

/-! ### Something is done from outside -/

/-- What is done from outside to the channel leaves the collector alone. -/
theorem InOrder.of_outbound (hf : InOrder config f) {outbound : Channel (Packet Job)}
    {more : List (Packet Job)} (hreceivers : outbound.receivers = f.state.outbound.receivers)
    (hbuffer : f.state.outbound.receivers ≠ 0 →
      outbound.buffer = f.state.outbound.buffer ++ more)
    (hsenders : f.state.outbound.senders = 0 → more = [] ∧ outbound.senders = 0) :
    InOrder config { f with state := { f.state with outbound }, sent := f.sent ++ more } where
  mode := hf.mode
  want := hf.want
  receivers := hreceivers.trans hf.receivers
  kept := hf.kept.trans (List.prefix_append _ _)
  line h := by
    have hopen : f.state.outbound.receivers ≠ 0 := by
      rw [hf.receivers, h]
      exact Nat.one_ne_zero
    have hline := hf.line h
    rw [← hline, List.append_assoc _ _ more, ← hbuffer hopen]
    rfl
  received := hf.received
  transmitters := hf.transmitters
  requested := hf.requested
  numbered := hf.numbered
  stops := hf.stops
  knows := by
    refine hf.knows.of_frame rfl (fun h => ?_) id
    obtain ⟨hnone, hgone⟩ := hsenders h
    exact ⟨by rw [hnone, List.append_nil], hgone⟩

theorem InOrder.arrives (hf : InOrder config f) {p : Packet Job}
    (h : f.move (.arrive p) = some g) : InOrder config g := by
  simp only [move, Option.some.injEq] at h
  subst h
  rcases f.state.outbound.trySend_cases (0 < f.state.outbound.senders) p with
    ⟨hstatus, hheld, -, houtbound⟩ | ⟨hstatus, houtbound⟩
  · rw [if_pos hstatus, houtbound]
    refine hf.of_outbound rfl (fun _ => rfl) fun hnone => ?_
    simp [hnone] at hheld
  · rw [if_neg hstatus, houtbound]
    exact hf.of_outbound rfl (fun _ => (List.append_nil _).symm) fun hnone => ⟨rfl, hnone⟩

theorem InOrder.leaves (hf : InOrder config f) (h : f.move .leave = some g) : InOrder config g := by
  simp only [move] at h
  split at h
  · cases h
  rename_i hsenders
  cases h
  have hsent : InOrder config { f with
      state := { f.state with outbound := f.state.outbound.dropSender }
      sent := f.sent ++ [] } :=
    hf.of_outbound rfl (fun _ => (List.append_nil _).symm) fun h => absurd h hsenders
  rwa [List.append_nil] at hsent

/-- What a call that takes no part in the collecting leaves alone. -/
structure OutsideFrame (s t : Pipeline) : Prop where
  collector : t.collector = s.collector
  outbound : t.outbound = s.outbound
  received : t.counters.received = s.counters.received
  stopped : s.counters.cursor = .stopped → t.counters.cursor = .stopped

theorem outsideFrame_of_call {c : Call} (hc : c.collects = false) (s : Pipeline) :
    OutsideFrame s (s.call c).2 := by
  cases c with
  | received | arrive | closeOutbound | takeOutbound | dropOutboundReceiver => cases hc
  | next total =>
      refine ⟨rfl, rfl, ?_, ?_⟩ <;> simp only [Pipeline.call, Counters.nextDispatch] <;> split <;>
        first | rfl | exact id | split <;> first | rfl | exact id
  | record i =>
      simp only [Pipeline.call]
      split
      next counters hcount =>
        obtain ⟨hcursor, rfl⟩ := Counters.tryRecordDispatch_eq_some hcount
        refine ⟨rfl, rfl, rfl, fun hstopped => ?_⟩
        rw [hcursor] at hstopped
        cases hstopped
      next => exact ⟨rfl, rfl, rfl, id⟩
  | send counted task work =>
      cases hcount : s.counters.tryRecordDispatch task with
      | none => refine ⟨rfl, rfl, ?_, ?_⟩ <;> simp [Pipeline.call, hcount]
      | some counters =>
          obtain ⟨hcursor, rfl⟩ := Counters.tryRecordDispatch_eq_some hcount
          refine ⟨rfl, rfl, ?_, fun hstopped => ?_⟩
          · simp only [Pipeline.call, hcount]
            split <;> rfl
          · rw [hcursor] at hstopped
            cases hstopped
  | stop => exact ⟨rfl, rfl, rfl, fun _ => rfl⟩
  | abandon | snapshot | isShutdown | advance | release | takeHandoff => exact ⟨rfl, rfl, rfl, id⟩
  | shutdown | dropTransmitter | dropHandoffReceiver | closeHandoff =>
      unfold Pipeline.call
      dsimp only
      split <;> exact ⟨rfl, rfl, rfl, id⟩

theorem requested_of_call (s : Pipeline) (c : Call) :
    (s.call c).2.signal.requested = (s.signal.requested || s.closesSignal c) := by
  cases c with
  | record i =>
      simp only [Pipeline.call, closesSignal, Bool.or_false]
      split <;> rfl
  | shutdown =>
      unfold Pipeline.call closesSignal
      dsimp only
      split <;> simp [Signal.shutdown, *]
  | dropTransmitter | dropHandoffReceiver | closeHandoff | closeOutbound | dropOutboundReceiver =>
      unfold Pipeline.call closesSignal
      dsimp only
      split <;> simp [Signal.dropTransmitter]
  | _ => simp [Pipeline.call, closesSignal, advance, release]

theorem InOrder.call (hf : InOrder config f) {c : Call} (h : f.move (.call c) = some g) :
    InOrder config g := by
  simp only [move] at h
  split at h
  · cases h
  rename_i hc
  cases h
  obtain ⟨hcollector, houtbound, hreceived, hstopped⟩ :=
    outsideFrame_of_call (eq_false_of_ne_true hc) f.state
  have hresults : ({ f with
      state := (f.state.call c).2
      closed := f.closed || f.state.closesSignal c } : Intake).results = f.results :=
    congrArg Collector.results hcollector
  refine ⟨?_, ?_, ?_, ?_, ?_, ?_, ?_, ?_, ?_, ?_, ?_⟩
  · rw [hcollector, hf.mode]
  · rw [hcollector, hf.want]
  · rw [houtbound, hcollector, hf.receivers]
  · rw [hresults]
    exact hf.kept
  · rw [hcollector, hresults, houtbound]
    exact hf.line
  · rw [hreceived, hresults, hf.received]
  · rw [hcollector]
    exact transmitters_of_call hf.transmitters
  · rw [requested_of_call, hf.requested, hcollector, Bool.or_assoc]
  · rw [hresults]
    exact hf.numbered
  · rw [hcollector]
    intro seen hseen hmet
    exact (hf.stops seen hseen hmet).imp_left hstopped
  · rw [hcollector]
    refine hf.knows.of_frame hresults (fun h => ⟨rfl, ?_⟩) fun h => ?_
    · rw [houtbound, h]
    · rw [h, Bool.true_or]

theorem inOrder_of_move {m : IntakeMove} (hf : InOrder config f) (h : f.move m = some g) :
    InOrder config g := by
  cases m with
  | collector => exact hf.collector h
  | arrive p => exact hf.arrives h
  | leave => exact hf.leaves h
  | call c => exact hf.call h

theorem inOrder_of_follow {moves : List IntakeMove}
    (h : followBy move moves (start config capacity senders) = some f) : InOrder config f :=
  followBy_preserves (fun _ _ _ => inOrder_of_move) (inOrder_start config capacity senders) h

/-! ### The front of what was sent -/

/-- The target is never exceeded, not even by a packet that is on its way to the results. -/
theorem InOrder.within (hf : InOrder config f) (hmode : config.shutdownMode = .abandon) :
    f.results.length + f.state.collector.point.packets.length ≤ config.want := by
  have hknows := hf.knows
  cases hpoint : f.state.collector.point <;> rw [hpoint] at hknows
  case absent => exact hknows.elim
  case starting => simp [show f.results = [] from hknows]
  case receiving | ticking => exact Nat.le_of_lt (hknows hmode)
  case accepting => exact hknows hmode
  case counted => exact hknows.2 hmode
  case closing | pausing | reporting | finished | crashed => exact hknows.within hmode

theorem InOrder.concludes (hf : InOrder config f) {exit : CollectorExit}
    (hexit : f.state.collector.point.exit? = some exit) : f.Concludes config exit := by
  have hknows := hf.knows
  cases hpoint : f.state.collector.point <;> rw [hpoint] at hknows hexit <;> cases hexit <;>
    exact hknows

/-- With a count behind it the collector goes on, and the count has its effect. -/
theorem exists_move_of_counted {seen : Counters} {nextTick : Nat}
    (hpoint : f.state.collector.point = .counted seen nextTick) :
    ∃ g, f.move .collector = some g ∧
      (seen.want ≤ seen.received → g.state.counters.cursor = .stopped) ∧
      (f.state.collector.targetReached seen.received = true →
        g.state.collector.point.exit? = some .targetReached) := by
  obtain ⟨log, heq, -⟩ := stopWhenEnough_eq seen f.state
  have hstep : ∃ t, f.state.stepCollector = some t ∧
      (seen.want ≤ seen.received → t.counters.cursor = .stopped) ∧
      (f.state.collector.targetReached seen.received = true →
        t.collector.point.exit? = some .targetReached) := by
    simp only [stepCollector, hpoint, heq]
    split
    next => exact ⟨_, rfl, fun hmet => by simp [hmet, Counters.stopLoading], fun _ => rfl⟩
    next hshort =>
      exact ⟨_, rfl, fun hmet => by simp [hmet, Counters.stopLoading], fun h => absurd h hshort⟩
  obtain ⟨t, ht, hstops, hreaches⟩ := hstep
  exact ⟨_, by rw [move, ht]; rfl, hstops, hreaches⟩

/-- A collector that has as much as it may have does not wait for more. -/
theorem InOrder.reaches (hf : InOrder config f) (hmode : config.shutdownMode = .abandon)
    (hexact : f.results.length = config.want) (hexit : f.state.collector.point.exit? = none) :
    ∃ g, f.move .collector = some g ∧ g.state.collector.point.exit? = some .targetReached := by
  have hknows := hf.knows
  have hreached : ∀ {received}, received = f.results.length →
      f.state.collector.targetReached received = true := by
    intro received hreceived
    rw [targetReached_iff, hf.mode, hf.want, hreceived]
    exact ⟨hmode, Nat.le_of_eq hexact.symm⟩
  cases hpoint : f.state.collector.point <;> rw [hpoint] at hknows hexit
  case absent => exact hknows.elim
  case starting =>
    have htarget : f.state.collector.targetReached 0 = true :=
      hreached (congrArg List.length hknows).symm
    have hstep : f.state.stepCollector = some ({ f.state with
        counters := f.state.counters.stopLoading.2 }.setCollector (.closing .targetReached)) := by
      simp only [stepCollector, hpoint, htarget, ↓reduceIte]
    exact ⟨_, by rw [move, hstep]; rfl, rfl⟩
  case receiving | ticking | accepting => exact absurd hexact (Nat.ne_of_lt (hknows hmode))
  case counted seen nextTick =>
    obtain ⟨g, hg, -, hreaches⟩ := exists_move_of_counted hpoint
    exact ⟨g, hg, hreaches (hreached hknows.1)⟩
  case closing | pausing | reporting | finished | crashed => cases hexit

/-- What the collector keeps is the front of what was sent, with nothing skipped or repeated, and as
much as was counted. In abandon mode it goes exactly as far as the target and then ends for that
reason; it calls the channel closed only when all was taken and no sender is left, and it is interrupted
only from outside. An arrival that meets the current target stops the loading before anything else, and
the signal is closed when the results are returned. -/
theorem collector_accepts_prefix {moves : List IntakeMove}
    (h : followBy move moves (start config capacity senders) = some f) :
    f.results <+: f.sent ∧
    (f.state.collector.point.isOver = false →
      f.results ++ f.state.collector.point.packets ++ f.state.outbound.buffer = f.sent) ∧
    f.state.counters.received = f.results.length ∧
    (config.shutdownMode = .abandon →
      f.results.length + f.state.collector.point.packets.length ≤ config.want) ∧
    (∀ exit, f.state.collector.point.exit? = some exit →
      (exit = .targetReached ↔
        config.shutdownMode = .abandon ∧ f.results.length = config.want) ∧
      (exit = .outboundClosed → f.results = f.sent ∧ f.state.outbound.senders = 0) ∧
      (exit = .shutdown → f.closed = true)) ∧
    (config.shutdownMode = .abandon → f.results.length = config.want →
      f.state.collector.point.exit? = none →
      ∃ g, f.move .collector = some g ∧ g.state.collector.point.exit? = some .targetReached) ∧
    f.seen.map (·.received) = List.range' 1 f.results.length ∧
    (∀ seen ∈ f.seen, seen.want ≤ seen.received → f.state.counters.cursor = .stopped ∨
      (∃ nextTick, f.state.collector.point = .counted seen nextTick) ∧
        ∃ g, f.move .collector = some g ∧ g.state.counters.cursor = .stopped) ∧
    (∀ collection, f.state.collection? = some collection →
      collection.packets = f.results ∧
      f.state.collector.point.exit? = some collection.exit ∧
      f.state.signal.isShutdown = true) := by
  have hf := inOrder_of_follow h
  refine ⟨hf.kept, hf.line, hf.received, hf.within, ?_, hf.reaches, hf.numbered, ?_, ?_⟩
  · intro exit hexit
    have hconcludes := hf.concludes hexit
    exact ⟨hconcludes.reached, hconcludes.deserted, hconcludes.interrupted⟩
  · intro seen hseen hmet
    refine (hf.stops seen hseen hmet).imp_right fun ⟨nextTick, hpoint⟩ => ⟨⟨nextTick, hpoint⟩, ?_⟩
    obtain ⟨g, hg, hstops, -⟩ := exists_move_of_counted hpoint
    exact ⟨g, hg, hstops hmet⟩
  · intro collection hcollection
    unfold collection? at hcollection
    split at hcollection
    next exit hpoint =>
      cases hcollection
      refine ⟨rfl, by rw [hpoint]; rfl, ?_⟩
      rw [Signal.isShutdown, hf.requested, hpoint]
      rfl
    next => cases hcollection

/-- Two senders put three packets into the channel, the supply runs out in between, and the target is
two. -/
theorem collector_accepts_prefix_of_three : ∃ f collection,
    followBy move
      [.collector, .arrive (.new 4 ⟨.instant, 1⟩), .collector, .call .abandon, .collector,
        .call (.next 0), .collector, .arrive (.new 2 ⟨.instant, 1⟩), .arrive (.new 7 ⟨.instant, 1⟩),
        .leave, .collector, .collector, .collector, .collector, .collector]
      (start { want := 2, shutdownMode := .abandon } 4 2) = some f ∧
    f.sent.map Packet.task = [4, 2, 7] ∧ f.results.length = 2 ∧ f.results <+: f.sent ∧
    f.state.counters.received = 2 ∧ f.seen.map (·.received) = [1, 2] ∧
    f.state.collection? = some collection ∧ collection.packets = f.results ∧
    f.state.signal.isShutdown = true := by
  have hrun : ∃ f collection, followBy move
      [.collector, .arrive (.new 4 ⟨.instant, 1⟩), .collector, .call .abandon, .collector,
        .call (.next 0), .collector, .arrive (.new 2 ⟨.instant, 1⟩), .arrive (.new 7 ⟨.instant, 1⟩),
        .leave, .collector, .collector, .collector, .collector, .collector]
      (start { want := 2, shutdownMode := .abandon } 4 2) = some f ∧
      f.sent.map Packet.task = [4, 2, 7] ∧ f.results.length = 2 ∧
      f.state.collection? = some collection := ⟨_, _, rfl, rfl, rfl, rfl⟩
  obtain ⟨f, collection, hfollow, hsent, hlength, hcollection⟩ := hrun
  obtain ⟨hkept, -, hreceived, -, -, -, hnumbered, -, hreturned⟩ := collector_accepts_prefix hfollow
  obtain ⟨hpackets, -, hclosed⟩ := hreturned collection hcollection
  rw [hlength] at hreceived hnumbered
  exact ⟨f, collection, hfollow, hsent, hlength, hkept, hreceived, hnumbered, hcollection, hpackets,
    hclosed⟩

end Intake

end Fanout
