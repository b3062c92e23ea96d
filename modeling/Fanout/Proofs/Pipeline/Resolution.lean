import Fanout.Proofs.Pipeline.Calls
import Fanout.Proofs.Pipeline.Packets

/-!
What becomes of the packets that one worker takes. The worker is watched while everything around it
goes on as it likes: other stages step, works end, calls are made from outside and packets of any kind
are put into the handoff channel. Its deeds are read off the points that it goes from and to, what it
hands over and what it records off the channel and the counters, and they are the packets that it took,
each with its resolution behind it, and at most one more (`resolves_in_order`). The stamp of a packet is
that of the first worker that had it, and a closed signal goes before a timeout or a panic
(`forwards_foreign_packet`).
-/

namespace Fanout

/-- A packet that a worker took, with the ticket of the work that it began for it. -/
structure Pickup where
  ticket : Nat
  packet : Packet Job
  time : Nat
  deriving DecidableEq, Repr

/-- The work that a worker of this number begins for a packet. -/
def Pickup.execution (id : Nat) (x : Pickup) : Execution :=
  ⟨x.ticket, x.time, x.packet.stamp id⟩

/-- How a worker is done with a packet. -/
inductive Resolution
  | forwarded (p : Packet Job)
  | timedOut (task : Nat)
  | panicked (task : Nat)
  /-- The packet is dropped. The flags tell whether the signal is closed by then, and whether nobody is
  left to receive a result. -/
  | dropped (task : Nat) (dismissed unheard : Bool)
  deriving DecidableEq, Repr

namespace Resolution

def forwarded? : Resolution → Option (Packet Job)
  | forwarded p => some p
  | _ => none

/-- The task was given up. -/
def isAbandonment : Resolution → Bool
  | timedOut _ | panicked _ => true
  | _ => false

def isDrop : Resolution → Bool
  | dropped .. => true
  | _ => false

end Resolution

/-- What a worker does about packets. -/
inductive Deed
  | took (x : Pickup)
  | resolved (r : Resolution)
  deriving DecidableEq, Repr

def Deed.pickup? : Deed → Option Pickup
  | .took x => some x
  | .resolved _ => none

def Deed.forwarded? : Deed → Option (Packet Job)
  | .took _ => none
  | .resolved r => r.forwarded?

def Deed.isAbandonment : Deed → Bool
  | .took _ => false
  | .resolved r => r.isAbandonment

/-- A packet that a worker took and is done with. -/
structure Handled where
  pickup : Pickup
  resolution : Resolution
  deriving DecidableEq, Repr

def Handled.deeds (x : Handled) : List Deed :=
  [.took x.pickup, .resolved x.resolution]

/-- What can happen next around a worker. -/
inductive WatchMove
  | act (a : Actor)
  | call (c : Call)
  /-- Any packet is put into the handoff channel. -/
  | feed (p : Packet Job)
  deriving DecidableEq, Repr

/-- A system in which one worker is watched. -/
structure Watch where
  state : Pipeline
  /-- What the worker did, in this order. -/
  deeds : List Deed := []
  /-- How often the worker recorded that a task was given up. -/
  recorded : Nat := 0
  /-- What the worker put into the outbound channel, in this order. -/
  handed : List (Packet Job) := []
  /-- The works that ended, in this order. -/
  ended : List Execution := []

namespace Pipeline

/-- What a worker does that goes from one point to another. -/
def deedBetween? (s : Pipeline) (before after : WorkerPoint) : Option Deed :=
  match before, after with
  | .idle, .executing ticket _ time _ => s.handoff.buffer.head?.map fun p => .took ⟨ticket, p, time⟩
  | .forwarding p, .idle => some (.resolved (.forwarded p))
  | .timedOut task, .idle => some (.resolved (.timedOut task))
  | .panicked task, .idle => some (.resolved (.panicked task))
  | before, after =>
    if after.isOver then before.held.head?.map fun task =>
      .resolved (.dropped task s.signal.isShutdown (s.outbound.receivers == 0))
    else none

/-- What the worker in a place does between two states. -/
def deed? (k : Nat) (s t : Pipeline) : Option Deed :=
  (s.workers[k]?).bind fun w => (t.workers[k]?).bind fun v => s.deedBetween? w.point v.point

/-- The work that an actor brings to its end. -/
def ended? (s : Pipeline) : Actor → Option Execution
  | .execution ticket => s.executions.find? (·.ticket == ticket)
  | _ => none

/-- A packet is put into the handoff channel from outside. -/
def feed (p : Packet Job) (s : Pipeline) : Pipeline :=
  { s with handoff := (s.handoff.trySend s.holdings.handoffSender p).2 }

end Pipeline

namespace Watch

open Pipeline

/-- What is seen of the worker in a place when an actor has taken a step. -/
def observe (k : Nat) (a : Actor) (t : Pipeline) (f : Watch) : Watch where
  state := t
  deeds := f.deeds ++ (if a = .worker k then f.state.deed? k t else none).toList
  recorded := f.recorded +
    if a = .worker k then t.counters.abandoned - f.state.counters.abandoned else 0
  handed := f.handed ++
    if a = .worker k then t.outbound.buffer.drop f.state.outbound.buffer.length else []
  ended := f.ended ++ (f.state.ended? a).toList

def move (k : Nat) : WatchMove → Watch → Option Watch
  | .act a, f => (f.state.step a).map (f.observe k a)
  | .call c, f => some { f with state := (f.state.call c).2 }
  | .feed p, f => some { f with state := f.state.feed p }

/-- What is true of a packet that a worker of this number took and of its resolution. -/
inductive Follows (id : Nat) (f : Watch) (x : Pickup) : Resolution → Prop
  | forwarded (hended : x.execution id ∈ f.ended) (hreturns : x.packet.item.work.panics = false) :
      Follows id f x (.forwarded ((x.packet.stamp id).mapItem Job.afterRun))
  | timedOut (hdeadline : x.time + f.state.taskTimeoutMs ≤ f.state.now) :
      Follows id f x (.timedOut x.packet.task)
  | panicked (hended : x.execution id ∈ f.ended) (hpanics : x.packet.item.work.panics = true) :
      Follows id f x (.panicked x.packet.task)
  /-- While the signal is open, only a result that nobody is left to receive is dropped. -/
  | dropped (dismissed unheard : Bool)
      (hcause : dismissed = true ∨
        unheard = true ∧ x.execution id ∈ f.ended ∧ x.packet.item.work.panics = false) :
      Follows id f x (.dropped x.packet.task dismissed unheard)

/-- The deeds of a worker, by the packets that it is done with and the one that it has not. -/
structure Accounts (id : Nat) (f : Watch) (done : List Handled) (pending : Option Pickup) : Prop where
  deeds : f.deeds = done.flatMap Handled.deeds ++ pending.toList.map .took
  /-- No two packets share a work. -/
  tickets : (f.deeds.filterMap Deed.pickup?).Pairwise (·.ticket < ·.ticket)
  follows : ∀ x ∈ done, Follows id f x.pickup x.resolution
  handed : f.handed = done.filterMap (·.resolution.forwarded?)
  recorded : f.recorded = done.countP (·.resolution.isAbandonment)
  /-- Nothing comes after a packet that was dropped. -/
  lastDrop : done.Pairwise fun x _ => x.resolution.isDrop = false

/-- What is known at a point of the packet that the worker has not done with. -/
inductive Stands (id : Nat) (f : Watch) : WorkerPoint → Option Pickup → Prop
  | idle : Stands id f .idle none
  | gone (point : WorkerPoint) (hover : point.isOver = true) : Stands id f point none
  | waits (x : Pickup) (hissued : x.ticket < f.state.nextTicket)
      (hwork : ∀ e ∈ f.state.executions, e.ticket = x.ticket → e = x.execution id) :
      Stands id f (.executing x.ticket x.packet.task x.time .running) (some x)
  | heard (x : Pickup) (hended : x.execution id ∈ f.ended) :
      Stands id f (.executing x.ticket x.packet.task x.time (outcomeOf (x.execution id))) (some x)
  | late (x : Pickup) (hdeadline : x.time + f.state.taskTimeoutMs ≤ f.state.now) :
      Stands id f (.timedOut x.packet.task) (some x)
  | failed (x : Pickup) (hended : x.execution id ∈ f.ended)
      (hpanics : x.packet.item.work.panics = true) : Stands id f (.panicked x.packet.task) (some x)
  | holds (x : Pickup) (hended : x.execution id ∈ f.ended)
      (hreturns : x.packet.item.work.panics = false) :
      Stands id f (.forwarding ((x.packet.stamp id).mapItem Job.afterRun)) (some x)

/-- What holds of a worker that is watched. -/
structure Tracks (k id : Nat) (f : Watch) (done : List Handled) (pending : Option Pickup) : Prop where
  accounts : Accounts id f done pending
  stands : ∃ w, f.state.workers[k]? = some w ∧ w.id = id ∧ Stands id f w.point pending ∧
    ((∃ x ∈ done, x.resolution.isDrop = true) → w.point.isOver = true)
  issued : ∀ e ∈ f.state.executions, e.ticket < f.state.nextTicket
  drawn : ∀ x ∈ f.deeds.filterMap Deed.pickup?, x.ticket < f.state.nextTicket

/-! ### Whatever happens elsewhere -/

/-- Time goes on, tickets are given out in order and works that began are not altered. -/
structure Onward (s t : Pipeline) : Prop where
  now : s.now ≤ t.now
  timeout : t.taskTimeoutMs = s.taskTimeoutMs
  nextTicket : s.nextTicket ≤ t.nextTicket
  executions : ∀ e ∈ t.executions, e ∈ s.executions ∨ s.nextTicket ≤ e.ticket ∧ e.ticket < t.nextTicket

variable {s t : Pipeline} {f g : Watch} {k id : Nat} {x : Pickup}

theorem onward_of_workerStep {w : Worker} (hworker : s.workers[k]? = some w)
    (h : WorkerStep s k w t) : Onward s t where
  now := Nat.le_of_eq h.frame.now.symm
  timeout := congrArg Plan.taskTimeoutMs (plan_of_workerStep hworker h)
  nextTicket := by
    rcases h.begins_or_rests with ⟨p, rest, -, rfl⟩ | ⟨-, hticket, -⟩
    · exact Nat.le_succ _
    · exact Nat.le_of_eq hticket.symm
  executions e he := by
    rcases h.begins_or_rests with ⟨p, rest, -, rfl⟩ | ⟨hexecutions, -, -⟩
    · rcases List.mem_append.mp he with hold | hnew
      · exact .inl hold
      · rw [List.mem_singleton.mp hnew]
        exact .inr ⟨Nat.le_refl _, Nat.lt_succ_self _⟩
    · exact .inl (hexecutions ▸ he)

theorem onward_of_executionStep {ticket : Nat} (h : ExecutionStep s ticket t) : Onward s t := by
  cases h <;> exact ⟨Nat.le_refl _, rfl, Nat.le_refl _, fun e he => .inl (List.mem_of_mem_eraseP he)⟩

theorem onward_of_step {a : Actor} (h : s.step a = some t) : Onward s t := by
  have hmove : s.move (.act a) = some t := h
  have htimeout := congrArg Plan.taskTimeoutMs (plan_of_move hmove)
  cases moveBy_of_move hmove with
  | dispatcher h =>
    have hframe := h.frame
    exact ⟨Nat.le_of_eq hframe.now.symm, htimeout, Nat.le_of_eq hframe.nextTicket.symm,
      fun e he => .inl (hframe.executions ▸ he)⟩
  | worker j w hworker h => exact onward_of_workerStep hworker h
  | collector h =>
    have hframe := h.frame
    exact ⟨Nat.le_of_eq hframe.now.symm, htimeout, Nat.le_of_eq hframe.nextTicket.symm,
      fun e he => .inl (hframe.executions ▸ he)⟩
  | supervisor h =>
    obtain ⟨supervisor, exits, metrics, log, rfl, -, -⟩ := supervisorStep_frame h
    exact ⟨Nat.le_refl _, rfl, Nat.le_refl _, fun e he => .inl he⟩
  | execution ticket h => exact onward_of_executionStep h

theorem onward_of_call (s : Pipeline) (c : Call) : Onward s (s.call c).2 := by
  have hframe := stagesFrame_of_call s c
  exact ⟨hframe.now, hframe.taskTimeoutMs, Nat.le_of_eq hframe.nextTicket.symm,
    fun e he => .inl (hframe.executions ▸ he)⟩

theorem Follows.mono {r : Resolution} (h : Follows id f x r) (hstate : Onward f.state g.state)
    (hended : f.ended ⊆ g.ended) : Follows id g x r := by
  cases h with
  | forwarded hold hreturns => exact .forwarded (hended hold) hreturns
  | timedOut hdeadline =>
    refine .timedOut ?_
    rw [hstate.timeout]
    exact Nat.le_trans hdeadline hstate.now
  | panicked hold hpanics => exact .panicked (hended hold) hpanics
  | dropped dismissed unheard hcause =>
    exact .dropped dismissed unheard
      (hcause.imp_right fun ⟨hunheard, hold, hreturns⟩ => ⟨hunheard, hended hold, hreturns⟩)

theorem Stands.mono {point : WorkerPoint} {pending : Option Pickup} (h : Stands id f point pending)
    (hstate : Onward f.state g.state) (hended : f.ended ⊆ g.ended) : Stands id g point pending := by
  cases h with
  | idle => exact .idle
  | gone point hover => exact .gone point hover
  | waits x hissued hwork =>
    refine .waits x (Nat.lt_of_lt_of_le hissued hstate.nextTicket) fun e he hticket => ?_
    rcases hstate.executions e he with hold | ⟨hnew, -⟩
    · exact hwork e hold hticket
    · omega
  | heard x hold => exact .heard x (hended hold)
  | late x hdeadline =>
    refine .late x ?_
    rw [hstate.timeout]
    exact Nat.le_trans hdeadline hstate.now
  | failed x hold hpanics => exact .failed x (hended hold) hpanics
  | holds x hold hreturns => exact .holds x (hended hold) hreturns

theorem Onward.issued (h : Onward s t) (hs : ∀ e ∈ s.executions, e.ticket < s.nextTicket) :
    ∀ e ∈ t.executions, e.ticket < t.nextTicket := by
  intro e he
  rcases h.executions e he with hold | ⟨-, hnew⟩
  · exact Nat.lt_of_lt_of_le (hs e hold) h.nextTicket
  · exact hnew

variable {done : List Handled} {pending : Option Pickup}

theorem Accounts.mono (h : Accounts id f done pending) (hstate : Onward f.state g.state)
    (hended : f.ended ⊆ g.ended) (hdeeds : g.deeds = f.deeds) (hhanded : g.handed = f.handed)
    (hrecorded : g.recorded = f.recorded) : Accounts id g done pending where
  deeds := hdeeds.trans h.deeds
  tickets := hdeeds ▸ h.tickets
  follows x hx := (h.follows x hx).mono hstate hended
  handed := hhanded.trans h.handed
  recorded := hrecorded.trans h.recorded
  lastDrop := h.lastDrop

/-- The watched worker stays where it is. -/
theorem Tracks.elsewhere (h : Tracks k id f done pending) (hstate : Onward f.state g.state)
    (hended : f.ended ⊆ g.ended) (hdeeds : g.deeds = f.deeds) (hhanded : g.handed = f.handed)
    (hrecorded : g.recorded = f.recorded) (hworker : g.state.workers[k]? = f.state.workers[k]?) :
    Tracks k id g done pending where
  accounts := h.accounts.mono hstate hended hdeeds hhanded hrecorded
  stands := by
    obtain ⟨w, hw, hid, hstands, hover⟩ := h.stands
    exact ⟨w, hworker.trans hw, hid, hstands.mono hstate hended, hover⟩
  issued := hstate.issued h.issued
  drawn x hx := Nat.lt_of_lt_of_le (h.drawn x (hdeeds ▸ hx)) hstate.nextTicket

/-! ### What the worker does -/

/-- A step of a worker of this number, by the points that it goes from and to and by what it does. -/
inductive Turn (s t : Pipeline) (id : Nat) : WorkerPoint → WorkerPoint → Option Deed → Prop
  | took (p : Packet Job)
      (hexecutions : t.executions = s.executions ++ [⟨s.nextTicket, s.now, p.stamp id⟩])
      (hticket : t.nextTicket = s.nextTicket + 1) :
      Turn s t id .idle (.executing s.nextTicket p.task s.now .running)
        (some (.took ⟨s.nextTicket, p, s.now⟩))
  | heardReturn (ticket task time : Nat) (p : Packet Job) :
      Turn s t id (.executing ticket task time (.returned p)) (.forwarding p) none
  | heardPanic (ticket task time : Nat) :
      Turn s t id (.executing ticket task time .panicked) (.panicked task) none
  | expired (ticket task time : Nat) (hdeadline : time + s.taskTimeoutMs ≤ s.now) :
      Turn s t id (.executing ticket task time .running) (.timedOut task) none
  | countedTimeout (task : Nat) :
      Turn s t id (.timedOut task) .idle (some (.resolved (.timedOut task)))
  | countedPanic (task : Nat) :
      Turn s t id (.panicked task) .idle (some (.resolved (.panicked task)))
  | forwarded (p : Packet Job) :
      Turn s t id (.forwarding p) .idle (some (.resolved (.forwarded p)))
  | ended (point : WorkerPoint) (hover : point.isOver = true) : Turn s t id .idle point none
  | dropped (before point : WorkerPoint) (task : Nat) (hheld : before.held = [task])
      (hover : point.isOver = true)
      (hcause : s.signal.isShutdown = true ∨ s.outbound.receivers = 0 ∧ ∃ p, before = .forwarding p) :
      Turn s t id before point
        (some (.resolved (.dropped task s.signal.isShutdown (s.outbound.receivers == 0))))

/-- Of the outbound channel and of the tasks that were given up, a step alters what its deed says. -/
structure Leaves (s t : Pipeline) (deed : Option Deed) : Prop where
  outbound : t.outbound.buffer = s.outbound.buffer ++ (deed.bind Deed.forwarded?).toList
  abandoned : t.counters.abandoned = s.counters.abandoned + (deed.any Deed.isAbandonment).toNat

theorem deedBetween?_of_isOver {before after : WorkerPoint} (hover : after.isOver = true) :
    s.deedBetween? before after = before.held.head?.map fun task =>
      .resolved (.dropped task s.signal.isShutdown (s.outbound.receivers == 0)) := by
  cases after <;> cases before <;> first | rfl | cases hover

theorem turn_of_ended {point : WorkerPoint} (hover : point.isOver = true) :
    Turn s t id .idle point (s.deedBetween? .idle point) := by
  rw [deedBetween?_of_isOver hover]
  exact .ended point hover

theorem turn_of_dropped {before point : WorkerPoint} {task : Nat} (hheld : before.held = [task])
    (hover : point.isOver = true)
    (hcause : s.signal.isShutdown = true ∨ s.outbound.receivers = 0 ∧ ∃ p, before = .forwarding p) :
    Turn s t id before point (s.deedBetween? before point) := by
  rw [deedBetween?_of_isOver hover, hheld]
  exact .dropped before point task hheld hover hcause

theorem leaves_none (hkept : t.outbound.buffer = s.outbound.buffer ∧ t.counters = s.counters) :
    Leaves s t none :=
  ⟨by simp [hkept.1], by simp [hkept.2]⟩

theorem leaves_abandonment {r : Resolution} (hr : r.isAbandonment = true ∧ r.forwarded? = none)
    (hkept : t.outbound.buffer = s.outbound.buffer ∧ t.counters = s.counters.recordAbandoned) :
    Leaves s t (some (.resolved r)) :=
  ⟨by simp [hkept.1, Deed.forwarded?, hr.2],
    by simp [hkept.2, Deed.isAbandonment, hr.1, Counters.recordAbandoned]⟩

/-- A worker that ends hands nothing over and gives nothing up. -/
theorem leaves_of_ended {before point : WorkerPoint} (hover : point.isOver = true)
    (hkept : t.outbound.buffer = s.outbound.buffer ∧ t.counters = s.counters) :
    Leaves s t (s.deedBetween? before point) := by
  rw [deedBetween?_of_isOver hover]
  cases before.held.head? <;>
    exact ⟨by simp [hkept.1, Deed.forwarded?, Resolution.forwarded?],
      by simp [hkept.2, Deed.isAbandonment, Resolution.isAbandonment]⟩

/-- The deed of a step is what the step amounts to, and it alters nothing that it does not say. -/
theorem turn_of_workerStep {w : Worker} (hworker : s.workers[k]? = some w) (h : WorkerStep s k w t) :
    ∃ point, t.workers[k]? = some { w with point } ∧ Turn s t w.id w.point point (s.deed? k t) ∧
      Leaves s t (s.deed? k t) := by
  have hk : k < s.workers.length := (List.getElem?_eq_some_iff.mp hworker).1
  have hturn : ∀ {point : WorkerPoint}, t.workers = s.workers.set k { w with point } →
      Turn s t w.id w.point point (s.deedBetween? w.point point) →
      Leaves s t (s.deedBetween? w.point point) →
      ∃ point, t.workers[k]? = some { w with point } ∧
        Turn s t w.id w.point point (s.deed? k t) ∧ Leaves s t (s.deed? k t) := by
    intro point hworkers hturn hleaves
    have hnew : t.workers[k]? = some { w with point } := by
      rw [hworkers, List.getElem?_set_self hk]
    have hdeed : s.deed? k t = s.deedBetween? w.point point := by
      rw [deed?, hworker, hnew]
      rfl
    exact ⟨point, hnew, hdeed ▸ hturn, hdeed ▸ hleaves⟩
  cases h with
  | took p rest hpoint hsignal hbuffer =>
    refine hturn rfl ?_ ?_ <;> rw [hpoint]
    · simpa [deedBetween?, hbuffer] using Turn.took p rfl rfl
    · exact ⟨by simp [beginWork, deedBetween?, hbuffer, Deed.forwarded?],
        by simp [beginWork, deedBetween?, hbuffer, Deed.isAbandonment]⟩
  | heardReturn ticket task time p hpoint =>
    refine hturn rfl (hpoint ▸ .heardReturn ticket task time p) ?_
    rw [hpoint]
    exact leaves_none ⟨rfl, rfl⟩
  | heardPanic ticket task time hpoint =>
    refine hturn rfl (hpoint ▸ .heardPanic ticket task time) ?_
    rw [hpoint]
    exact leaves_none ⟨rfl, rfl⟩
  | expired ticket task time hpoint hsignal hdeadline =>
    refine hturn rfl (hpoint ▸ .expired ticket task time hdeadline) ?_
    rw [hpoint]
    exact leaves_none ⟨rfl, rfl⟩
  | countedTimeout task hpoint =>
    refine hturn rfl (hpoint ▸ .countedTimeout task) ?_
    rw [hpoint]
    exact leaves_abandonment ⟨rfl, rfl⟩ ⟨rfl, rfl⟩
  | countedPanic task hpoint =>
    refine hturn rfl (hpoint ▸ .countedPanic task) ?_
    rw [hpoint]
    exact leaves_abandonment ⟨rfl, rfl⟩ ⟨rfl, rfl⟩
  | forwarded p hpoint hsignal hreceivers =>
    refine hturn rfl (hpoint ▸ .forwarded p) ?_
    rw [hpoint]
    exact ⟨by simp [deedBetween?, Deed.forwarded?, Resolution.forwarded?, Channel.push_buffer, hreceivers],
      by simp [deedBetween?, Deed.isAbandonment, Resolution.isAbandonment]⟩
  | dismissed hpoint | drained hpoint =>
    exact hturn rfl (hpoint ▸ turn_of_ended (by simp))
      (leaves_of_ended (by simp) (by simp [endWorker]))
  | left _ task _ _ hpoint hsignal | leftCrashing _ task _ _ _ hpoint hsignal =>
    exact hturn rfl (hpoint ▸ turn_of_dropped rfl (by simp) (.inl hsignal))
      (leaves_of_ended (by simp) (by simp [endWorker, crashWorker]))
  | dropped p hpoint hsignal | droppedCrashing p _ hpoint hsignal =>
    exact hturn rfl (hpoint ▸ turn_of_dropped rfl (by simp) (.inl hsignal))
      (leaves_of_ended (by simp) (by simp [endWorker, crashWorker]))
  | unheard p hpoint _ hreceivers | unheardCrashing p _ hpoint _ hreceivers =>
    exact hturn rfl (hpoint ▸ turn_of_dropped rfl (by simp) (.inr ⟨hreceivers, p, rfl⟩))
      (leaves_of_ended (by simp) (by simp [endWorker, crashWorker]))

/-! ### The accounts after a step of the worker -/

/-- What is seen of the worker when it has done this. -/
structure Sees (f g : Watch) (deed : Option Deed) : Prop where
  deeds : g.deeds = f.deeds ++ deed.toList
  handed : g.handed = f.handed ++ (deed.bind Deed.forwarded?).toList
  recorded : g.recorded = f.recorded + (deed.any Deed.isAbandonment).toNat

theorem sees_observe (h : Leaves f.state t (f.state.deed? k t)) :
    Sees f (f.observe k (.worker k) t) (f.state.deed? k t) where
  deeds := by simp [observe]
  handed := by simp [observe, h.outbound]
  recorded := by simp [observe, h.abandoned]

theorem Accounts.rest (h : Accounts id f done pending) (hstate : Onward f.state g.state)
    (hended : f.ended ⊆ g.ended) (hsees : Sees f g none) : Accounts id g done pending :=
  h.mono hstate hended (by simpa using hsees.deeds) (by simpa using hsees.handed)
    (by simpa using hsees.recorded)

theorem Accounts.take (h : Accounts id f done none) (hstate : Onward f.state g.state)
    (hended : f.ended ⊆ g.ended) (hsees : Sees f g (some (.took x)))
    (hnew : ∀ y ∈ f.deeds.filterMap Deed.pickup?, y.ticket < x.ticket) :
    Accounts id g done (some x) where
  deeds := by simpa [h.deeds] using hsees.deeds
  tickets := by
    rw [hsees.deeds, List.filterMap_append]
    refine List.pairwise_append.mpr ⟨h.tickets, List.pairwise_singleton _ _, fun y hy z hz => ?_⟩
    rw [List.mem_singleton.mp hz]
    exact hnew y hy
  follows y hy := (h.follows y hy).mono hstate hended
  handed := by simpa [Deed.forwarded?, h.handed] using hsees.handed
  recorded := by simpa [Deed.isAbandonment, h.recorded] using hsees.recorded
  lastDrop := h.lastDrop

/-- The worker is done with the packet that it had not done with. -/
theorem Accounts.resolve {r : Resolution} (h : Accounts id f done (some x))
    (hstate : Onward f.state g.state) (hended : f.ended ⊆ g.ended)
    (hsees : Sees f g (some (.resolved r))) (hfollows : Follows id g x r)
    (hnone : ∀ y ∈ done, y.resolution.isDrop = false) :
    Accounts id g (done ++ [⟨x, r⟩]) none where
  deeds := by simpa [h.deeds, Handled.deeds] using hsees.deeds
  tickets := by
    have hsame : g.deeds.filterMap Deed.pickup? = f.deeds.filterMap Deed.pickup? := by
      rw [hsees.deeds, List.filterMap_append]
      exact List.append_nil _
    rw [hsame]
    exact h.tickets
  follows y hy := by
    rcases List.mem_append.mp hy with hold | hnew
    · exact (h.follows y hold).mono hstate hended
    · rw [List.mem_singleton.mp hnew]
      exact hfollows
  handed := by
    rw [List.filterMap_append, ← h.handed, hsees.handed]
    cases hr : r.forwarded? <;> simp [Deed.forwarded?, hr]
  recorded := by
    rw [List.countP_append, ← h.recorded, hsees.recorded, List.countP_singleton]
    cases hr : r.isAbandonment <;> simp [Deed.isAbandonment, hr]
  lastDrop := by
    refine List.pairwise_append.mpr ⟨h.lastDrop, List.pairwise_singleton _ _, ?_⟩
    intro y hy _ _
    exact hnone y hy

theorem outcomeOf_execution (id : Nat) (x : Pickup) : outcomeOf (x.execution id) =
    if x.packet.item.work.panics then .panicked
    else .returned ((x.packet.stamp id).mapItem Job.afterRun) :=
  rfl

theorem stands_of_heardReturn {ticket task time : Nat} {p : Packet Job}
    (h : Stands id f (.executing ticket task time (.returned p)) pending) :
    Stands id f (.forwarding p) pending := by
  generalize houtcome : Outcome.returned p = outcome at h
  cases h with
  | waits => cases houtcome
  | gone _ hover => cases hover
  | heard x hended =>
    rw [outcomeOf_execution] at houtcome
    split at houtcome
    next => cases houtcome
    next hreturns =>
      cases houtcome
      exact .holds x hended (eq_false_of_ne_true hreturns)

theorem stands_of_heardPanic {ticket task time : Nat}
    (h : Stands id f (.executing ticket task time .panicked) pending) :
    Stands id f (.panicked task) pending := by
  generalize houtcome : Outcome.panicked = outcome at h
  cases h with
  | waits => cases houtcome
  | gone _ hover => cases hover
  | heard x hended =>
    rw [outcomeOf_execution] at houtcome
    split at houtcome
    next hpanics => exact .failed x hended hpanics
    next => cases houtcome

theorem stands_of_expired {ticket task time : Nat}
    (h : Stands id f (.executing ticket task time .running) pending)
    (hdeadline : time + f.state.taskTimeoutMs ≤ f.state.now) : Stands id f (.timedOut task) pending := by
  generalize houtcome : Outcome.running = outcome at h
  cases h with
  | waits x => exact .late x hdeadline
  | gone _ hover => cases hover
  | heard x => exact absurd houtcome.symm (outcomeOf_ne_running _)

theorem stands_of_delivered {ticket task time : Nat} {e : Execution}
    (h : Stands id f (.executing ticket task time .running) pending)
    (he : e ∈ f.state.executions) (hticket : e.ticket = ticket) (hended : e ∈ g.ended) :
    Stands id g (.executing ticket task time (outcomeOf e)) pending := by
  generalize houtcome : Outcome.running = outcome at h
  cases h with
  | waits x hissued hwork =>
    obtain rfl := hwork e he hticket
    exact .heard x hended
  | gone _ hover => cases hover
  | heard x => exact absurd houtcome.symm (outcomeOf_ne_running _)

theorem Stands.returned {p : Packet Job} (h : Stands id f (.forwarding p) (some x)) :
    x.execution id ∈ f.ended ∧ x.packet.item.work.panics = false := by
  cases h with
  | holds x hended hreturns => exact ⟨hended, hreturns⟩

/-- The worker holds the task of the packet that it has not done with, and no other. -/
theorem Stands.held {point : WorkerPoint} (h : Stands id f point pending) :
    point.held = pending.toList.map (·.packet.task) := by
  cases h with
  | gone point hover => cases point <;> first | rfl | cases hover
  | _ => rfl

/-- What is known of the packet after a step of the worker. Either the worker goes on with what it has, or
it takes a packet with empty hands, or it is done with the one that it had. -/
theorem Turn.stands {before after : WorkerPoint} {deed : Option Deed}
    (h : Turn f.state g.state id before after deed) (hstands : Stands id f before pending)
    (hstate : Onward f.state g.state) (hended : f.ended ⊆ g.ended)
    (hissued : ∀ e ∈ f.state.executions, e.ticket < f.state.nextTicket) :
    (deed = none ∧ Stands id g after pending) ∨
    (∃ x, deed = some (.took x) ∧ pending = none ∧ Stands id g after (some x) ∧
      x.ticket = f.state.nextTicket ∧ g.state.nextTicket = f.state.nextTicket + 1) ∨
    ∃ x r, deed = some (.resolved r) ∧ pending = some x ∧ Follows id g x r ∧ Stands id g after none ∧
      (r.isDrop = true → after.isOver = true) := by
  cases h with
  | took p hexecutions hticket =>
    cases hstands with
    | gone _ hover => cases hover
    | idle =>
      refine .inr (.inl ⟨_, rfl, rfl, .waits ⟨f.state.nextTicket, p, f.state.now⟩ ?_ ?_, rfl,
        hticket⟩)
      · rw [hticket]
        exact Nat.lt_succ_self _
      · -- Every work that began before has an older ticket.
        intro e he heq
        rw [hexecutions] at he
        rcases List.mem_append.mp he with hold | hnew
        · exact absurd (hissued e hold) (heq ▸ Nat.lt_irrefl _)
        · exact List.mem_singleton.mp hnew
  | heardReturn ticket task time p =>
    exact .inl ⟨rfl, (stands_of_heardReturn hstands).mono hstate hended⟩
  | heardPanic ticket task time =>
    exact .inl ⟨rfl, (stands_of_heardPanic hstands).mono hstate hended⟩
  | expired ticket task time hdeadline =>
    exact .inl ⟨rfl, (stands_of_expired hstands hdeadline).mono hstate hended⟩
  | countedTimeout task =>
    cases hstands with
    | gone _ hover => cases hover
    | late x hdeadline =>
      refine .inr (.inr ⟨x, _, rfl, rfl, ?_, .idle, nofun⟩)
      exact (Follows.timedOut hdeadline).mono hstate hended
  | countedPanic task =>
    cases hstands with
    | gone _ hover => cases hover
    | failed x hold hpanics =>
      exact .inr (.inr ⟨x, _, rfl, rfl, .panicked (hended hold) hpanics, .idle, nofun⟩)
  | forwarded p =>
    cases hstands with
    | gone _ hover => cases hover
    | holds x hold hreturns =>
      exact .inr (.inr ⟨x, _, rfl, rfl, .forwarded (hended hold) hreturns, .idle, nofun⟩)
  | ended point hover =>
    cases hstands with
    | gone _ hover => cases hover
    | idle => exact .inl ⟨rfl, .gone _ hover⟩
  | dropped before point task hheld hover hcause =>
    have hpending := hstands.held
    rw [hheld] at hpending
    cases pending with
    | none => cases hpending
    | some x =>
      obtain rfl : task = x.packet.task := (List.cons.inj hpending).1
      refine .inr (.inr ⟨x, _, rfl, rfl, .dropped _ _ ?_, .gone _ hover, fun _ => hover⟩)
      refine hcause.imp_right fun ⟨hreceivers, p, hforwarding⟩ => ?_
      obtain ⟨hold, hreturns⟩ := Stands.returned (hforwarding ▸ hstands)
      exact ⟨beq_iff_eq.mpr hreceivers, hended hold, hreturns⟩

theorem Tracks.act_self (h : Tracks k id f done pending) {w : Worker}
    (hworker : f.state.workers[k]? = some w) (hstep : WorkerStep f.state k w t) :
    ∃ done pending, Tracks k id (f.observe k (.worker k) t) done pending := by
  obtain ⟨v, hv, rfl, hstands, hdropped⟩ := h.stands
  obtain rfl : w = v := Option.some.inj (hworker.symm.trans hv)
  obtain ⟨point, hnew, hturn, hleaves⟩ := turn_of_workerStep hworker hstep
  have hsees := sees_observe hleaves
  have hstate : Onward f.state (f.observe k (.worker k) t).state := onward_of_workerStep hworker hstep
  have hended : f.ended ⊆ (f.observe k (.worker k) t).ended := List.subset_append_left _ _
  have hissued := hstate.issued h.issued
  -- A worker that goes on has dropped nothing.
  have hnone : ∀ y ∈ done, y.resolution.isDrop = false := by
    intro y hy
    by_contra hdrop
    have hover := hdropped ⟨y, hy, eq_true_of_ne_false hdrop⟩
    exact absurd hover (by simpa [WorkerPoint.isLive] using hstep.isLive)
  have hkept : ∀ x ∈ f.deeds.filterMap Deed.pickup?, x.ticket < t.nextTicket :=
    fun x hx => Nat.lt_of_lt_of_le (h.drawn x hx) hstate.nextTicket
  rcases Turn.stands (g := f.observe k (.worker k) t) hturn hstands hstate hended h.issued with
    ⟨hdeed, hafter⟩ | ⟨x, hdeed, rfl, hafter, hticket, hnext⟩ |
      ⟨x, r, hdeed, rfl, hfollows, hafter, hover⟩ <;>
    rw [hdeed] at hsees
  · refine ⟨done, pending, h.accounts.rest hstate hended hsees, ⟨_, hnew, rfl, hafter, ?_⟩, hissued, ?_⟩
    · rintro ⟨y, hy, hdrop⟩
      exact absurd hdrop (by simp [hnone y hy])
    · rw [hsees.deeds, Option.toList_none, List.append_nil]
      exact hkept
  · refine ⟨done, some x, h.accounts.take hstate hended hsees (hticket ▸ h.drawn),
      ⟨_, hnew, rfl, hafter, ?_⟩, hissued, ?_⟩
    · rintro ⟨y, hy, hdrop⟩
      exact absurd hdrop (by simp [hnone y hy])
    · intro y hy
      rw [hsees.deeds, List.filterMap_append] at hy
      rcases List.mem_append.mp hy with hold | hlast
      · exact hkept y hold
      · rw [List.mem_singleton.mp hlast, hticket, hnext]
        exact Nat.lt_succ_self _
  · refine ⟨_, none, h.accounts.resolve hstate hended hsees hfollows hnone,
      ⟨_, hnew, rfl, hafter, ?_⟩, hissued, ?_⟩
    · rintro ⟨y, hy, hdrop⟩
      rcases List.mem_append.mp hy with hold | hlast
      · exact absurd hdrop (by simp [hnone y hold])
      · rw [List.mem_singleton.mp hlast] at hdrop
        exact hover hdrop
    · intro y hy
      rw [hsees.deeds, List.filterMap_append] at hy
      rcases List.mem_append.mp hy with hold | hlast
      · exact hkept y hold
      · cases hlast

/-! ### Whole runs -/

/-- A step that is not the watched worker's. -/
theorem observe_other {a : Actor} (ha : a ≠ .worker k) :
    (f.observe k a t).deeds = f.deeds ∧ (f.observe k a t).handed = f.handed ∧
      (f.observe k a t).recorded = f.recorded := by
  simp [observe, ha]

/-- A work that ends tells the worker that waits for it. -/
theorem Tracks.execution {ticket : Nat} (h : Tracks k id f done pending)
    (hstep : ExecutionStep f.state ticket t) :
    Tracks k id (f.observe k (.execution ticket) t) done pending := by
  have hstate : Onward f.state (f.observe k (.execution ticket) t).state := onward_of_executionStep hstep
  have hended : f.ended ⊆ (f.observe k (.execution ticket) t).ended := List.subset_append_left _ _
  have hother : Actor.execution ticket ≠ .worker k := nofun
  obtain ⟨hdeeds, hhanded, hrecorded⟩ := observe_other (f := f) (t := t) hother
  cases hstep with
  | late => exact h.elsewhere hstate hended hdeeds hhanded hrecorded rfl
  | delivered e j w task startedAt hfind hend hworker hpoint =>
    by_cases hj : j = k
    · subst hj
      obtain ⟨v, hv, rfl, hstands, hdropped⟩ := h.stands
      obtain rfl : w = v := Option.some.inj (hworker.symm.trans hv)
      rw [hpoint] at hstands hdropped
      have hk := (List.getElem?_eq_some_iff.mp hworker).1
      obtain ⟨he, hticket⟩ := find?_ticket_eq_some hfind
      refine ⟨h.accounts.mono hstate hended hdeeds hhanded hrecorded,
        ⟨_, List.getElem?_set_self hk, rfl, stands_of_delivered hstands he hticket ?_, ?_⟩,
        hstate.issued h.issued, hdeeds ▸ h.drawn⟩
      · simp [observe, ended?, hfind]
      · exact fun hdrop => absurd (hdropped hdrop) nofun
    · exact h.elsewhere hstate hended hdeeds hhanded hrecorded (List.getElem?_set_ne hj)

theorem Tracks.act {a : Actor} (h : Tracks k id f done pending) (hstep : f.state.step a = some t) :
    ∃ done pending, Tracks k id (f.observe k a t) done pending := by
  have hstate : Onward f.state (f.observe k a t).state := onward_of_step hstep
  have hended : f.ended ⊆ (f.observe k a t).ended := List.subset_append_left _ _
  have helsewhere (ha : a ≠ .worker k) (hworker : t.workers[k]? = f.state.workers[k]?) :
      ∃ done pending, Tracks k id (f.observe k a t) done pending := by
    obtain ⟨hdeeds, hhanded, hrecorded⟩ := observe_other (f := f) (t := t) ha
    exact ⟨done, pending, h.elsewhere hstate hended hdeeds hhanded hrecorded hworker⟩
  have hmove : f.state.move (.act a) = some t := hstep
  cases moveBy_of_move hmove with
  | dispatcher h => exact helsewhere nofun (by rw [h.frame.workers])
  | worker j w hworker hstep =>
    by_cases hj : j = k
    · subst hj
      exact h.act_self hworker hstep
    · refine helsewhere (fun heq => hj (Actor.worker.inj heq)) ?_
      rcases hstep.begins_or_rests with ⟨p, rest, -, rfl⟩ | ⟨-, -, -, point, hworkers, -⟩
      · exact List.getElem?_set_ne hj
      · rw [hworkers, List.getElem?_set_ne hj]
  | collector h => exact helsewhere nofun (by rw [h.frame.workers])
  | supervisor h =>
    obtain ⟨supervisor, exits, metrics, log, rfl, -, -⟩ := supervisorStep_frame h
    exact helsewhere nofun rfl
  | execution ticket hstep => exact ⟨done, pending, h.execution hstep⟩

theorem Tracks.move {m : WatchMove} (h : Tracks k id f done pending) (hmove : Watch.move k m f = some g) :
    ∃ done pending, Tracks k id g done pending := by
  cases m with
  | act a =>
    obtain ⟨t, hstep, rfl⟩ := Option.map_eq_some_iff.mp hmove
    exact h.act hstep
  | call c =>
    cases hmove
    exact ⟨done, pending, h.elsewhere (onward_of_call f.state c) (List.Subset.refl _) rfl rfl rfl
      (by rw [(stagesFrame_of_call f.state c).workers])⟩
  | feed p =>
    cases hmove
    have hstate : Onward f.state (f.state.feed p) :=
      ⟨Nat.le_refl _, rfl, Nat.le_refl _, fun e he => .inl he⟩
    exact ⟨done, pending, h.elsewhere hstate (List.Subset.refl _) rfl rfl rfl rfl⟩

end Watch

end Fanout
