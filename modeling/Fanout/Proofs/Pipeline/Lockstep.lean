import Mathlib.Data.List.Perm.Subperm
import Fanout.Proofs.Pipeline.Calls

/-!
A dispatcher alone, between its packets, the shared cursor and a channel that somebody else empties.
The packets and the cursor are advanced apart, and between the two the outside may receive, stop the
loading, close the channel or the signal, count an arrival or take a dispatch back. Whatever the order,
what was put into the channel is what was counted, in the order of the numbers (`InStep`,
`dispatcher_in_lockstep`).
-/

namespace Fanout

/-- A call that would take part in the dispatching. -/
def Call.dispatches : Call → Bool
  | .next _ | .record _ | .abandon | .send .. => true
  | _ => false

/-- The packet on its way into its slot. -/
def DispatcherPoint.committing? : DispatcherPoint → Option (Packet Job)
  | .committing p => some p
  | _ => none

/-- The packet that was drawn and whose dispatch is not counted. -/
def DispatcherPoint.drawn? : DispatcherPoint → Option (Packet Job)
  | .reserving _ p | .counting _ p => some p
  | _ => none

-- Equations and not unfoldings, so that the ends that may be crashes stay as they are.
attribute [simp] DispatcherPoint.committing?.eq_1 DispatcherPoint.committing?.eq_2
  DispatcherPoint.drawn?.eq_1 DispatcherPoint.drawn?.eq_2 DispatcherPoint.drawn?.eq_3

/-- A dispatcher that runs alone, with what has come of it so far. -/
structure Feed where
  state : Pipeline
  /-- The dispatches that were counted, in this order. -/
  counted : List Nat := []
  /-- The packets that were put into the channel, in this order. -/
  committed : List (Packet Job) := []
  /-- The packets that were received from the channel, in this order. -/
  received : List (Packet Job) := []
  /-- The tasks whose dispatch was taken back. -/
  takenBack : List Nat := []

/-- What can happen next around a dispatcher. -/
inductive FeedMove
  | dispatcher
  /-- A call from outside, save those that take part in the dispatching. -/
  | call (c : Call)
  /-- A dispatch that was counted is taken back, each one once. -/
  | takeBack (task : Nat)
  deriving DecidableEq, Repr

namespace Pipeline

/-- The index under which the next step of the dispatcher counts a dispatch. -/
def countsNext? (s : Pipeline) : Option Nat :=
  match s.dispatcher.point with
  | .counting i _ => if (s.counters.tryRecordDispatch i).isSome then some i else none
  | _ => none

/-- The packet that a call receives from the handoff channel. -/
def receiving? (s : Pipeline) : Call → Option (Packet Job)
  | .takeHandoff => if s.holdings.handoffReceiver then s.handoff.buffer.head? else none
  | _ => none

end Pipeline

namespace Feed

open Pipeline

/-- A dispatcher over these packets before anything has moved. -/
def start (want capacity : Nat) (packets : List (Packet Job)) : Feed :=
  { state := .ofDispatcher want capacity packets }

def move : FeedMove → Feed → Option Feed
  | .dispatcher, f => f.state.stepDispatcher.map fun t =>
    { f with
      state := t
      counted := f.counted ++ f.state.countsNext?.toList
      committed := f.committed ++ f.state.dispatcher.point.committing?.toList }
  | .call c, f =>
    if c.dispatches then none
    else some { f with
      state := (f.state.call c).2
      received := f.received ++ (f.state.receiving? c).toList }
  | .takeBack task, f =>
    if task ∈ f.counted ∧ task ∉ f.takenBack then
      some { f with state := (f.state.call .abandon).2, takenBack := f.takenBack ++ [task] }
    else none

def follow : List FeedMove → Feed → Option Feed
  | [], f => some f
  | m :: rest, f => (f.move m).bind (follow rest)

/-- The packets, the cursor, the counters and the channel go together. -/
structure InStep (want : Nat) (packets : List (Packet Job)) (f : Feed) : Prop where
  total : f.state.dispatcher.total = packets.length
  counted : f.counted = List.range f.counted.length
  bound : f.counted.length ≤ packets.length
  cursor : f.state.counters.cursor = .loading f.counted.length ∨ f.state.counters.cursor = .stopped
  sent : f.state.counters.sent + f.takenBack.length = f.counted.length
  abandoned : f.state.counters.abandoned = f.takenBack.length
  takenBack : f.takenBack.Nodup ∧ f.takenBack ⊆ f.counted
  committed : f.committed ++ f.state.dispatcher.point.committing?.toList =
    packets.take f.counted.length
  remaining : f.state.dispatcher.point.isOver = false →
    f.state.dispatcher.point.drawn?.toList ++ f.state.dispatcher.remaining =
      packets.drop f.counted.length
  index : ∀ i p, f.state.dispatcher.point = .reserving i p ∨
    f.state.dispatcher.point = .counting i p → i = f.counted.length
  exhausted : f.state.counters.supplyExhausted = true →
    f.counted.length = packets.length ∧ f.state.dispatcher.point.isOver = true
  want : f.state.counters.want = if f.state.counters.supplyExhausted then 0 else want
  slot : f.state.handoff.reserved = f.state.dispatcher.point.holdsSlot.toNat
  received : f.received <+: f.committed
  buffered : f.state.handoff.receivers ≠ 0 → f.received ++ f.state.handoff.buffer = f.committed
  emptied : f.state.handoff.receivers = 0 → f.state.handoff.buffer = []

@[simp] theorem committing?_afterDropping (lost : List (Packet Job)) :
    (DispatcherPoint.afterDropping lost).committing? = none :=
  DispatcherPoint.apply_afterDropping DispatcherPoint.committing? rfl (fun _ => rfl) lost

variable {want capacity : Nat} {packets : List (Packet Job)} {f g : Feed}

theorem follow_preserves {P : Feed → Prop} (hmove : ∀ f m g, P f → f.move m = some g → P g)
    {moves : List FeedMove} (hf : P f) (h : f.follow moves = some g) : P g := by
  induction moves generalizing f with
  | nil => exact Option.some.inj h ▸ hf
  | cons m rest ih =>
      obtain ⟨u, hu, hrest⟩ := Option.bind_eq_some_iff.mp h
      exact ih (hmove f m u hf hu) hrest

theorem inStep_start (want capacity : Nat) (packets : List (Packet Job)) :
    InStep want packets (start want capacity packets) where
  total := rfl
  counted := rfl
  bound := Nat.zero_le _
  cursor := .inl rfl
  sent := rfl
  abandoned := rfl
  takenBack := ⟨List.nodup_nil, List.nil_subset _⟩
  committed := rfl
  remaining _ := rfl
  index i p h := by rcases h with h | h <;> cases h
  exhausted h := by cases h
  want := rfl
  slot := rfl
  received := List.prefix_refl _
  buffered _ := rfl
  emptied h := by cases h

/-! ### The dispatcher goes on -/

/-- A dispatcher that ends keeps what was counted and put into the channel, and holds no slot. -/
theorem InStep.ended (hf : InStep want packets f) (held : List (Packet Job)) {s : Pipeline}
    (hdispatcher : s.dispatcher = f.state.dispatcher)
    (hcounters : s.counters = f.state.counters ∨
      s.counters = f.state.counters.exhaust ∧ f.counted.length = packets.length)
    (hbuffer : s.handoff.buffer = f.state.handoff.buffer)
    (hreceivers : s.handoff.receivers = f.state.handoff.receivers)
    (hreserved : s.handoff.reserved = 0)
    (hcommitting : f.state.dispatcher.point.committing? = none) :
    InStep want packets { f with state := s.endDispatcher held } where
  total := (congrArg Dispatcher.total hdispatcher).trans hf.total
  counted := hf.counted
  bound := hf.bound
  cursor := by rcases hcounters with heq | ⟨heq, -⟩ <;> exact heq ▸ hf.cursor
  sent := by rcases hcounters with heq | ⟨heq, -⟩ <;> exact heq ▸ hf.sent
  abandoned := by rcases hcounters with heq | ⟨heq, -⟩ <;> exact heq ▸ hf.abandoned
  takenBack := hf.takenBack
  committed := by
    have hcommitted := hf.committed
    rw [hcommitting] at hcommitted
    simpa [Pipeline.endDispatcher] using hcommitted
  remaining h := by simp [Pipeline.endDispatcher] at h
  index i p h := by
    have hover : ∀ point, (s.endDispatcher held).dispatcher.point = point → point.isOver = true :=
      fun point hpoint => hpoint ▸ DispatcherPoint.isOver_afterDropping _
    rcases h with h | h <;> cases hover _ h
  exhausted h := by
    refine ⟨?_, DispatcherPoint.isOver_afterDropping _⟩
    rcases hcounters with heq | ⟨-, hall⟩
    · exact (hf.exhausted (heq ▸ h)).1
    · exact hall
  want := by
    rcases hcounters with heq | ⟨heq, -⟩
    · exact heq ▸ hf.want
    · exact heq ▸ rfl
  slot := by simpa [Pipeline.endDispatcher] using hreserved
  received := hf.received
  buffered h := hbuffer ▸ hf.buffered (hreceivers ▸ h)
  emptied h := hbuffer ▸ hf.emptied (hreceivers ▸ h)

theorem InStep.index_of_loading (hf : InStep want packets f) {i : Nat}
    (hcursor : f.state.counters.cursor = .loading i) : i = f.counted.length := by
  rcases hf.cursor with hloading | hstopped
  · exact Cursor.loading.inj (hcursor.symm.trans hloading)
  · cases hcursor.symm.trans hstopped

/-- There is a packet for every index that the cursor gives out. -/
theorem InStep.supplied (hf : InStep want packets f) {i : Nat}
    (hpoint : f.state.dispatcher.point = .deciding)
    (hcursor : f.state.counters.cursor = .loading i) (htotal : i < f.state.dispatcher.total) :
    f.state.dispatcher.remaining ≠ [] := by
  intro hnone
  have hrest := hf.remaining (by rw [hpoint]; rfl)
  have hall : packets.drop f.counted.length = [] := by simpa [hpoint, hnone] using hrest.symm
  have hcount := hf.index_of_loading hcursor
  have hlength := List.drop_eq_nil_iff.mp hall
  rw [hf.total, hcount] at htotal
  omega

theorem InStep.drawn (hf : InStep want packets f) {i : Nat} {p : Packet Job}
    {rest : List (Packet Job)} (hpoint : f.state.dispatcher.point = .deciding)
    (hcursor : f.state.counters.cursor = .loading i)
    (hremaining : f.state.dispatcher.remaining = p :: rest) :
    InStep want packets { f with state := { f.state with
      dispatcher := { f.state.dispatcher with remaining := rest, point := .reserving i p } } } where
  total := hf.total
  counted := hf.counted
  bound := hf.bound
  cursor := hf.cursor
  sent := hf.sent
  abandoned := hf.abandoned
  takenBack := hf.takenBack
  committed := by simpa [hpoint] using hf.committed
  remaining _ := by
    have hrest := hf.remaining (by rw [hpoint]; rfl)
    rwa [hpoint, hremaining] at hrest
  index j q h := by
    rcases h with h | h <;> cases h
    exact hf.index_of_loading hcursor
  exhausted h := by
    have hover := (hf.exhausted h).2
    rw [hpoint] at hover
    cases hover
  want := hf.want
  slot := by simpa [hpoint] using hf.slot
  received := hf.received
  buffered := hf.buffered
  emptied := hf.emptied

theorem InStep.reserved (hf : InStep want packets f) {i : Nat} {p : Packet Job}
    (hpoint : f.state.dispatcher.point = .reserving i p) :
    InStep want packets { f with state :=
      { f.state with handoff := f.state.handoff.reserve }.setDispatcher (.counting i p) } where
  total := hf.total
  counted := hf.counted
  bound := hf.bound
  cursor := hf.cursor
  sent := hf.sent
  abandoned := hf.abandoned
  takenBack := hf.takenBack
  committed := by simpa [hpoint] using hf.committed
  remaining _ := by simpa [hpoint] using hf.remaining (by rw [hpoint]; rfl)
  index j q h := by
    have hindex := hf.index i p (.inl hpoint)
    rcases h with h | h <;> cases h
    exact hindex
  exhausted h := by
    have hover := (hf.exhausted h).2
    rw [hpoint] at hover
    cases hover
  want := hf.want
  slot := by simpa [hpoint] using hf.slot
  received := hf.received
  buffered := hf.buffered
  emptied := hf.emptied

theorem InStep.counts (hf : InStep want packets f) {i : Nat} {p : Packet Job}
    (hpoint : f.state.dispatcher.point = .counting i p) :
    InStep want packets { f with
      state := ({ f.state with counters := f.state.counters.countDispatch i }.measure
        .dispatched).setDispatcher (.committing p)
      counted := f.counted ++ [i] } := by
  obtain rfl := hf.index i p (.inr hpoint)
  have hrest := hf.remaining (by rw [hpoint]; rfl)
  rw [hpoint] at hrest
  have hnext : packets[f.counted.length]? = some p := by
    rw [← List.head?_drop, ← hrest]
    rfl
  have hlt : f.counted.length < packets.length := (List.getElem?_eq_some_iff.mp hnext).1
  refine ⟨hf.total, ?_, ?_, ?_, ?_, hf.abandoned, ?_, ?_, ?_, ?_, ?_, hf.want, ?_, hf.received,
    hf.buffered, hf.emptied⟩
  · rw [List.length_append, List.length_singleton, List.range_succ, ← hf.counted]
  · simpa using Nat.succ_le_of_lt hlt
  · left
    simp [Counters.countDispatch]
  · have hsent := hf.sent
    simp only [Counters.countDispatch, setDispatcher, Pipeline.measure, List.length_append,
      List.length_singleton]
    omega
  · exact ⟨hf.takenBack.1, List.Subset.trans hf.takenBack.2 (List.subset_append_left _ _)⟩
  · have hcommitted := hf.committed
    rw [hpoint] at hcommitted
    rw [List.length_append, List.length_singleton, List.take_add_one, hnext, ← hcommitted]
    simp
  · intro _
    have hdrop := congrArg List.tail hrest
    rw [List.tail_drop] at hdrop
    simpa using hdrop
  · intro j q h
    rcases h with h | h <;> cases h
  · intro h
    have hover := (hf.exhausted h).2
    rw [hpoint] at hover
    cases hover
  · simpa [hpoint] using hf.slot

theorem InStep.commits (hf : InStep want packets f) {p : Packet Job}
    (hpoint : f.state.dispatcher.point = .committing p) (lost : List (Packet Job)) :
    InStep want packets { f with
      state := ({ f.state with handoff := f.state.handoff.commit p }.strand lost).setDispatcher
        .deciding
      committed := f.committed ++ [p] } where
  total := hf.total
  counted := hf.counted
  bound := hf.bound
  cursor := hf.cursor
  sent := hf.sent
  abandoned := hf.abandoned
  takenBack := hf.takenBack
  committed := by simpa [hpoint] using hf.committed
  remaining _ := by simpa [hpoint] using hf.remaining (by rw [hpoint]; rfl)
  index j q h := by rcases h with h | h <;> cases h
  exhausted h := by
    have hover := (hf.exhausted h).2
    rw [hpoint] at hover
    cases hover
  want := hf.want
  slot := by
    have hslot := hf.slot
    rw [hpoint] at hslot
    simp [hslot]
  received := hf.received.trans (List.prefix_append _ _)
  buffered h := by
    have hopen : f.state.handoff.receivers ≠ 0 := by simpa using h
    have hbuffered := hf.buffered hopen
    simp [Channel.push_buffer, hopen, ← hbuffered]
  emptied h := by
    have hclosed : f.state.handoff.receivers = 0 := by simpa using h
    simp [Channel.push_buffer, hclosed, hf.emptied hclosed]

theorem InStep.dispatcher (hf : InStep want packets f) (h : f.move .dispatcher = some g) :
    InStep want packets g := by
  obtain ⟨t, ht, rfl⟩ := Option.map_eq_some_iff.mp h
  have hslot := hf.slot
  -- Most steps neither count nor fill a slot, so that only the state changes.
  have hquiet : f.state.countsNext? = none → f.state.dispatcher.point.committing? = none →
      InStep want packets { f with state := t } → InStep want packets { f with
        state := t
        counted := f.counted ++ f.state.countsNext?.toList
        committed := f.committed ++ f.state.dispatcher.point.committing?.toList } := by
    intro hcounting hcommitting hstate
    simpa only [hcounting, hcommitting, Option.toList_none, List.append_nil] using hstate
  cases dispatcherStep_of_step ht with
  | stopped hpoint =>
      rw [hpoint] at hslot
      exact hquiet (by simp [countsNext?, hpoint]) (by simp [hpoint])
        (hf.ended [] rfl (.inl rfl) rfl rfl hslot (by simp [hpoint]))
  | exhausted i hpoint hcursor htotal =>
      rw [hpoint] at hslot
      have hall : f.counted.length = packets.length := by
        have hcount : i = f.counted.length := hf.index_of_loading hcursor
        rw [hf.total, hcount] at htotal
        exact Nat.le_antisymm hf.bound htotal
      exact hquiet (by simp [countsNext?, hpoint]) (by simp [hpoint])
        (hf.ended [] rfl (.inr ⟨rfl, hall⟩) rfl rfl hslot (by simp [hpoint]))
  | unsupplied i hpoint hcursor htotal hremaining =>
      exact absurd hremaining (hf.supplied hpoint hcursor htotal)
  | drawn i p rest hpoint hcursor htotal hremaining =>
      exact hquiet (by simp [countsNext?, hpoint]) (by simp [hpoint])
        (hf.drawn hpoint hcursor hremaining)
  | shutdown i p hpoint | closed i p hpoint =>
      rw [hpoint] at hslot
      exact hquiet (by simp [countsNext?, hpoint]) (by simp [hpoint])
        (hf.ended [p] rfl (.inl rfl) rfl rfl hslot (by simp [hpoint]))
  | reserved i p hpoint =>
      exact hquiet (by simp [countsNext?, hpoint]) (by simp [hpoint]) (hf.reserved hpoint)
  | counted i p hpoint hcursor =>
      have hcounting : f.state.countsNext? = some i := by
        simp [countsNext?, hpoint, Counters.tryRecordDispatch, hcursor]
      rw [hcounting, hpoint, Option.toList_some, DispatcherPoint.committing?.eq_2 _ (by simp),
        Option.toList_none, List.append_nil]
      exact hf.counts hpoint
  | refused i p hpoint hcursor =>
      rw [hpoint] at hslot
      exact hquiet (by simp [countsNext?, hpoint, Counters.tryRecordDispatch, hcursor])
        (by simp [hpoint])
        (hf.ended [p] rfl (.inl rfl) rfl rfl (by simp [hslot]) (by simp [hpoint]))
  | committed p hpoint =>
      have hcounting : f.state.countsNext? = none := by simp [countsNext?, hpoint]
      rw [hcounting, hpoint, Option.toList_none, List.append_nil]
      exact hf.commits hpoint _

/-! ### Something is done from outside -/

/-- What a call that does not take part in the dispatching leaves alone. -/
structure CallFrame (s t : Pipeline) : Prop where
  dispatcher : t.dispatcher = s.dispatcher
  cursor : t.counters.cursor = s.counters.cursor ∨ t.counters.cursor = .stopped
  sent : t.counters.sent = s.counters.sent
  abandoned : t.counters.abandoned = s.counters.abandoned
  want : t.counters.want = s.counters.want
  supplyExhausted : t.counters.supplyExhausted = s.counters.supplyExhausted
  reserved : t.handoff.reserved = s.handoff.reserved

theorem callFrame_of_bystander {c : Call} (hc : c.dispatches = false) (s : Pipeline) :
    CallFrame s (s.call c).2 := by
  cases c with
  | next | record | abandon | send => cases hc
  | stop => exact ⟨rfl, .inr rfl, rfl, rfl, rfl, rfl, rfl⟩
  | takeHandoff => exact ⟨rfl, .inl rfl, rfl, rfl, rfl, rfl, (receipt_frame _ s.handoff).1⟩
  | received | snapshot | isShutdown | advance | release | arrive | takeOutbound =>
      exact ⟨rfl, .inl rfl, rfl, rfl, rfl, rfl, rfl⟩
  | shutdown | dropTransmitter | dropHandoffReceiver | closeHandoff | closeOutbound
  | dropOutboundReceiver =>
      unfold Pipeline.call
      dsimp only
      split <;> exact ⟨rfl, .inl rfl, rfl, rfl, rfl, rfl, rfl⟩

/-- A call receives the packet at the front of the channel, takes a receiver away, or leaves the channel
as it is. -/
theorem handoff_of_bystander {c : Call} (hc : c.dispatches = false) (s : Pipeline) :
    (s.call c).2.handoff.receivers = s.handoff.receivers ∧
        (s.receiving? c).toList ++ (s.call c).2.handoff.buffer = s.handoff.buffer ∨
      s.receiving? c = none ∧ (s.call c).2.handoff = s.handoff.dropReceiver := by
  cases c with
  | next | record | abandon | send => cases hc
  | takeHandoff =>
      obtain ⟨-, hreceivers, hbuffer⟩ := receipt_frame s.holdings.handoffReceiver s.handoff
      refine .inl ⟨hreceivers, Eq.trans ?_ hbuffer⟩
      simp only [receiving?, Pipeline.call]
      cases s.holdings.handoffReceiver <;> rfl
  | dropHandoffReceiver =>
      unfold Pipeline.call
      dsimp only
      split
      · exact .inr ⟨rfl, rfl⟩
      · exact .inl ⟨rfl, rfl⟩
  | received | snapshot | isShutdown | advance | release | arrive | takeOutbound | stop =>
      exact .inl ⟨rfl, rfl⟩
  | shutdown | dropTransmitter | closeHandoff | closeOutbound | dropOutboundReceiver =>
      unfold Pipeline.call
      dsimp only
      split <;> exact .inl ⟨rfl, rfl⟩

theorem InStep.call (hf : InStep want packets f) {c : Call} (h : f.move (.call c) = some g) :
    InStep want packets g := by
  simp only [move] at h
  split at h
  · cases h
  rename_i hc
  cases h
  have hframe := callFrame_of_bystander (eq_false_of_ne_true hc) f.state
  have hhandoff := handoff_of_bystander (eq_false_of_ne_true hc) f.state
  have hpoint := congrArg Dispatcher.point hframe.dispatcher
  refine ⟨?_, hf.counted, hf.bound, ?_, ?_, ?_, hf.takenBack, ?_, ?_, ?_, ?_, ?_, ?_, ?_, ?_, ?_⟩
  · rw [hframe.dispatcher, hf.total]
  · rcases hframe.cursor with heq | hstopped
    · exact heq ▸ hf.cursor
    · exact .inr hstopped
  · rw [hframe.sent, hf.sent]
  · rw [hframe.abandoned, hf.abandoned]
  · rw [hpoint, hf.committed]
  · rw [hframe.dispatcher]
    exact hf.remaining
  · rw [hpoint]
    exact hf.index
  · rw [hframe.supplyExhausted, hpoint]
    exact hf.exhausted
  · rw [hframe.want, hframe.supplyExhausted, hf.want]
  · rw [hframe.reserved, hpoint, hf.slot]
  · rcases hhandoff with ⟨-, hbuffer⟩ | ⟨hnone, -⟩
    · by_cases hclosed : f.state.handoff.receivers = 0
      · rw [hf.emptied hclosed] at hbuffer
        rw [(List.append_eq_nil_iff.mp hbuffer).1, List.append_nil]
        exact hf.received
      · rw [← hf.buffered hclosed, ← hbuffer, ← List.append_assoc]
        exact List.prefix_append _ _
    · rw [hnone, Option.toList_none, List.append_nil]
      exact hf.received
  · intro hopen
    rcases hhandoff with ⟨hreceivers, hbuffer⟩ | ⟨hnone, hdropped⟩
    · rw [hreceivers] at hopen
      rw [List.append_assoc, hbuffer, hf.buffered hopen]
    · rw [hdropped] at hopen ⊢
      have hothers : ¬ f.state.handoff.receivers ≤ 1 := by
        simp only [Channel.dropReceiver] at hopen
        omega
      rw [hnone, Option.toList_none, List.append_nil]
      simpa [hothers] using hf.buffered (by omega)
  · intro hclosed
    rcases hhandoff with ⟨hreceivers, hbuffer⟩ | ⟨hnone, hdropped⟩
    · rw [hf.emptied (hreceivers ▸ hclosed)] at hbuffer
      exact (List.append_eq_nil_iff.mp hbuffer).2
    · rw [hdropped] at hclosed ⊢
      have hlast : f.state.handoff.receivers ≤ 1 := by
        simp only [Channel.dropReceiver] at hclosed
        omega
      simp [hlast]

/-- A dispatch can be taken back only after it was counted, so the count never goes below zero. -/
theorem InStep.takesBack (hf : InStep want packets f) {task : Nat}
    (h : f.move (.takeBack task) = some g) : InStep want packets g := by
  simp only [move] at h
  split at h
  case isFalse => cases h
  case isTrue htask =>
    cases h
    have hnodup : (f.takenBack ++ [task]).Nodup := by
      exact (List.perm_append_singleton task f.takenBack).nodup_iff.mpr
        (List.nodup_cons.mpr ⟨htask.2, hf.takenBack.1⟩)
    have hsubset : f.takenBack ++ [task] ⊆ f.counted := by
      simpa using ⟨hf.takenBack.2, htask.1⟩
    have hlength := (hnodup.subperm hsubset).length_le
    have hsent := hf.sent
    rw [List.length_append, List.length_singleton] at hlength
    refine ⟨hf.total, hf.counted, hf.bound, hf.cursor, ?_, ?_, ⟨hnodup, hsubset⟩, hf.committed,
      hf.remaining, hf.index, hf.exhausted, hf.want, hf.slot, hf.received, hf.buffered, hf.emptied⟩
    · simp only [Pipeline.call, Counters.recordAbandoned, List.length_append, List.length_singleton]
      omega
    · simp [Pipeline.call, Counters.recordAbandoned, hf.abandoned]

theorem inStep_of_move {m : FeedMove} (hf : InStep want packets f) (h : f.move m = some g) :
    InStep want packets g := by
  cases m with
  | dispatcher => exact hf.dispatcher h
  | call c => exact hf.call h
  | takeBack task => exact hf.takesBack h

theorem inStep_of_follow {moves : List FeedMove}
    (h : (start want capacity packets).follow moves = some f) : InStep want packets f :=
  follow_preserves (P := InStep want packets) (fun _ _ _ => inStep_of_move)
    (inStep_start want capacity packets) h

/-! ### The dispatcher in lockstep -/

theorem InStep.task_of_committed (hf : InStep want packets f)
    (hnumbered : packets.map Packet.task = List.range packets.length) {i : Nat} {p : Packet Job}
    (hp : f.committed[i]? = some p) : p.task = i := by
  have hprefix : f.committed <+: packets :=
    (List.prefix_append _ _).trans (hf.committed ▸ List.take_prefix _ _)
  obtain ⟨later, rfl⟩ := hprefix
  have hpacket : (f.committed ++ later)[i]? = some p := by
    rw [List.getElem?_append_left (List.getElem?_eq_some_iff.mp hp).1, hp]
  have htask : ((f.committed ++ later).map Packet.task)[i]? = some p.task := by
    rw [List.getElem?_map, hpacket]
    rfl
  rw [hnumbered] at htask
  simpa using (List.getElem?_eq_some_iff.mp htask).2.symm

/-- A dispatcher whose count is refused gives its slot back and ends; nothing else changes. -/
theorem InStep.refused (hf : InStep want packets f) {i : Nat} {p : Packet Job}
    (hpoint : f.state.dispatcher.point = .counting i p)
    (hrefused : f.state.counters.tryRecordDispatch i = none) :
    ∃ g, f.move .dispatcher = some g ∧ g.state.dispatcher.point.isOver = true ∧
      g.counted = f.counted ∧ g.committed = f.committed ∧ g.state.counters = f.state.counters ∧
      g.state.handoff.buffer = f.state.handoff.buffer ∧
      f.state.handoff.reserved = 1 ∧ g.state.handoff.reserved = 0 := by
  have hslot : f.state.handoff.reserved = 1 := by simpa [hpoint] using hf.slot
  have hmove : f.move .dispatcher = some { f with state := ({ f.state with
      handoff := f.state.handoff.release }.record .loadingStopped).endDispatcher [p] } := by
    simp [move, stepDispatcher, countsNext?, hpoint, hrefused]
  refine ⟨_, hmove, DispatcherPoint.isOver_afterDropping _, rfl, rfl, rfl, rfl, hslot, ?_⟩
  simp [endDispatcher, hslot]

/-- Packets, counters and channel stay in lockstep, whatever is done from outside between the steps of
the dispatcher. The dispatches that were counted have the indices from zero on; what was put into the
channel, with the packet that is on its way into its slot, is as many packets from the front as were
counted; and what was received is the front of that. A count that is refused hands nothing off, and the
packets do not run out before the indices. -/
theorem dispatcher_in_lockstep {moves : List FeedMove}
    (hnumbered : packets.map Packet.task = List.range packets.length)
    (h : (start want capacity packets).follow moves = some f) :
    f.counted = List.range f.counted.length ∧
    f.state.counters.dispatched = f.counted.length ∧
    f.committed ++ f.state.dispatcher.point.committing?.toList =
      packets.take f.counted.length ∧
    (∀ (i : Nat) (p : Packet Job), f.committed[i]? = some p → p.task = i) ∧
    f.received <+: f.committed ∧
    (f.state.handoff.receivers ≠ 0 → f.received ++ f.state.handoff.buffer = f.committed) ∧
    (f.state.counters.cursor = .loading f.counted.length ∨ f.state.counters.cursor = .stopped) ∧
    (∀ i p, f.state.dispatcher.point = .counting i p →
      f.state.counters.tryRecordDispatch i = none →
      ∃ g, f.move .dispatcher = some g ∧ g.state.dispatcher.point.isOver = true ∧
        g.counted = f.counted ∧ g.committed = f.committed ∧ g.state.counters = f.state.counters ∧
        g.state.handoff.buffer = f.state.handoff.buffer ∧
        f.state.handoff.reserved = 1 ∧ g.state.handoff.reserved = 0) ∧
    (∀ i counters, f.state.dispatcher.point = .deciding →
      f.state.counters.nextDispatch f.state.dispatcher.total = (.dispatch i, counters) →
      f.state.dispatcher.remaining ≠ []) ∧
    (f.state.counters.supplyExhausted = true → f.counted.length = packets.length) ∧
    f.state.counters.want = if f.state.counters.supplyExhausted then 0 else want := by
  have hf := inStep_of_follow h
  have hdispatched : f.state.counters.dispatched = f.counted.length := by
    rw [Counters.dispatched, hf.abandoned, hf.sent]
  refine ⟨hf.counted, hdispatched, hf.committed, fun i p => hf.task_of_committed hnumbered,
    hf.received, hf.buffered, hf.cursor, fun i p => hf.refused, ?_, fun h => (hf.exhausted h).1,
    hf.want⟩
  intro i counters hpoint hdecision
  obtain ⟨hcursor, htotal⟩ := Counters.nextDispatch_dispatch hdecision
  exact hf.supplied hpoint hcursor htotal

/-- The first packet was received and its dispatch taken back; the loading was stopped while the
dispatcher held the slot for the second one. -/
theorem dispatcher_in_lockstep_of_three : ∃ f i p,
    (start 2 1 (Packet.enumerate (List.replicate 3 ⟨.instant, 0⟩))).follow
      (List.replicate 5 .dispatcher ++ [.call .takeHandoff, .dispatcher, .takeBack 0, .call .stop]) =
        some f ∧
    f.counted = [0] ∧ f.received.length = 1 ∧ f.state.counters.dispatched = 1 ∧
    f.state.dispatcher.point = .counting i p ∧ f.state.counters.tryRecordDispatch i = none ∧
    ∃ g, f.move .dispatcher = some g ∧ g.committed = f.committed ∧
      g.state.counters = f.state.counters ∧ g.state.handoff.reserved = 0 := by
  have hrun : ∃ f i p, (start 2 1 (Packet.enumerate (List.replicate 3 ⟨.instant, 0⟩))).follow
      (List.replicate 5 .dispatcher ++ [.call .takeHandoff, .dispatcher, .takeBack 0, .call .stop]) =
        some f ∧ f.counted = [0] ∧ f.received.length = 1 ∧
      f.state.dispatcher.point = .counting i p ∧ f.state.counters.tryRecordDispatch i = none :=
    ⟨_, _, _, rfl, rfl, rfl, rfl, rfl⟩
  obtain ⟨f, i, p, hfollow, hcounted, hreceived, hpoint, hrefused⟩ := hrun
  obtain ⟨-, hdispatched, -, -, -, -, -, hrefusal, -⟩ := dispatcher_in_lockstep rfl hfollow
  obtain ⟨g, hmove, -, -, hcommitted, hcounters, -, -, hslot⟩ := hrefusal i p hpoint hrefused
  rw [hcounted] at hdispatched
  exact ⟨f, i, p, hfollow, hcounted, hreceived, hdispatched, hpoint, hrefused, g, hmove, hcommitted,
    hcounters, hslot⟩

end Feed

end Fanout
