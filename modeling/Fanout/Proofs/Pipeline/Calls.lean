import Fanout.Pipeline.Session
import Fanout.Proofs.Pipeline.Supply

/-!
Calls from outside. Nobody outside reaches into a stage: a call works on the counters, on the signal and
on the ends of the channels that the outside holds, and leaves everything else as it was
(`stagesFrame_of_call`, `plan_of_call`).
-/

namespace Fanout

/-- What is sent goes to the end of the buffer, and what is not sent changes nothing. -/
theorem Channel.trySend_cases {α : Type} (c : Channel α) (held : Bool) (x : α) :
    ((c.trySend held x).1 = .sent ∧ held = true ∧ c.receivers ≠ 0 ∧
        (c.trySend held x).2 = { c with buffer := c.buffer ++ [x] }) ∨
      ((c.trySend held x).1 ≠ .sent ∧ (c.trySend held x).2 = c) := by
  cases held with
  | false => exact .inr ⟨nofun, rfl⟩
  | true =>
      simp only [trySend, Bool.not_true, Bool.false_eq_true, ↓reduceIte]
      split
      next => exact .inr ⟨nofun, rfl⟩
      next hreceivers =>
        split
        next => exact .inl ⟨rfl, trivial, hreceivers, by rw [push, if_neg hreceivers]⟩
        next => exact .inr ⟨nofun, rfl⟩

namespace Pipeline

theorem receipt_frame (held : Bool) (c : Channel (Packet Job)) :
    (Receipt.ofChannel held c).2.reserved = c.reserved ∧
      (Receipt.ofChannel held c).2.receivers = c.receivers ∧
      (if held then c.buffer.head?.toList else []) ++ (Receipt.ofChannel held c).2.buffer =
        c.buffer := by
  cases held with
  | false => exact ⟨rfl, rfl, rfl⟩
  | true =>
      cases htake : c.take? with
      | none => simp [Receipt.ofChannel, htake, Channel.take?_eq_none htake]
      | some taken =>
          obtain ⟨p, rest⟩ := taken
          obtain ⟨hbuffer, hrest⟩ := Channel.take?_eq_some htake
          rw [hrest] at htake
          simp [Receipt.ofChannel, htake, hbuffer]

/-- What no call changes: the stages and what they have begun. The clock does not run back. -/
structure StagesFrame (s t : Pipeline) : Prop where
  now : s.now ≤ t.now
  dispatcher : t.dispatcher = s.dispatcher
  workers : t.workers = s.workers
  collector : t.collector = s.collector
  supervisor : t.supervisor = s.supervisor
  exits : t.exits = s.exits
  executions : t.executions = s.executions
  nextTicket : t.nextTicket = s.nextTicket
  invoked : t.invoked = s.invoked
  taskTimeoutMs : t.taskTimeoutMs = s.taskTimeoutMs
  aborted : t.aborted = s.aborted

theorem stagesFrame_of_call (s : Pipeline) (c : Call) : StagesFrame s (s.call c).2 := by
  cases c with
  | record i =>
      simp only [call]
      split <;> exact ⟨Nat.le_refl _, rfl, rfl, rfl, rfl, rfl, rfl, rfl, rfl, rfl, rfl⟩
  | advance ms => exact ⟨Nat.le_add_right _ _, rfl, rfl, rfl, rfl, rfl, rfl, rfl, rfl, rfl, rfl⟩
  | shutdown | dropTransmitter | dropHandoffReceiver | closeHandoff | closeOutbound
  | dropOutboundReceiver =>
      unfold call
      dsimp only
      split <;> exact ⟨Nat.le_refl _, rfl, rfl, rfl, rfl, rfl, rfl, rfl, rfl, rfl, rfl⟩
  | _ => exact ⟨Nat.le_refl _, rfl, rfl, rfl, rfl, rfl, rfl, rfl, rfl, rfl, rfl⟩

/-- Calls change nothing of what a system was set up with. -/
theorem plan_of_call (s : Pipeline) (c : Call) : (s.call c).2.plan = s.plan := by
  have hsend : ∀ held (p : Packet Job) (c : Channel (Packet Job)),
      (c.trySend held p).2.capacity = c.capacity := by
    intro held p c
    rcases c.trySend_cases held p with ⟨-, -, -, hsent⟩ | ⟨-, hsame⟩
    · rw [hsent]
    · rw [hsame]
  have htake : ∀ held (c : Channel (Packet Job)),
      (Receipt.ofChannel held c).2.capacity = c.capacity := by
    intro held c
    unfold Receipt.ofChannel Channel.take?
    cases held <;> cases c.buffer <;> rfl
  cases c with
  | record i =>
      simp only [call]
      split <;> rfl
  | send counted task work => simp [call, plan, hsend]
  | arrive task => simp [call, plan, hsend]
  | takeHandoff | takeOutbound => simp [call, plan, htake]
  | shutdown | dropTransmitter | dropHandoffReceiver | closeHandoff | closeOutbound
  | dropOutboundReceiver =>
      unfold call
      dsimp only
      split <;> rfl
  | _ => rfl

/-- No call opens the signal again. -/
theorem isShutdown_of_call {s : Pipeline} (c : Call) (h : s.signal.isShutdown = true) :
    (s.call c).2.signal.isShutdown = true := by
  cases c with
  | record i =>
      simp only [call]
      split <;> exact h
  | shutdown | dropTransmitter | dropHandoffReceiver | closeHandoff | closeOutbound
  | dropOutboundReceiver =>
      unfold call
      dsimp only
      split <;> first | exact h | exact isShutdown_shutdown _ | exact isShutdown_dropTransmitter h
  | _ => exact h

/-- The outside gives back at most the transmitter that it holds. -/
theorem transmitters_of_call {s : Pipeline} {c : Call} {others : Nat}
    (h : s.signal.transmitters = others + s.holdings.transmitter.toNat) :
    (s.call c).2.signal.transmitters = others + (s.call c).2.holdings.transmitter.toNat := by
  cases c with
  | record i =>
      simp only [call]
      split <;> exact h
  | dropTransmitter =>
      unfold call
      dsimp only
      split
      next hheld => simp [Signal.dropTransmitter, h, hheld]
      next => exact h
  | shutdown | dropHandoffReceiver | closeHandoff | closeOutbound | dropOutboundReceiver =>
      unfold call
      dsimp only
      split <;> exact h
  | _ => exact h

end Pipeline

end Fanout
