import Mathlib.Tactic.SplitIfs
import Fanout.Signal

/-!
The shutdown signal over all its handles. Whatever is done with the handles, and whenever the waiting
tasks run, the signal closes once and stays closed, all handles say so from then on, and a waiting task
that had its turn has resolved exactly if a receiver says that the signal is closed
(`Broadcast.closes_once_for_all`).
-/

namespace Fanout

/-- What a waiting task relies on. One that sleeps has seen the value as it is, so that it is notified of
the next change; one that was notified has to find another version if the value is `true`. -/
def Waiter.Agrees (v : Watched) : Waiter → Prop
  | .started => True
  | .asleep seen => seen = v.version ∧ v.value = false ∧ v.hasEnded = false
  | .notified seen => seen ≤ v.version ∧ (seen = v.version → v.value = false)
  | .resolved => v.value = true ∨ v.hasEnded = true

namespace Waiter

variable {v : Watched} {w : Waiter}

theorem agrees_look (v : Watched) : (look v).Agrees v := by
  unfold look
  split_ifs with hvalue hended
  · exact .inl hvalue
  · exact .inr hended
  · exact ⟨rfl, by simpa using hvalue, by simpa using hended⟩

theorem poll_notified (v : Watched) (seen : Nat) :
    poll v (.notified seen) =
      if v.version = seen then if v.hasEnded then .resolved else .asleep seen else look v :=
  rfl

theorem agrees_poll (h : w.Agrees v) : (w.poll v).Agrees v := by
  cases w with
  | started => exact agrees_look v
  | asleep seen => exact h
  | notified seen =>
    rw [poll_notified]
    split_ifs with hseen hended
    · exact .inr hended
    · exact ⟨hseen.symm, h.2 hseen.symm, by simpa using hended⟩
    · exact agrees_look v
  | resolved => exact h

theorem isRunnable_look (v : Watched) : (look v).isRunnable = false := by
  unfold look
  split_ifs <;> rfl

theorem isRunnable_poll (v : Watched) (w : Waiter) : (w.poll v).isRunnable = false := by
  cases w with
  | started => exact isRunnable_look v
  | notified seen =>
    rw [poll_notified]
    split_ifs
    · rfl
    · rfl
    · exact isRunnable_look v
  | _ => rfl

/-- A task that had its turn has resolved exactly if there is nothing to wait for. -/
theorem Agrees.isResolved (h : w.Agrees v) (hturn : w.isRunnable = false) :
    w.isResolved = (v.value || v.hasEnded) := by
  cases w with
  | started => cases hturn
  | asleep seen =>
    obtain ⟨-, hvalue, hended⟩ := h
    rw [hvalue, hended]
    rfl
  | notified seen => cases hturn
  | resolved => simpa [Waiter.isResolved, Agrees] using h

/-- All tasks are notified when the value becomes `true`. -/
theorem agrees_notify_of_change (h : w.Agrees v) :
    w.notify.Agrees { v with value := true, version := v.version + 1 } := by
  cases w with
  | started => trivial
  | asleep seen =>
    obtain ⟨rfl, -, -⟩ := h
    exact ⟨Nat.le_succ _, fun hsame => absurd hsame (Nat.ne_of_lt (Nat.lt_succ_self _))⟩
  | notified seen =>
    exact ⟨Nat.le_succ_of_le h.1, fun hsame => absurd hsame (Nat.ne_of_lt (Nat.lt_succ_of_le h.1))⟩
  | resolved => exact .inl rfl

/-- All tasks are notified when the value ends. -/
theorem agrees_notify_of_end (h : w.Agrees v) : w.notify.Agrees { v with hasEnded := true } := by
  cases w with
  | started => trivial
  | asleep seen =>
    obtain ⟨rfl, hvalue, -⟩ := h
    exact ⟨Nat.le_refl _, fun _ => hvalue⟩
  | notified seen => exact h
  | resolved => exact .inr rfl

end Waiter

namespace Broadcast

/-- What can happen to a signal: someone uses a handle, or a waiting task runs. -/
inductive Move
  | operate (o : Operation)
  | poll (waiter : Nat)
  deriving DecidableEq, Repr

def act (b : Broadcast) : Move → Answer × Broadcast
  | .operate o => b.apply o
  | .poll i => (.done, b.poll i)

/-- Makes moves one after the other. -/
def follow (b : Broadcast) (moves : List Move) : Broadcast :=
  moves.foldl (fun b m => (b.act m).2) b

/-- What the calls that ask to close the signal are answered, in their order. -/
def replies : List Move → Broadcast → List Bool
  | [], _ => []
  | m :: rest, b =>
    match (b.act m).1 with
    | .changed first => first :: replies rest (b.act m).2
    | _ => replies rest (b.act m).2

/-- Some call among the moves asks to close the signal. Only a transmitter that is alive can be asked. -/
def IsAsked : List Move → Broadcast → Prop
  | [], _ => False
  | m :: rest, b =>
    (∃ t, m = .operate (.shutdown t) ∧ isAlive b.transmitters t = true) ∨ IsAsked rest (b.act m).2

/-- No waiting task has still to run. -/
def IsSettled (b : Broadcast) : Prop :=
  ∀ w ∈ b.waiters, w.isRunnable = false

instance (b : Broadcast) : Decidable b.IsSettled :=
  inferInstanceAs (Decidable (∀ w ∈ b.waiters, w.isRunnable = false))

/-- No transmitter is left. -/
def IsDeserted (b : Broadcast) : Prop :=
  ∀ t, isAlive b.transmitters t = false

variable {b : Broadcast} {m : Move}

theorem follow_append (b : Broadcast) (first second : List Move) :
    b.follow (first ++ second) = (b.follow first).follow second :=
  List.foldl_append

theorem isDeserted_iff : b.IsDeserted ↔ b.transmitters.contains true = false := by
  simp [IsDeserted, isAlive, List.mem_iff_getElem?]

theorem not_isDeserted_of_isAlive {t : Nat} (h : isAlive b.transmitters t = true) : ¬ b.IsDeserted :=
  fun hdeserted => absurd (hdeserted t) (by simp [h])

/-! ### What a move does -/

/-- What a move is answered, and what comes of it. -/
inductive Outcome (b : Broadcast) : Answer → Broadcast → Prop
  | closes {t : Nat} (ht : isAlive b.transmitters t = true) :
    Outcome b (.changed b.shutdown.1) b.shutdown.2
  | addsTransmitter {t : Nat} (ht : isAlive b.transmitters t = true) :
    Outcome b (.handle b.transmitters.length) { b with transmitters := b.transmitters ++ [true] }
  | dropsTransmitter {t : Nat} (ht : isAlive b.transmitters t = true) :
    Outcome b .done (b.dropTransmitter t)
  | waits : Outcome b (.handle b.waiters.length) { b with waiters := b.waiters ++ [.started] }
  | polls (i : Nat) : Outcome b .done (b.poll i)
  | changesReceivers {answer : Answer} (receivers : List Bool)
    (hanswer : ∀ first, answer ≠ .changed first) : Outcome b answer { b with receivers }

theorem outcome_of_apply (b : Broadcast) (o : Operation) : Outcome b (b.apply o).1 (b.apply o).2 := by
  cases o with
  | state => exact .changesReceivers b.receivers (by simp [apply])
  | shutdown t =>
    simp only [apply]
    split_ifs with ht
    · exact .closes ht
    · exact .changesReceivers b.receivers (by simp)
  | cloneTransmitter t =>
    simp only [apply]
    split_ifs with ht
    · exact .addsTransmitter ht
    · exact .changesReceivers b.receivers (by simp)
  | dropTransmitter t =>
    simp only [apply]
    split_ifs with ht
    · exact .dropsTransmitter ht
    · exact .changesReceivers b.receivers (by simp)
  | wait r =>
    simp only [apply]
    split_ifs
    · exact .waits
    · exact .changesReceivers b.receivers (by simp)
  | _ =>
    simp only [apply]
    split_ifs <;> exact .changesReceivers _ (by simp)

theorem outcome_of_act (b : Broadcast) (m : Move) : Outcome b (b.act m).1 (b.act m).2 := by
  cases m with
  | operate o => exact outcome_of_apply b o
  | poll i => exact .polls i

section Outcome

variable {answer : Answer} {next : Broadcast}

/-- A call that asks to close the signal is told whether it was still open. -/
theorem Outcome.first {first : Bool} (h : Outcome b (.changed first) next) :
    first = !b.watched.value := by
  generalize hanswer : Answer.changed first = answer at h
  cases h with
  | closes ht =>
    cases hanswer
    unfold shutdown
    split_ifs with hvalue <;> simp [hvalue]
  | changesReceivers receivers hother => exact absurd hanswer.symm (hother first)
  | _ => cases hanswer

/-- The value is `true` from the first such call on. -/
theorem Outcome.value (h : Outcome b answer next) :
    next.watched.value = true ↔ b.watched.value = true ∨ ∃ first, answer = .changed first := by
  cases h with
  | closes ht =>
    have hclosed : b.shutdown.2.watched.value = true := by
      unfold shutdown
      split_ifs with hvalue
      · exact hvalue
      · rfl
    simp [hclosed]
  | dropsTransmitter ht =>
    have hsame : ∀ t, (b.dropTransmitter t).watched.value = b.watched.value := by
      intro t
      unfold dropTransmitter
      dsimp only
      split_ifs <;> rfl
    simp [hsame]
  | changesReceivers receivers hother => simp [hother]
  | _ => simp [poll]

theorem Outcome.hasEnded (h : Outcome b answer next) (hended : b.watched.hasEnded = true) :
    next.watched.hasEnded = true := by
  cases h with
  | closes ht =>
    unfold shutdown
    split_ifs <;> exact hended
  | dropsTransmitter ht =>
    unfold dropTransmitter
    dsimp only
    split_ifs
    · exact hended
    · rfl
  | _ => exact hended

/-- No waiting task is forgotten. -/
theorem Outcome.length_waiters_le (h : Outcome b answer next) :
    b.waiters.length ≤ next.waiters.length := by
  cases h with
  | closes ht =>
    unfold shutdown
    split_ifs <;> simp [notifyAll]
  | dropsTransmitter ht =>
    unfold dropTransmitter
    dsimp only
    split_ifs <;> simp [notifyAll]
  | _ => simp [poll]

end Outcome

/-! ### What a move preserves -/

/-- The value has ended exactly if no transmitter is left, and the waiting tasks can rely on it. -/
structure Coherent (b : Broadcast) : Prop where
  ended : b.watched.hasEnded = true ↔ b.IsDeserted
  waiters : ∀ w ∈ b.waiters, w.Agrees b.watched

theorem coherent_start : Coherent {} where
  ended := by simp [isDeserted_iff]
  waiters := List.forall_mem_nil _

/-- As long as there is a transmitter the value goes on. -/
theorem Coherent.goes_on (h : b.Coherent) {t : Nat} (ht : isAlive b.transmitters t = true) :
    b.watched.hasEnded = false :=
  Bool.eq_false_iff.mpr fun hended => not_isDeserted_of_isAlive ht (h.ended.mp hended)

theorem Coherent.shutdown (h : b.Coherent) : b.shutdown.2.Coherent := by
  unfold Broadcast.shutdown
  split_ifs
  · exact h
  · refine ⟨h.ended, fun w hw => ?_⟩
    obtain ⟨u, hu, rfl⟩ := List.mem_map.mp hw
    exact Waiter.agrees_notify_of_change (h.waiters u hu)

theorem Coherent.dropTransmitter (h : b.Coherent) {t : Nat} (ht : isAlive b.transmitters t = true) :
    (b.dropTransmitter t).Coherent := by
  unfold Broadcast.dropTransmitter
  dsimp only
  split_ifs with hleft
  · refine ⟨?_, h.waiters⟩
    rw [isDeserted_iff]
    simp only [h.goes_on ht, hleft, Bool.false_eq_true, Bool.true_eq_false]
  · refine ⟨?_, fun w hw => ?_⟩
    · rw [isDeserted_iff]
      simpa [notifyAll] using hleft
    · obtain ⟨u, hu, rfl⟩ := List.mem_map.mp hw
      exact Waiter.agrees_notify_of_end (h.waiters u hu)

theorem mem_modify {α : Type} {f : α → α} {l : List α} {i : Nat} {x : α} (h : x ∈ l.modify i f) :
    x ∈ l ∨ ∃ y ∈ l, x = f y := by
  obtain ⟨j, hj⟩ := List.mem_iff_getElem?.mp h
  rw [List.getElem?_modify] at hj
  obtain ⟨y, hy, rfl⟩ := Option.map_eq_some_iff.mp hj
  have hmem : y ∈ l := List.mem_of_getElem? hy
  by_cases hsame : i = j
  · exact .inr ⟨y, hmem, if_pos hsame⟩
  · exact .inl (by rw [if_neg hsame]; exact hmem)

theorem Coherent.outcome (h : b.Coherent) {answer : Answer} {next : Broadcast}
    (hnext : Outcome b answer next) : next.Coherent := by
  cases hnext with
  | closes ht => exact h.shutdown
  | addsTransmitter ht =>
    refine ⟨?_, h.waiters⟩
    rw [isDeserted_iff]
    simp [h.goes_on ht]
  | dropsTransmitter ht => exact h.dropTransmitter ht
  | waits =>
    refine ⟨h.ended, fun w hw => ?_⟩
    rcases List.mem_append.mp hw with hw | hw
    · exact h.waiters w hw
    · rw [List.mem_singleton.mp hw]
      trivial
  | polls i =>
    refine ⟨h.ended, fun w hw => ?_⟩
    rcases mem_modify hw with hw | ⟨u, hu, rfl⟩
    · exact h.waiters w hw
    · exact Waiter.agrees_poll (h.waiters u hu)
  | changesReceivers receivers hother => exact ⟨h.ended, h.waiters⟩

/-- The signal as a stage sees it says what a receiver says. -/
theorem Coherent.isShutdown_signal (h : b.Coherent) : b.signal.isShutdown = b.isShutdown := by
  have hcount : b.transmitters.count true = 0 ↔ b.watched.hasEnded = true := by
    rw [h.ended, isDeserted_iff, List.count_eq_zero]
    simp
  rw [Signal.isShutdown, signal, isShutdown]
  congr 1
  rw [Bool.eq_iff_iff, decide_eq_true_eq, hcount]

/-! ### What a run preserves -/

theorem coherent_follow (h : b.Coherent) (moves : List Move) : (b.follow moves).Coherent := by
  induction moves generalizing b with
  | nil => exact h
  | cons m rest ih => exact ih (h.outcome (outcome_of_act b m))

theorem length_waiters_le_follow (b : Broadcast) (moves : List Move) :
    b.waiters.length ≤ (b.follow moves).waiters.length := by
  induction moves generalizing b with
  | nil => exact Nat.le_refl _
  | cons m rest ih => exact Nat.le_trans (outcome_of_act b m).length_waiters_le (ih _)

theorem isShutdown_follow (h : b.isShutdown = true) (moves : List Move) :
    (b.follow moves).isShutdown = true := by
  induction moves generalizing b with
  | nil => exact h
  | cons m rest ih =>
    have hmove := outcome_of_act b m
    refine ih ?_
    rw [isShutdown, Bool.or_eq_true] at h ⊢
    exact h.imp (fun hvalue => hmove.value.mpr (.inl hvalue)) hmove.hasEnded

theorem replies_cons (m : Move) (rest : List Move) (b : Broadcast) :
    (∃ first, (b.act m).1 = .changed first ∧ replies (m :: rest) b = first :: replies rest (b.act m).2) ∨
      (∀ first, (b.act m).1 ≠ .changed first) ∧ replies (m :: rest) b = replies rest (b.act m).2 := by
  rw [replies]
  split
  next first hanswer => exact .inl ⟨first, hanswer, rfl⟩
  next hother => exact .inr ⟨fun first hanswer => hother first hanswer, rfl⟩

/-- The value is `true` as soon as someone asked to close the signal. -/
theorem value_follow (b : Broadcast) (moves : List Move) :
    (b.follow moves).watched.value = true ↔ b.watched.value = true ∨ replies moves b ≠ [] := by
  induction moves generalizing b with
  | nil => simp [follow, replies]
  | cons m rest ih =>
    have hmove := (outcome_of_act b m).value
    change ((b.act m).2.follow rest).watched.value = true ↔ _
    rw [ih, hmove]
    rcases replies_cons m rest b with ⟨first, hanswer, hreplies⟩ | ⟨hother, hreplies⟩
    · simp [hreplies, hanswer]
    · simp [hreplies, hother]

/-- Only the first call finds the signal not yet closed by another call. -/
theorem reply_iff {moves : List Move} {i : Nat} {first : Bool}
    (h : (replies moves b)[i]? = some first) : first = true ↔ b.watched.value = false ∧ i = 0 := by
  induction moves generalizing b i with
  | nil => simp [replies] at h
  | cons m rest ih =>
    have hmove := outcome_of_act b m
    rcases replies_cons m rest b with ⟨answered, hanswer, hreplies⟩ | ⟨hother, hreplies⟩
    · rw [hanswer] at hmove
      rw [hreplies] at h
      cases i with
      | zero =>
        cases h
        simp [hmove.first]
      | succ i =>
        rw [ih h]
        simp [hmove.value.mpr (.inr ⟨answered, rfl⟩)]
    · rw [hreplies] at h
      have hsame : (b.act m).2.watched.value = b.watched.value := by
        rw [Bool.eq_iff_iff, hmove.value]
        simp [hother]
      rw [ih h, hsame]

/-- These calls are the only ones with such an answer. -/
theorem changed_iff (b : Broadcast) (m : Move) :
    (∃ first, (b.act m).1 = .changed first) ↔
      ∃ t, m = .operate (.shutdown t) ∧ isAlive b.transmitters t = true := by
  constructor
  · rintro ⟨first, h⟩
    cases m with
    | poll i => cases h
    | operate o =>
      cases o with
      | state => cases h
      | shutdown t =>
        simp only [act, apply] at h
        split_ifs at h with ht
        exact ⟨t, rfl, ht⟩
      | _ =>
        simp only [act, apply] at h
        split_ifs at h
  · rintro ⟨t, rfl, ht⟩
    exact ⟨b.shutdown.1, by simp [act, apply, ht]⟩

theorem replies_ne_nil_iff (moves : List Move) (b : Broadcast) :
    replies moves b ≠ [] ↔ IsAsked moves b := by
  induction moves generalizing b with
  | nil => simp [replies, IsAsked]
  | cons m rest ih =>
    rw [IsAsked, ← changed_iff, ← ih]
    rcases replies_cons m rest b with ⟨first, hanswer, hreplies⟩ | ⟨hother, hreplies⟩
    · simp [hreplies, hanswer]
    · simp [hreplies, hother]

/-! ### The turns of the waiting tasks -/

/-- Lets all waiting tasks run one after the other. -/
def turns (b : Broadcast) : List Move :=
  (List.range b.waiters.length).map .poll

theorem follow_polls (b : Broadcast) (n : Nat) :
    b.follow ((List.range n).map .poll) =
      { b with waiters := b.waiters.mapIdx fun i w => if i < n then w.poll b.watched else w } := by
  induction n with
  | zero => simp [follow, List.mapIdx_eq_zipIdx_map]
  | succ n ih =>
    rw [List.range_succ, List.map_append, follow_append, ih]
    simp only [follow, List.map_cons, List.map_nil, List.foldl_cons, List.foldl_nil, act, poll]
    congr 1
    refine List.ext_getElem? fun i => ?_
    rw [List.getElem?_modify, List.getElem?_mapIdx, List.getElem?_mapIdx]
    cases b.waiters[i]? with
    | none => rfl
    | some w => grind

theorem follow_turns (b : Broadcast) : b.follow b.turns = b.settle := by
  rw [turns, follow_polls, settle]
  congr 1
  refine List.ext_getElem? fun i => ?_
  rw [List.getElem?_mapIdx, List.getElem?_map]
  cases hw : b.waiters[i]? with
  | none => rfl
  | some w => simp [(List.getElem?_eq_some_iff.mp hw).1]

theorem isSettled_settle (b : Broadcast) : b.settle.IsSettled := by
  intro w hw
  obtain ⟨u, -, rfl⟩ := List.mem_map.mp hw
  exact Waiter.isRunnable_poll _ u

/-! ### The signal -/

theorem receiverReports_eq_some {r : Nat} {x : Bool} (h : b.receiverReports[r]? = some (some x)) :
    x = b.isShutdown := by
  rw [receiverReports, List.getElem?_map] at h
  obtain ⟨alive, -, hreport⟩ := Option.map_eq_some_iff.mp h
  cases alive with
  | false => cases hreport
  | true => cases hreport; rfl

theorem transmitterReports_eq_some {t : Nat} {x : Bool}
    (h : b.transmitterReports[t]? = some (some x)) : x = b.watched.value := by
  rw [transmitterReports, List.getElem?_map] at h
  obtain ⟨alive, -, hreport⟩ := Option.map_eq_some_iff.mp h
  cases alive with
  | false => cases hreport
  | true => cases hreport; rfl

/-- What is true of a signal with which these moves were made. -/
structure ClosesOnce (moves : List Move) (b : Broadcast) : Prop where
  /-- Of the calls that ask to close the signal the first one is told that it did, and no other one. -/
  first : ∀ (i : Nat) (first : Bool), (replies moves {})[i]? = some first → (first = true ↔ i = 0)
  asked : replies moves {} ≠ [] ↔ IsAsked moves {}
  transmitters : ∀ (t : Nat) (x : Bool), b.transmitterReports[t]? = some (some x) →
    (x = true ↔ IsAsked moves {})
  /-- A receiver also reports the signal closed if no transmitter is left. -/
  receivers : ∀ (r : Nat) (x : Bool), b.receiverReports[r]? = some (some x) →
    x = b.isShutdown ∧ (x = true ↔ IsAsked moves {} ∨ b.IsDeserted)
  /-- What a receiver reported once all of them report from then on. -/
  forever : ∀ r : Nat, b.receiverReports[r]? = some (some true) →
    ∀ (later : List Move) (r' : Nat) (x : Bool),
      (b.follow later).receiverReports[r']? = some (some x) → x = true
  /-- The stages of a run see what a receiver reports. -/
  stages : b.signal.isShutdown = b.isShutdown
  /-- When all waiting tasks had their turn, they have resolved exactly if a receiver would report the
  signal closed. -/
  resolved : b.IsSettled → ∀ w ∈ b.waiters, w.isResolved = b.isShutdown
  /-- Whoever has a receiver can make a task wait, which is still known when the receiver is gone. -/
  waits : ∀ r, isAlive b.receivers r = true → ∀ later, ∃ w,
    (b.follow (.operate (.wait r) :: later)).waiters[b.waiters.length]? = some w
  /-- From any state all tasks can have their turn. -/
  settles : (b.follow b.turns).IsSettled

/-- A signal with any number of handles closes once, for all of them, and for good. -/
theorem closes_once_for_all {moves : List Move} (h : follow {} moves = b) : ClosesOnce moves b := by
  subst h
  have hcoherent : (follow {} moves).Coherent := coherent_follow coherent_start moves
  have hvalue : (follow {} moves).watched.value = true ↔ IsAsked moves {} := by
    rw [value_follow, ← replies_ne_nil_iff]
    simp
  have hclosed : (follow {} moves).isShutdown = true ↔
      IsAsked moves {} ∨ (follow {} moves).IsDeserted := by
    rw [isShutdown, Bool.or_eq_true, hvalue, hcoherent.ended]
  refine ⟨fun i first hreply => ?_, replies_ne_nil_iff moves {}, fun t x hx => ?_, fun r x hx => ?_,
    fun r hr later r' x hx => ?_, hcoherent.isShutdown_signal, fun hsettled w hw => ?_,
    fun r hr later => ?_, ?_⟩
  · rw [reply_iff hreply]
    simp
  · rw [transmitterReports_eq_some hx, hvalue]
  · have hsame := receiverReports_eq_some hx
    exact ⟨hsame, by rw [hsame, hclosed]⟩
  · rw [receiverReports_eq_some hx]
    exact isShutdown_follow (receiverReports_eq_some hr).symm later
  · exact (hcoherent.waiters w hw).isResolved (hsettled w hw)
  · have hwaits := length_waiters_le_follow ((follow {} moves).act (.operate (.wait r))).2 later
    have hlength : (follow {} moves).waiters.length <
        ((follow {} moves).follow (.operate (.wait r) :: later)).waiters.length := by
      refine Nat.lt_of_lt_of_le ?_ hwaits
      simp [act, apply, hr]
    exact ⟨_, List.getElem?_eq_getElem hlength⟩
  · rw [follow_turns]
    exact isSettled_settle _

/-- One task waits on a receiver that is dropped, another one starts on a late receiver after the signal
was closed by the second transmitter: both resolve. A third one resolves because the only transmitter of
its signal is dropped. -/
theorem closes_once_for_all_of_three :
    (∃ b, follow {} [.operate (.cloneTransmitter 0), .operate (.wait 0), .poll 0, .operate (.dropReceiver 0),
        .operate (.dropTransmitter 0), .operate (.shutdown 1), .operate (.subscribe 1),
        .operate (.shutdown 1), .operate (.wait 1), .poll 0, .poll 1] = b ∧
      b.transmitterReports = [none, some true] ∧ b.receiverReports = [none, some true] ∧
      b.waiters.length = 2 ∧ ∀ w ∈ b.waiters, w.isResolved = true) ∧
    ∃ b, follow {} [.operate (.wait 0), .poll 0, .operate (.dropTransmitter 0), .poll 0] = b ∧
      b.transmitterReports = [none] ∧ b.waiters.length = 1 ∧ ∀ w ∈ b.waiters, w.isResolved = true := by
  constructor
  · have hrun : ∃ b, follow {} [.operate (.cloneTransmitter 0), .operate (.wait 0), .poll 0,
        .operate (.dropReceiver 0), .operate (.dropTransmitter 0), .operate (.shutdown 1),
        .operate (.subscribe 1), .operate (.shutdown 1), .operate (.wait 1), .poll 0, .poll 1] = b ∧
        b.transmitterReports = [none, some true] ∧ b.receiverReports = [none, some true] ∧
        b.waiters.length = 2 ∧ b.IsSettled ∧ b.isShutdown = true :=
      ⟨_, rfl, rfl, rfl, rfl, by decide, rfl⟩
    obtain ⟨b, hfollow, htransmitters, hreceivers, hlength, hsettled, hclosed⟩ := hrun
    have hwaiters := (closes_once_for_all hfollow).resolved hsettled
    exact ⟨b, hfollow, htransmitters, hreceivers, hlength,
      fun w hw => (hwaiters w hw).trans hclosed⟩
  · have hrun : ∃ b, follow {} [.operate (.wait 0), .poll 0, .operate (.dropTransmitter 0), .poll 0] = b ∧
        b.transmitterReports = [none] ∧ b.waiters.length = 1 ∧ b.IsSettled ∧ b.isShutdown = true :=
      ⟨_, rfl, rfl, rfl, by decide, rfl⟩
    obtain ⟨b, hfollow, htransmitters, hlength, hsettled, hclosed⟩ := hrun
    have hwaiters := (closes_once_for_all hfollow).resolved hsettled
    exact ⟨b, hfollow, htransmitters, hlength, fun w hw => (hwaiters w hw).trans hclosed⟩

end Broadcast

end Fanout
