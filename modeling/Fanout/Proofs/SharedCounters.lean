import Mathlib.Data.List.Infix
import Fanout.SharedCounters
import Fanout.Proofs.Pipeline.Rules

/-! The counters that the stages share, by what the stages were answered. The calls of a run, through
whichever handles, leave a history of answers, and the counters after it are told by five readings of
that history: how many dispatches were counted, how many tasks were given up, how many results arrived,
whether loading was stopped and whether the tasks ran out. What every single call can do is said first,
and everything else is an induction on the calls with it. -/

namespace Fanout

namespace SharedCounters

/-- A call by its operation and its answer. -/
structure Entry where
  operation : Operation
  answer : Answer
  deriving DecidableEq, Repr

/-- The counters after calls, each through the handle it names. -/
def follow : List (Nat × Operation) → SharedCounters → SharedCounters
  | [], s => s
  | call :: calls, s => follow calls (s.apply call.1 call.2).2

/-- The history of calls. -/
def trace : List (Nat × Operation) → SharedCounters → List Entry
  | [], _ => []
  | call :: calls, s => ⟨call.2, (s.apply call.1 call.2).1⟩ :: trace calls (s.apply call.1 call.2).2

/-! ### Readings of a history -/

/-- The task whose dispatch was counted. -/
def Entry.dispatched? : Entry → Option Nat
  | ⟨.record i, .recorded true⟩ => some i
  | _ => none

/-- A task was given up. -/
def Entry.isAbandonment : Entry → Bool
  | ⟨.abandon, .remaining _⟩ => true
  | _ => false

/-- A result was counted. -/
def Entry.isReceipt : Entry → Bool
  | ⟨.received, .counters _⟩ => true
  | _ => false

/-- What a call to stop the loading was answered. -/
def Entry.stopped? : Entry → Option Bool
  | ⟨.stop, .stopped first⟩ => some first
  | _ => none

/-- The number of tasks that was found to be used up. -/
def Entry.exhausted? : Entry → Option Nat
  | ⟨.next total, .decision .exhausted⟩ => some total
  | _ => none

/-- The tasks whose dispatch was counted, in the order of the calls. -/
def dispatches (history : List Entry) : List Nat :=
  history.filterMap Entry.dispatched?

def abandonments (history : List Entry) : Nat :=
  history.countP Entry.isAbandonment

def receipts (history : List Entry) : Nat :=
  history.countP Entry.isReceipt

/-- The answers to the calls to stop the loading. -/
def stops (history : List Entry) : List Bool :=
  history.filterMap Entry.stopped?

/-- The totals that were found to be used up. -/
def exhaustions (history : List Entry) : List Nat :=
  history.filterMap Entry.exhausted?

/-- The counters with a target, by how many tasks were dispatched and given up, how many results arrived,
whether loading was stopped and whether the tasks ran out. -/
def told (want dispatched abandoned received : Nat) (stopped exhausted : Bool) : Counters where
  cursor := if stopped then .stopped else .loading dispatched
  sent := dispatched - abandoned
  received := received
  want := if exhausted then 0 else want
  abandoned := abandoned
  supplyExhausted := exhausted

/-- The counters with a target, by a history. -/
def toldBy (want : Nat) (history : List Entry) : Counters :=
  told want (dispatches history).length (abandonments history) (receipts history)
    (stops history != []) (exhaustions history != [])

/-- All that the counters count fits a 64-bit word. Every sum that a call forms is left in one of these
fields, so none of them wraps where this holds after each call. -/
structure Fits (c : Counters) : Prop where
  cursor : ∀ i, c.cursor = .loading i → i < Nat.pow 2 64
  sent : c.sent < Nat.pow 2 64
  received : c.received < Nat.pow 2 64
  abandoned : c.abandoned < Nat.pow 2 64

/-- The number of calls that are not about handles. -/
def operations (calls : List (Nat × Operation)) : Nat :=
  calls.countP fun call => call.2 ≠ .clone

/-- Calls on new counters that are fewer than a 64-bit word can count, handles made aside, and of which no
beginning gives up more tasks than it dispatched. -/
structure IsBalanced (want : Nat) (calls : List (Nat × Operation)) : Prop where
  few : operations calls < Nat.pow 2 64
  covered : ∀ before, before <+: calls →
    abandonments (trace before (new want)) ≤ (dispatches (trace before (new want))).length

/-! ### What a call does -/

/-- The outcomes of a call, each with what it needs, what it is answered and what it leaves. -/
inductive Effect (s : SharedCounters) : Operation → Answer → SharedCounters → Prop
  | unheld (o : Operation) : Effect s o .noSuchHandle s
  | noMore (total : Nat) (hcursor : s.state.cursor = .stopped) :
      Effect s (.next total) (.decision .stopped) s
  | exhausted (total i : Nat) (hcursor : s.state.cursor = .loading i) (htotal : total ≤ i) :
      Effect s (.next total) (.decision .exhausted) { s with state := s.state.exhaust }
  | dispatch (total i : Nat) (hcursor : s.state.cursor = .loading i) (htotal : i < total) :
      Effect s (.next total) (.decision (.dispatch i)) s
  | counted (i : Nat) (hcursor : s.state.cursor = .loading i) :
      Effect s (.record i) (.recorded true) { s with state := s.state.countDispatch i }
  | refused (i : Nat) (hcursor : s.state.cursor ≠ .loading i) : Effect s (.record i) (.recorded false) s
  | abandoned : Effect s .abandon (.remaining s.state.recordAbandoned.sent)
      { s with state := s.state.recordAbandoned }
  | received : Effect s .received (.counters s.state.recordReceived)
      { s with state := s.state.recordReceived }
  | stopped (i : Nat) (hcursor : s.state.cursor = .loading i) :
      Effect s .stop (.stopped true) { s with state := { s.state with cursor := .stopped } }
  | stoppedAgain (hcursor : s.state.cursor = .stopped) : Effect s .stop (.stopped false) s
  | seen : Effect s .snapshot (.counters s.state) s
  | cloned : Effect s .clone (.handle s.handles) { s with handles := s.handles + 1 }

theorem effect_of_next (total : Nat) (s : SharedCounters) :
    Effect s (.next total) (.decision (s.state.nextDispatch total).1)
      { s with state := (s.state.nextDispatch total).2 } := by
  cases hdecision : s.state.nextDispatch total with
  | mk d c =>
    cases d with
    | stopped =>
      have hcursor := Counters.nextDispatch_stopped hdecision
      obtain rfl : s.state = c := by
        simp only [Counters.nextDispatch, hcursor] at hdecision
        exact (Prod.mk.inj hdecision).2
      exact .noMore total hcursor
    | exhausted =>
      obtain ⟨i, hcursor, htotal, rfl⟩ := Counters.nextDispatch_exhausted hdecision
      exact .exhausted total i hcursor htotal
    | dispatch i =>
      obtain ⟨hcursor, htotal⟩ := Counters.nextDispatch_dispatch hdecision
      obtain rfl : s.state = c := by
        simp only [Counters.nextDispatch, hcursor, if_neg (by omega : ¬ total ≤ i)] at hdecision
        exact (Prod.mk.inj hdecision).2
      exact .dispatch total i hcursor htotal

theorem effect_of_stop (s : SharedCounters) :
    Effect s .stop (.stopped s.state.stopLoading.1) { s with state := s.state.stopLoading.2 } := by
  cases hcursor : s.state.cursor with
  | loading i => simpa [Counters.stopLoading, Counters.isStopped, hcursor] using Effect.stopped i hcursor
  | stopped =>
    have hsame : { s with state := s.state.stopLoading.2 } = s := by
      simp [Counters.stopLoading, ← hcursor]
    rw [hsame]
    simpa [Counters.stopLoading, Counters.isStopped, hcursor] using Effect.stoppedAgain hcursor

theorem effect_of_apply (handle : Nat) (o : Operation) (s : SharedCounters) :
    Effect s o (s.apply handle o).1 (s.apply handle o).2 := by
  unfold apply
  split
  next => exact .unheld o
  next =>
    cases o with
    | next total => exact effect_of_next total s
    | record i =>
      dsimp only
      split
      next d hrecord =>
        obtain ⟨hcursor, rfl⟩ := Counters.tryRecordDispatch_eq_some hrecord
        exact .counted i hcursor
      next hrecord => exact .refused i (Counters.tryRecordDispatch_eq_none hrecord)
    | abandon => exact .abandoned
    | received => exact .received
    | stop => exact effect_of_stop s
    | snapshot => exact .seen
    | clone => exact .cloned

/-! ### What calls leave -/

theorem follow_concat (calls : List (Nat × Operation)) (call : Nat × Operation) (s : SharedCounters) :
    follow (calls ++ [call]) s = ((follow calls s).apply call.1 call.2).2 := by
  induction calls generalizing s with
  | nil => rfl
  | cons first calls ih => exact ih _

theorem trace_concat (calls : List (Nat × Operation)) (call : Nat × Operation) (s : SharedCounters) :
    trace (calls ++ [call]) s =
      trace calls s ++ [⟨call.2, ((follow calls s).apply call.1 call.2).1⟩] := by
  induction calls generalizing s with
  | nil => rfl
  | cons first calls ih => exact congrArg _ (ih _)

theorem IsBalanced.of_concat {want : Nat} {calls : List (Nat × Operation)} {call : Nat × Operation}
    (h : IsBalanced want (calls ++ [call])) : IsBalanced want calls where
  few := by
    have hle : operations calls ≤ operations (calls ++ [call]) := by simp [operations]
    exact Nat.lt_of_le_of_lt hle h.few
  covered before hbefore := h.covered before (hbefore.trans (List.prefix_append calls [call]))

/-! ### One call more -/

@[simp] theorem dispatches_concat (history : List Entry) (e : Entry) :
    dispatches (history ++ [e]) = dispatches history ++ e.dispatched?.toList := by
  cases h : e.dispatched? <;> simp [dispatches, h]

@[simp] theorem abandonments_concat (history : List Entry) (e : Entry) :
    abandonments (history ++ [e]) = abandonments history + e.isAbandonment.toNat := by
  cases h : e.isAbandonment <;> simp [abandonments, h]

@[simp] theorem receipts_concat (history : List Entry) (e : Entry) :
    receipts (history ++ [e]) = receipts history + e.isReceipt.toNat := by
  cases h : e.isReceipt <;> simp [receipts, h]

@[simp] theorem stops_concat (history : List Entry) (e : Entry) :
    stops (history ++ [e]) = stops history ++ e.stopped?.toList := by
  cases h : e.stopped? <;> simp [stops, h]

@[simp] theorem exhaustions_concat (history : List Entry) (e : Entry) :
    exhaustions (history ++ [e]) = exhaustions history ++ e.exhausted?.toList := by
  cases h : e.exhausted? <;> simp [exhaustions, h]

/-- A call counts at most once, and not at all where it makes a handle. -/
theorem Entry.counts_le (e : Entry) :
    e.dispatched?.toList.length + e.isAbandonment.toNat + e.isReceipt.toNat ≤
      if e.operation = .clone then 0 else 1 := by
  obtain ⟨o, a⟩ := e
  cases o <;> simp only [dispatched?, isAbandonment, isReceipt] <;> repeat' split
  all_goals simp_all

theorem counts_le_operations (calls : List (Nat × Operation)) (s : SharedCounters) :
    (dispatches (trace calls s)).length + abandonments (trace calls s) + receipts (trace calls s) ≤
      operations calls := by
  induction calls using List.reverseRecOn with
  | nil => exact Nat.le_refl 0
  | append_singleton calls call ih =>
    have hone := Entry.counts_le ⟨call.2, ((follow calls s).apply call.1 call.2).1⟩
    have hoperations : operations (calls ++ [call]) =
        operations calls + if call.2 = .clone then 0 else 1 := by
      simp [operations, List.countP_append, List.countP_singleton]
    rw [trace_concat, dispatches_concat, abandonments_concat, receipts_concat, hoperations,
      List.length_append]
    dsimp only at hone
    omega

/-- What holds of the counters and the history of calls on new counters. -/
structure Invariant (want : Nat) (history : List Entry) (c : Counters) : Prop where
  state : c = toldBy want history
  inOrder : dispatches history = List.range (dispatches history).length
  firstStop : stops history = (List.range (stops history).length).map (· == 0)
  usedUp : ∀ total ∈ exhaustions history, total ≤ (dispatches history).length

/-- No reading of a history shows the entry. -/
structure Entry.IsSilent (e : Entry) : Prop where
  dispatched : e.dispatched? = none
  abandonment : e.isAbandonment = false
  receipt : e.isReceipt = false
  stopped : e.stopped? = none
  exhausted : e.exhausted? = none

namespace Invariant

variable {want : Nat} {history : List Entry} {c : Counters}

theorem of_loading {i : Nat} (h : Invariant want history c) (hcursor : c.cursor = .loading i) :
    stops history = [] ∧ i = (dispatches history).length := by
  rw [h.state] at hcursor
  cases hstops : stops history <;> simp_all [toldBy, told]

theorem of_stopped (h : Invariant want history c) (hcursor : c.cursor = .stopped) :
    stops history ≠ [] := by
  rw [h.state] at hcursor
  rintro hstops
  simp [toldBy, told, hstops] at hcursor

theorem silent {e : Entry} (h : Invariant want history c) (he : e.IsSilent) :
    Invariant want (history ++ [e]) c where
  state := by
    simpa [toldBy, he.dispatched, he.abandonment, he.receipt, he.stopped, he.exhausted]
      using h.state
  inOrder := by simpa [he.dispatched] using h.inOrder
  firstStop := by simpa [he.stopped] using h.firstStop
  usedUp := by simpa [he.exhausted, he.dispatched] using h.usedUp

theorem exhausted {total i : Nat} (h : Invariant want history c) (hcursor : c.cursor = .loading i)
    (htotal : total ≤ i) :
    Invariant want (history ++ [⟨.next total, .decision .exhausted⟩]) c.exhaust := by
  obtain ⟨hstops, rfl⟩ := h.of_loading hcursor
  constructor
  · simp [h.state, toldBy, told, Counters.exhaust, Entry.dispatched?, Entry.isAbandonment,
      Entry.isReceipt, Entry.stopped?, Entry.exhausted?]
  · simpa [Entry.dispatched?] using h.inOrder
  · simpa [Entry.stopped?] using h.firstStop
  · simp only [exhaustions_concat, dispatches_concat, Entry.exhausted?, Entry.dispatched?,
      Option.toList_some, Option.toList_none, List.append_nil, List.mem_append, List.mem_singleton]
    rintro t (ht | rfl)
    · exact h.usedUp t ht
    · exact htotal

theorem counted {i : Nat} (h : Invariant want history c) (hcursor : c.cursor = .loading i)
    (hcovered : abandonments history ≤ (dispatches history).length) :
    Invariant want (history ++ [⟨.record i, .recorded true⟩]) (c.countDispatch i) := by
  obtain ⟨hstops, rfl⟩ := h.of_loading hcursor
  constructor
  · simp [h.state, toldBy, told, Counters.countDispatch, Entry.dispatched?, Entry.isAbandonment,
      Entry.isReceipt, Entry.stopped?, Entry.exhausted?, hstops]
    -- one more is sent only where the abandonments have not eaten it up
    omega
  · simpa [Entry.dispatched?, List.range_succ] using h.inOrder
  · simpa [Entry.stopped?] using h.firstStop
  · intro t ht
    have := h.usedUp t (by simpa [Entry.exhausted?] using ht)
    simp [Entry.dispatched?]
    omega

theorem abandoned {n : Nat} (h : Invariant want history c) :
    Invariant want (history ++ [⟨.abandon, .remaining n⟩]) c.recordAbandoned where
  state := by
    simp [h.state, toldBy, told, Counters.recordAbandoned, Entry.dispatched?, Entry.isAbandonment,
      Entry.isReceipt, Entry.stopped?, Entry.exhausted?]
    omega
  inOrder := by simpa [Entry.dispatched?] using h.inOrder
  firstStop := by simpa [Entry.stopped?] using h.firstStop
  usedUp := by simpa [Entry.exhausted?, Entry.dispatched?] using h.usedUp

theorem received {d : Counters} (h : Invariant want history c) :
    Invariant want (history ++ [⟨.received, .counters d⟩]) c.recordReceived where
  state := by
    simp [h.state, toldBy, told, Counters.recordReceived, Entry.dispatched?, Entry.isAbandonment,
      Entry.isReceipt, Entry.stopped?, Entry.exhausted?]
  inOrder := by simpa [Entry.dispatched?] using h.inOrder
  firstStop := by simpa [Entry.stopped?] using h.firstStop
  usedUp := by simpa [Entry.exhausted?, Entry.dispatched?] using h.usedUp

theorem stopped {first : Bool} (h : Invariant want history c) (hfirst : first = (stops history == [])) :
    Invariant want (history ++ [⟨.stop, .stopped first⟩]) { c with cursor := .stopped } where
  state := by
    simp [h.state, toldBy, told, Entry.dispatched?, Entry.isAbandonment,
      Entry.isReceipt, Entry.stopped?, Entry.exhausted?]
  inOrder := by simpa [Entry.dispatched?] using h.inOrder
  firstStop := by
    have hlast : first = ((stops history).length == 0) := by
      rw [hfirst]
      cases stops history <;> rfl
    simp [Entry.stopped?, List.range_succ, ← h.firstStop, hlast]
  usedUp := by simpa [Entry.exhausted?, Entry.dispatched?] using h.usedUp

theorem concat {s t : SharedCounters} {o : Operation} {a : Answer} (h : Invariant want history s.state)
    (heffect : Effect s o a t) (hcovered : abandonments history ≤ (dispatches history).length) :
    Invariant want (history ++ [⟨o, a⟩]) t.state := by
  cases heffect with
  | unheld => exact h.silent (by cases o <;> constructor <;> rfl)
  | noMore total hcursor => exact h.silent ⟨rfl, rfl, rfl, rfl, rfl⟩
  | exhausted total i hcursor htotal => exact h.exhausted hcursor htotal
  | dispatch total i hcursor htotal => exact h.silent ⟨rfl, rfl, rfl, rfl, rfl⟩
  | counted i hcursor => exact h.counted hcursor hcovered
  | refused i hcursor => exact h.silent ⟨rfl, rfl, rfl, rfl, rfl⟩
  | abandoned => exact h.abandoned
  | received => exact h.received
  | stopped i hcursor => exact h.stopped (by simp [(h.of_loading hcursor).1])
  | stoppedAgain hcursor =>
    have hsame : { s.state with cursor := .stopped } = s.state := by simp [← hcursor]
    exact hsame ▸ h.stopped (by simp [h.of_stopped hcursor])
  | seen => exact h.silent ⟨rfl, rfl, rfl, rfl, rfl⟩
  | cloned => exact h.silent ⟨rfl, rfl, rfl, rfl, rfl⟩

end Invariant

theorem invariant (want : Nat) (calls : List (Nat × Operation)) (h : IsBalanced want calls) :
    Invariant want (trace calls (new want)) (follow calls (new want)).state := by
  induction calls using List.reverseRecOn with
  | nil => exact ⟨rfl, rfl, rfl, by simp [trace, exhaustions]⟩
  | append_singleton calls call ih =>
    have hbefore := h.of_concat
    rw [follow_concat, trace_concat]
    exact (ih hbefore).concat (effect_of_apply call.1 call.2 _) (hbefore.covered calls List.prefix_rfl)

/-! ### The counters by the numbers of calls -/

/-- What a history with a target says of the counters after it, and of the next call. -/
structure Accounted (want : Nat) (history : List Entry) (s : SharedCounters) : Prop where
  state : s.state = toldBy want history
  dispatched : s.state.dispatched? = some (dispatches history).length
  fits : Fits s.state
  inOrder : dispatches history = List.range (dispatches history).length
  firstStop : stops history = (List.range (stops history).length).map (· == 0)
  /-- Once loading was stopped the dispatcher is told so, and no dispatch is counted. -/
  staysStopped : stops history ≠ [] → ∀ handle < s.handles,
    (∀ total, (s.apply handle (.next total)).1 = .decision .stopped) ∧
    ∀ i, (s.apply handle (.record i)).1 = .recorded false
  /-- A total that was used up stays so, and every smaller one with it. -/
  staysUsedUp : ∀ total ∈ exhaustions history, ∀ fewer ≤ total, ∀ handle i,
    (s.apply handle (.next fewer)).1 ≠ .decision (.dispatch i)
  unchanged : ∀ handle o,
    (s.apply handle o).1 ∈ [.decision .stopped, .recorded false, .stopped false] →
      (s.apply handle o).2 = s

theorem fits_toldBy (want : Nat) (history : List Entry)
    (h : (dispatches history).length + abandonments history + receipts history < Nat.pow 2 64) :
    Fits (toldBy want history) := by
  constructor
  case cursor =>
    intro i hcursor
    simp only [toldBy, told] at hcursor
    split at hcursor
    · cases hcursor
    · cases hcursor
      omega
  all_goals
    simp only [toldBy, told]
    omega

theorem apply_of_stopped {handle : Nat} {s : SharedCounters} (hhandle : handle < s.handles)
    (hcursor : s.state.cursor = .stopped) :
    (∀ total, (s.apply handle (.next total)).1 = .decision .stopped) ∧
    ∀ i, (s.apply handle (.record i)).1 = .recorded false := by
  have hheld : ¬ s.handles ≤ handle := by omega
  constructor
  · intro total
    simp [apply, hheld, Counters.nextDispatch, hcursor]
  · intro i
    simp [apply, hheld, Counters.tryRecordDispatch, hcursor]

theorem Effect.unchanged {s t : SharedCounters} {o : Operation} {a : Answer} (h : Effect s o a t)
    (ha : a ∈ [.decision .stopped, .recorded false, .stopped false]) : t = s := by
  cases h <;> simp_all

/-- The counters, whichever handles the calls went through, are told by the numbers of calls that were
answered each way. -/
theorem accounted_of_balanced (want : Nat) (calls : List (Nat × Operation))
    (h : IsBalanced want calls) :
    Accounted want (trace calls (new want)) (follow calls (new want)) := by
  have hinvariant := invariant want calls h
  have hcovered := h.covered calls List.prefix_rfl
  have hfew := Nat.lt_of_le_of_lt (counts_le_operations calls (new want)) h.few
  generalize trace calls (new want) = history at *
  generalize follow calls (new want) = s at *
  have hsum : (dispatches history).length - abandonments history + abandonments history =
      (dispatches history).length := by omega
  constructor
  case state => exact hinvariant.state
  case dispatched =>
    rw [hinvariant.state]
    simp only [Counters.dispatched?, Counters.dispatched, toldBy, told, hsum]
    exact if_pos (by omega)
  case fits => exact hinvariant.state ▸ fits_toldBy want history hfew
  case inOrder => exact hinvariant.inOrder
  case firstStop => exact hinvariant.firstStop
  case staysStopped =>
    intro hstops handle hhandle
    refine apply_of_stopped hhandle ?_
    simp [hinvariant.state, toldBy, told, hstops]
  case staysUsedUp =>
    intro total htotal fewer hfewer handle i hanswer
    have hle := hinvariant.usedUp total htotal
    have heffect := effect_of_apply handle (.next fewer) s
    rw [hanswer] at heffect
    generalize (s.apply handle (.next fewer)).2 = left at heffect
    cases heffect with
    | dispatch _ _ hcursor hlt =>
      have := (hinvariant.of_loading hcursor).2
      omega
  case unchanged =>
    intro handle o ha
    exact (effect_of_apply handle o s).unchanged ha

/-- Three handles, of which one counts two dispatches, one gives a task up, and one stops the loading. -/
def sharedCalls : List (Nat × Operation) :=
  [(0, .clone), (1, .clone), (1, .next 2), (1, .record 0), (2, .record 0), (1, .record 1), (2, .abandon),
    (0, .received), (1, .next 2), (0, .stop), (2, .stop), (1, .next 5), (1, .record 2)]

theorem accounted_of_sharedCalls :
    (IsBalanced 4 sharedCalls ∧ dispatches (trace sharedCalls (new 4)) = [0, 1] ∧
      stops (trace sharedCalls (new 4)) = [true, false] ∧
      (follow sharedCalls (new 4)).state =
        ⟨.stopped, 1, 1, 0, 1, true⟩) ∧
      Accounted 4 (trace sharedCalls (new 4)) (follow sharedCalls (new 4)) := by
  have hcovered : ∀ before ∈ sharedCalls.inits,
      abandonments (trace before (new 4)) ≤ (dispatches (trace before (new 4))).length := by decide
  have hbalanced : IsBalanced 4 sharedCalls :=
    ⟨by decide, fun before h => hcovered before ((List.mem_inits before sharedCalls).2 h)⟩
  exact ⟨⟨hbalanced, by decide, by decide, by decide⟩, accounted_of_balanced 4 sharedCalls hbalanced⟩

end SharedCounters

end Fanout
