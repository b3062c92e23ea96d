import Fanout.Proofs.Pipeline.Conservation
import Fanout.Proofs.Pipeline.History

/-!
What the packets of a run carry. Before a worker takes it a packet holds the item of its place in the
input and no stamp (`drawn_of_reachable`). The work that a worker waits for is the one that it began
itself, under a ticket of its own (`Attended`). What leaves a worker for the collector has been
returned by a work that did not panic, while its worker was waiting (`returned_of_follow`).
-/

namespace Fanout

namespace Packet

/-- As the dispatcher draws it. -/
def IsDrawn (jobs : List Job) (p : Packet Job) : Prop :=
  ∃ job, jobs[p.task]? = some job ∧ p = .new p.task job

/-- As this worker began its work. -/
def IsTaken (jobs : List Job) (worker : Nat) (p : Packet Job) : Prop :=
  ∃ job, jobs[p.task]? = some job ∧ p = { task := p.task, worker := some worker, item := job }

/-- As the work that this worker began returned it. -/
def IsReturned (jobs : List Job) (worker : Nat) (p : Packet Job) : Prop :=
  ∃ job, jobs[p.task]? = some job ∧ job.work.panics = false ∧
    p = { task := p.task, worker := some worker, item := job.afterRun }

variable {jobs : List Job} {p : Packet Job} {worker : Nat}

theorem IsDrawn.stamp (h : p.IsDrawn jobs) : (p.stamp worker).IsTaken jobs worker := by
  obtain ⟨job, hjob, heq⟩ := h
  refine ⟨job, hjob, ?_⟩
  rw [heq]
  rfl

theorem IsTaken.returned (h : p.IsTaken jobs worker) (hreturns : p.item.work.panics = false) :
    (p.mapItem Job.afterRun).IsReturned jobs worker := by
  obtain ⟨job, hjob, heq⟩ := h
  rw [heq] at hreturns
  refine ⟨job, hjob, hreturns, ?_⟩
  rw [heq]
  rfl

end Packet

/-- The packet in the dispatcher's hands. -/
def DispatcherPoint.packets : DispatcherPoint → List (Packet Job)
  | .reserving _ p | .counting _ p | .committing p => [p]
  | _ => []

/-- The ticket of the work that a worker has begun and not left. -/
def WorkerPoint.ticket? : WorkerPoint → Option Nat
  | .executing ticket .. => some ticket
  | _ => none

/-- The packet that a worker has got back. -/
def WorkerPoint.result? : WorkerPoint → Option (Packet Job)
  | .executing _ _ _ outcome => outcome.packet?
  | .forwarding p => some p
  | _ => none

/-- The packet in the collector's hands. -/
def CollectorPoint.packets : CollectorPoint → List (Packet Job)
  | .accepting p _ => [p]
  | _ => []

attribute [simp] DispatcherPoint.packets.eq_1 DispatcherPoint.packets.eq_2
  DispatcherPoint.packets.eq_3 DispatcherPoint.packets.eq_4 WorkerPoint.result?.eq_1
  WorkerPoint.result?.eq_2 WorkerPoint.result?.eq_3 CollectorPoint.packets.eq_1
  CollectorPoint.packets.eq_2

@[simp] theorem DispatcherPoint.packets_afterDropping (lost : List (Packet Job)) :
    (DispatcherPoint.afterDropping lost).packets = [] :=
  apply_afterDropping packets rfl (fun _ => rfl) lost

@[simp] theorem CollectorPoint.packets_afterDropping (exit : CollectorExit) (lost : List (Packet Job)) :
    (CollectorPoint.afterDropping exit lost).packets = [] :=
  apply_afterDropping packets rfl (fun _ => rfl) lost

@[simp] theorem WorkerPoint.result?_afterDropping (lost : List (Packet Job)) :
    (WorkerPoint.afterDropping lost).result? = none :=
  apply_afterDropping result? rfl (fun _ => rfl) lost

theorem WorkerPoint.ticket?_afterDropping (lost : List (Packet Job)) :
    (WorkerPoint.afterDropping lost).ticket? = none :=
  apply_afterDropping ticket? rfl (fun _ => rfl) lost

namespace Pipeline

variable {s t : Pipeline} {config : PipelineConfig} {jobs : List Job}

/-! ### On the way to a worker -/

/-- The packets that no worker has taken, those among them that were sent to nobody. -/
def upstream (s : Pipeline) : List (Packet Job) :=
  s.dispatcher.point.packets ++ s.dispatcher.remaining ++ s.dispatcher.stranded ++ s.handoff.buffer

theorem DispatcherStep.upstream_subset (h : DispatcherStep s t) : t.upstream ⊆ s.upstream := by
  intro p
  cases h with
  | committed q hpoint =>
      simp only [upstream, hpoint, strand, discard, setDispatcher, Channel.commit, Channel.push_buffer,
        Channel.release]
      split <;> simp <;> tauto
  | drawn i q rest hpoint hcursor htotal hremaining =>
      simp [upstream, hpoint, hremaining]
  | stopped hpoint | exhausted i hpoint | unsupplied i hpoint | shutdown i q hpoint
  | closed i q hpoint | refused i q hpoint =>
      simp [upstream, endDispatcher]
      tauto
  | reserved i q hpoint | counted i q hpoint => simp [upstream, hpoint]

theorem WorkerStep.upstream_subset {k : Nat} {w : Worker} (h : WorkerStep s k w t) :
    t.upstream ⊆ s.upstream := by
  have hlost := s.handoff.dropReceiver_sublist.subset
  rw [upstream, h.frame.dispatcher]
  suffices h : t.handoff.buffer ⊆ s.handoff.buffer from
    List.append_subset.mpr
      ⟨List.subset_append_left _ _, List.Subset.trans h (List.subset_append_right _ _)⟩
  cases h with
  | took p rest hpoint hsignal hbuffer =>
      rw [hbuffer]
      exact List.subset_cons_self p rest
  | heardReturn | heardPanic | expired | countedTimeout | countedPanic | forwarded =>
      exact List.Subset.refl _
  | dismissed | drained | left | leftCrashing | dropped | droppedCrashing | unheard
  | unheardCrashing => exact hlost

theorem upstream_subset_of_move {m : Move} (h : s.move m = some t) : t.upstream ⊆ s.upstream := by
  cases moveStep_of_move h with
  | dispatcher h => exact h.upstream_subset
  | worker k w hworker h => exact h.upstream_subset
  | collector h =>
      rw [upstream, h.frame.dispatcher, h.frame.handoff]
      exact List.Subset.refl _
  | supervisor h =>
      obtain ⟨supervisor, exits, metrics, log, rfl, -, -⟩ := supervisorStep_frame h
      exact List.Subset.refl _
  | execution ticket h => cases h <;> exact List.Subset.refl _
  | advanced | released => exact List.Subset.refl _

theorem drawn_of_reachable (hs : Reachable config jobs s) : ∀ p ∈ s.upstream, p.IsDrawn jobs := by
  refine hs.induction ?_ fun _ _ _ _ ih hmove p hp => ih p (upstream_subset_of_move hmove hp)
  intro p hp
  have hmem : p ∈ Packet.enumerate jobs := by simpa [upstream, ofRun] using hp
  obtain ⟨i, hi, rfl⟩ := List.mem_mapIdx.mp hmem
  exact ⟨jobs[i], List.getElem?_eq_getElem hi, rfl⟩

/-! ### With a worker -/

/-- Tickets tie each worker that waits to the work that it began and that has not ended. -/
structure Attended (jobs : List Job) (s : Pipeline) : Prop where
  sole : ∀ {j k : Nat} {v w : Worker} {ticket : Nat},
    s.workers[j]? = some v → s.workers[k]? = some w →
    v.point.ticket? = some ticket → w.point.ticket? = some ticket → j = k
  present : ∀ {k : Nat} {w : Worker} {ticket task startedAt : Nat}, s.workers[k]? = some w →
    w.point = .executing ticket task startedAt .running → ∃ e ∈ s.executions, e.ticket = ticket
  taken : ∀ {k : Nat} {w : Worker} {ticket : Nat},
    s.workers[k]? = some w → w.point.ticket? = some ticket →
    ∀ e ∈ s.executions, e.ticket = ticket → e.packet.IsTaken jobs w.id

/-- A worker of a pool in which one moved on is that one, or it stands where it stood. -/
theorem getElem?_set_cases {workers : List Worker} {j k : Nat} {v x : Worker}
    (h : (workers.set k x)[j]? = some v) : (j = k ∧ v = x) ∨ (j ≠ k ∧ workers[j]? = some v) := by
  by_cases hjk : k = j
  · subst hjk
    rw [List.getElem?_set_self'] at h
    obtain ⟨_, -, hx⟩ := Option.map_eq_some_iff.mp h
    exact .inl ⟨rfl, hx.symm⟩
  · rw [List.getElem?_set_ne hjk] at h
    exact .inr ⟨fun heq => hjk heq.symm, h⟩

theorem ticket?_eq_some {point : WorkerPoint} {ticket : Nat} (h : point.ticket? = some ticket) :
    ∃ task startedAt outcome, point = .executing ticket task startedAt outcome := by
  cases point <;> cases h
  exact ⟨_, _, _, rfl⟩

theorem Linked.ticket_lt (hs : Linked s) {k ticket : Nat} {w : Worker}
    (hworker : s.workers[k]? = some w) (hticket : w.point.ticket? = some ticket) :
    ticket < s.nextTicket := by
  obtain ⟨task, startedAt, outcome, hpoint⟩ := ticket?_eq_some hticket
  exact (hs.waits w (List.mem_of_getElem? hworker) _ _ _ _ hpoint).issued

theorem Attended.beginWork {k : Nat} {w : Worker} (hs : Attended jobs s) (hlinked : Linked s)
    {p : Packet Job} (hp : p.IsDrawn jobs) : Attended jobs (s.beginWork k w p) where
  sole := by
    intro i j v u ticket hv hu hvt hut
    rcases getElem?_set_cases hv with ⟨rfl, rfl⟩ | ⟨-, hv'⟩ <;>
      rcases getElem?_set_cases hu with ⟨rfl, rfl⟩ | ⟨-, hu'⟩
    · rfl
    · cases hvt
      exact absurd (hlinked.ticket_lt hu' hut) (Nat.lt_irrefl _)
    · cases hut
      exact absurd (hlinked.ticket_lt hv' hvt) (Nat.lt_irrefl _)
    · exact hs.sole hv' hu' hvt hut
  present := by
    intro j v ticket task startedAt hv hpoint
    rcases getElem?_set_cases hv with ⟨rfl, rfl⟩ | ⟨-, hv⟩
    · cases hpoint
      exact ⟨_, List.mem_append_right _ List.mem_cons_self, rfl⟩
    · obtain ⟨e, he, hticket⟩ := hs.present hv hpoint
      exact ⟨e, List.mem_append_left _ he, hticket⟩
  taken := by
    intro j v ticket hv hvt e he heq
    rcases getElem?_set_cases hv with ⟨rfl, rfl⟩ | ⟨-, hv⟩ <;>
      rcases List.mem_append.mp he with hold | hnew
    · cases hvt
      exact absurd (hlinked.issued e hold) (heq ▸ Nat.lt_irrefl _)
    · rw [List.mem_singleton.mp hnew]
      exact hp.stamp
    · exact hs.taken hv hvt e hold heq
    · rw [List.mem_singleton.mp hnew] at heq
      exact absurd (hlinked.ticket_lt hv hvt) (heq ▸ Nat.lt_irrefl _)

/-- Workers only leave works. -/
theorem Attended.of_frame (hs : Attended jobs s) (hexecutions : t.executions = s.executions)
    (hworkers : ∀ {j : Nat} {v : Worker} {ticket : Nat}, t.workers[j]? = some v →
      v.point.ticket? = some ticket → s.workers[j]? = some v) : Attended jobs t where
  sole hv hu hvt hut := hs.sole (hworkers hv hvt) (hworkers hu hut) hvt hut
  present hv hpoint := by
    rw [hexecutions]
    exact hs.present (hworkers hv (by rw [hpoint]; rfl)) hpoint
  taken hv hvt := by
    rw [hexecutions]
    exact hs.taken (hworkers hv hvt) hvt

theorem Attended.workerStep {k : Nat} {w : Worker} (hs : Attended jobs s) (hlinked : Linked s)
    (hdrawn : ∀ p ∈ s.upstream, p.IsDrawn jobs) (h : WorkerStep s k w t) : Attended jobs t := by
  rcases h.begins_or_rests with ⟨p, rest, hbuffer, rfl⟩ | ⟨hexecutions, -, -, point, hworkers, hrests⟩
  · have hp : p ∈ s.upstream := by
      rw [upstream, hbuffer]
      exact List.mem_append_right _ List.mem_cons_self
    have hs' : Attended jobs { s with handoff := { s.handoff with buffer := rest } } :=
      ⟨hs.sole, hs.present, hs.taken⟩
    exact hs'.beginWork { hlinked with waits := fun w hw ticket task startedAt outcome hpoint =>
      { hlinked.waits w hw ticket task startedAt outcome hpoint with } } (hdrawn p hp)
  · refine hs.of_frame hexecutions ?_
    intro j v ticket hv hvt
    rw [hworkers] at hv
    rcases getElem?_set_cases hv with ⟨rfl, rfl⟩ | ⟨-, hv⟩
    · obtain ⟨task, startedAt, outcome, hpoint⟩ := ticket?_eq_some hvt
      exact absurd hpoint (hrests _ _ _ _)
    · exact hv

theorem mem_eraseP_of_ticket_ne {e : Execution} {ticket : Nat} {executions : List Execution}
    (he : e ∈ executions) (hne : e.ticket ≠ ticket) :
    e ∈ executions.eraseP (·.ticket == ticket) :=
  (List.mem_eraseP_of_neg (by simpa using hne)).mpr he

theorem outcomeOf_ne_running (e : Execution) : outcomeOf e ≠ .running := by
  unfold outcomeOf
  split <;> simp

theorem Attended.executionStep {ticket : Nat} (hs : Attended jobs s)
    (h : ExecutionStep s ticket t) : Attended jobs t := by
  cases h with
  | delivered e k w task startedAt hfind hend hworker hpoint =>
      have hwt : w.point.ticket? = some ticket := by
        rw [hpoint]
        rfl
      -- The worker that heard keeps its ticket, so every ticket is where it was.
      have hback : ∀ {j : Nat} {v : Worker} {i : Nat}, (s.workers.set k { w with
          point := .executing ticket task startedAt (outcomeOf e) })[j]? = some v →
          v.point.ticket? = some i →
          ∃ u, s.workers[j]? = some u ∧ u.id = v.id ∧ u.point.ticket? = some i := by
        intro j v i hv hvt
        rcases getElem?_set_cases hv with ⟨rfl, rfl⟩ | ⟨-, hv⟩
        · exact ⟨w, hworker, rfl, hwt.trans hvt⟩
        · exact ⟨v, hv, rfl, hvt⟩
      refine ⟨?_, ?_, ?_⟩
      · intro i j v u ticket hv hu hvt hut
        obtain ⟨v', hv', -, hvt'⟩ := hback hv hvt
        obtain ⟨u', hu', -, hut'⟩ := hback hu hut
        exact hs.sole hv' hu' hvt' hut'
      · intro j v i task' startedAt' hv hrunning
        rcases getElem?_set_cases hv with ⟨rfl, rfl⟩ | ⟨hj, hv⟩
        · injection hrunning with _ _ _ hstill
          exact absurd hstill (outcomeOf_ne_running e)
        · obtain ⟨x, hx, hticket⟩ := hs.present hv hrunning
          refine ⟨x, mem_eraseP_of_ticket_ne hx ?_, hticket⟩
          rintro rfl
          exact hj (hs.sole hv hworker (by rw [hrunning, ← hticket]; rfl) hwt)
      · intro j v i hv hvt x hx
        obtain ⟨u, hu, hid, hut⟩ := hback hv hvt
        rw [← hid]
        exact hs.taken hu hut x (List.mem_of_mem_eraseP hx)
  | late e hfind hend hunheard =>
      refine ⟨hs.sole, ?_, ?_⟩
      · intro j v i task startedAt hv hrunning
        obtain ⟨x, hx, hticket⟩ := hs.present hv hrunning
        refine ⟨x, mem_eraseP_of_ticket_ne hx ?_, hticket⟩
        rintro rfl
        exact hunheard v (List.mem_of_getElem? hv) task startedAt (hticket ▸ hrunning)
      · intro j v i hv hvt x hx
        exact hs.taken hv hvt x (List.mem_of_mem_eraseP hx)

theorem attended_of_reachable (hs : Reachable config jobs s) : Attended jobs s := by
  refine hs.induction ⟨?_, ?_, ?_⟩ fun s m t hreach ih hmove => ?_
  · intro i j v u ticket hv _ hvt
    obtain ⟨id, -, rfl⟩ := List.mem_map.mp (List.mem_of_getElem? hv)
    cases hvt
  · intro j v ticket task startedAt hv hpoint
    obtain ⟨id, -, rfl⟩ := List.mem_map.mp (List.mem_of_getElem? hv)
    cases hpoint
  · intro j v ticket hv hvt
    obtain ⟨id, -, rfl⟩ := List.mem_map.mp (List.mem_of_getElem? hv)
    cases hvt
  · cases moveStep_of_move hmove with
    | dispatcher h => exact ih.of_frame h.frame.executions fun hv _ => h.frame.workers ▸ hv
    | worker k w hworker h =>
        exact ih.workerStep (linked_of_reachable hreach) (drawn_of_reachable hreach) h
    | collector h => exact ih.of_frame h.frame.executions fun hv _ => h.frame.workers ▸ hv
    | supervisor h =>
        obtain ⟨supervisor, exits, metrics, log, rfl, -, -⟩ := supervisorStep_frame h
        exact ih.of_frame rfl fun hv _ => hv
    | execution ticket h => exact ih.executionStep h
    | advanced | released => exact ih.of_frame rfl fun hv _ => hv

/-! ### On the way from a worker -/

/-- The packets that have left the workers. -/
def arrivals (s : Pipeline) : List (Packet Job) :=
  s.collector.results ++ s.collector.point.packets ++ s.outbound.buffer

/-- What holds of every packet that a worker has got back. -/
structure Downstream (holds : Nat → Packet Job → Prop) (s : Pipeline) : Prop where
  results : ∀ w ∈ s.workers, ∀ p, w.point.result? = some p → holds w.id p
  arrivals : ∀ p ∈ s.arrivals, ∃ id ∈ s.workers.map (·.id), holds id p

variable {holds : Nat → Packet Job → Prop}

theorem Downstream.mono {others : Nat → Packet Job → Prop} (hs : Downstream holds s)
    (h : ∀ id p, holds id p → others id p) : Downstream others s where
  results w hw p hp := h _ _ (hs.results w hw p hp)
  arrivals p hp := by
    obtain ⟨id, hid, hholds⟩ := hs.arrivals p hp
    exact ⟨id, hid, h _ _ hholds⟩

/-- A worker forwards only what it has got back. -/
theorem WorkerStep.result {k : Nat} {w : Worker} (h : WorkerStep s k w t) :
    (∃ point, t.workers = s.workers.set k { w with point } ∧
      ∀ p, point.result? = some p → w.point.result? = some p) ∧
    ∀ p ∈ t.arrivals, p ∈ s.arrivals ∨ w.point.result? = some p := by
  cases h with
  | heardReturn _ _ _ p hpoint =>
      exact ⟨⟨_, rfl, fun q hq => by rw [hpoint]; exact hq⟩, fun q hq => .inl hq⟩
  | forwarded p hpoint hsignal hreceivers =>
      refine ⟨⟨_, rfl, fun q hq => by cases hq⟩, fun q hq => ?_⟩
      simp only [arrivals, setWorker, Channel.push_buffer, if_neg hreceivers] at hq
      rw [← List.append_assoc] at hq
      rcases List.mem_append.mp hq with hold | hnew
      · exact .inl hold
      · rw [List.mem_singleton.mp hnew, hpoint]
        exact .inr rfl
  | took | heardPanic | expired | countedTimeout | countedPanic =>
      exact ⟨⟨_, rfl, fun q hq => by cases hq⟩, fun q hq => .inl hq⟩
  | dismissed | drained | left | leftCrashing | dropped | droppedCrashing | unheard
  | unheardCrashing =>
      exact ⟨⟨_, rfl, fun q hq => by simp at hq⟩, fun q hq => .inl hq⟩

theorem CollectorStep.arrivals_subset (h : CollectorStep s t) : t.arrivals ⊆ s.arrivals := by
  intro q
  cases h with
  | took p rest nextTick hpoint hsignal hbuffer => simp [arrivals, hpoint, hbuffer]
  | accepted p nextTick hpoint => simp [arrivals, accept, hpoint]
  | reached seen nextTick hpoint | continued seen nextTick hpoint =>
      obtain ⟨log, heq, -⟩ := stopWhenEnough_eq seen s
      simp [arrivals, heq, hpoint]
  | reported exit hpoint =>
      simp only [arrivals, endCollector, setCollector, record, Channel.dropReceiver, hpoint]
      split <;> simp
      tauto
  | _ => simp [arrivals, *]

theorem Downstream.workerStep {k : Nat} {w : Worker} (hs : Downstream holds s)
    (hworker : s.workers[k]? = some w) (h : WorkerStep s k w t) : Downstream holds t := by
  obtain ⟨⟨point, hworkers, hresult⟩, harrivals⟩ := h.result
  have hw := List.mem_of_getElem? hworker
  have hids : t.workers.map (·.id) = s.workers.map (·.id) := by rw [hworkers, map_id_set hworker]
  refine ⟨?_, ?_⟩
  · intro v hv p hp
    rw [hworkers] at hv
    rcases List.mem_or_eq_of_mem_set hv with hold | rfl
    · exact hs.results v hold p hp
    · exact hs.results w hw p (hresult p hp)
  · intro p hp
    rw [hids]
    rcases harrivals p hp with hold | hnew
    · exact hs.arrivals p hold
    · exact ⟨w.id, List.mem_map_of_mem hw, hs.results w hw p hnew⟩

theorem Downstream.of_frame (hs : Downstream holds s) (hworkers : t.workers = s.workers)
    (harrivals : t.arrivals ⊆ s.arrivals) : Downstream holds t where
  results := hworkers ▸ hs.results
  arrivals p hp := hworkers ▸ hs.arrivals p (harrivals hp)

/-- A work that ends while a worker waits for it gives that worker a packet for which the property
has to hold. -/
theorem Downstream.executionStep {ticket : Nat} (hs : Downstream holds s)
    (hnew : ∀ (e : Execution) (k : Nat) (w : Worker),
      s.executions.find? (·.ticket == ticket) = some e → s.workers[k]? = some w →
      w.point.ticket? = some ticket → s.ending? ticket = some e.happening →
      ∀ p, outcomeOf e = .returned p → holds w.id p)
    (h : ExecutionStep s ticket t) : Downstream holds t := by
  cases h with
  | delivered e k w task startedAt hfind hend hworker hpoint =>
      refine ⟨?_, ?_⟩
      · intro v hv p hp
        rcases List.mem_or_eq_of_mem_set hv with hold | rfl
        · exact hs.results v hold p hp
        · have hreturned : outcomeOf e = .returned p := by
            change (outcomeOf e).packet? = some p at hp
            cases houtcome : outcomeOf e <;> rw [houtcome] at hp <;> cases hp
            rfl
          exact hnew e k w hfind hworker (by rw [hpoint]; rfl)
            (ending?_of_waiting hfind hworker hpoint) p hreturned
      · intro p hp
        have hids := map_id_set hworker (.executing ticket task startedAt (outcomeOf e))
        exact hids ▸ hs.arrivals p hp
  | late => exact ⟨hs.results, hs.arrivals⟩

/-- The work returned this packet while the worker that stamped it was waiting. -/
def ReturnedInTime (jobs : List Job) (past : List Happening) (worker : Nat) (p : Packet Job) :
    Prop :=
  p.IsReturned jobs worker ∧ .returned p ∈ past

theorem ReturnedInTime.append {past : List Happening} (now : Option Happening) {worker : Nat}
    {p : Packet Job} (h : ReturnedInTime jobs past worker p) :
    ReturnedInTime jobs (past ++ now.toList) worker p :=
  ⟨h.1, List.mem_append_left _ h.2⟩

theorem happening_of_returned {e : Execution} {p : Packet Job} (h : outcomeOf e = .returned p) :
    e.happening = .returned p ∧ e.packet.item.work.panics = false ∧
      p = e.packet.mapItem Job.afterRun := by
  unfold outcomeOf at h
  unfold Execution.happening
  split at h
  · cases h
  next hreturns =>
    cases h
    rw [if_neg hreturns]
    exact ⟨rfl, eq_false_of_ne_true hreturns, rfl⟩

theorem returned_of_follow {moves : List Move} (h : (ofRun config jobs).follow moves = some s) :
    Downstream (ReturnedInTime jobs ((ofRun config jobs).happenings moves)) s := by
  refine traced_induction (P := fun past s => Downstream (ReturnedInTime jobs past) s) h ⟨?_, ?_⟩ ?_
  · intro w hw p hp
    obtain ⟨id, -, rfl⟩ := List.mem_map.mp hw
    cases hp
  · intro p hp
    cases hp
  · intro past s now t hreach ih hmove
    have hkept := ih.mono fun _ _ hp => hp.append now
    cases hmove with
    | dispatcher h =>
        refine hkept.of_frame h.frame.workers ?_
        rw [arrivals, h.frame.collector, h.frame.outbound]
        exact List.Subset.refl _
    | worker k w hworker h => exact hkept.workerStep hworker h
    | collector h => exact hkept.of_frame h.frame.workers h.arrivals_subset
    | supervisor h =>
        obtain ⟨supervisor, exits, metrics, log, rfl, -, -⟩ := supervisorStep_frame h
        exact hkept.of_frame rfl (List.Subset.refl _)
    | execution ticket h =>
        refine hkept.executionStep ?_ h
        intro e k w hfind hworker hticket hending p hreturned
        obtain ⟨hhappening, hreturns, rfl⟩ := happening_of_returned hreturned
        obtain ⟨he, hmatch⟩ := find?_ticket_eq_some hfind
        have htaken := (attended_of_reachable hreach).taken hworker hticket e he hmatch
        refine ⟨htaken.returned hreturns, List.mem_append_right _ ?_⟩
        rw [hending, hhappening]
        exact List.mem_singleton.mpr rfl
    | advanced | released => exact hkept.of_frame rfl (List.Subset.refl _)

/-- A result was returned to one of the workers while it was waiting. -/
theorem returned_of_result {moves : List Move} {p : Packet Job}
    (h : (ofRun config jobs).follow moves = some s) (hp : p ∈ s.collector.results) :
    ∃ id < config.workerCount,
      ReturnedInTime jobs ((ofRun config jobs).happenings moves) id p := by
  have harrived : p ∈ s.arrivals := List.mem_append_left _ (List.mem_append_left _ hp)
  obtain ⟨id, hid, hreturned⟩ := (returned_of_follow h).arrivals p harrived
  rw [ids_of_reachable ⟨moves, h⟩, List.mem_range] at hid
  exact ⟨id, hid, hreturned⟩

/-- What a worker has got back was returned by the work that it began. -/
theorem returned_of_worker (hs : Reachable config jobs s) {w : Worker} (hw : w ∈ s.workers)
    {p : Packet Job} (hp : w.point.result? = some p) : p.IsReturned jobs w.id := by
  obtain ⟨moves, hmoves⟩ := hs
  exact ((returned_of_follow hmoves).results w hw p hp).1

end Pipeline

end Fanout
