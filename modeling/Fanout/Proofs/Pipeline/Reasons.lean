import Fanout.Proofs.Pipeline.Compensation

/-!
Why tasks are given up. A worker comes to give a task up by what has happened to it (`Explained`): its
deadline came while nothing had been heard of the work (`deadlineFired_of_mem`), or the work panicked.
Since a task is given up once, it is for one of the two (`givenUp_xor`).
-/

namespace Fanout

/-- What must have happened before a worker comes to this point. -/
def WorkerPoint.reason? : WorkerPoint → Option Happening
  | .executing _ task _ .panicked => some (.panicked task)
  | .timedOut task => some (.expired task)
  | .panicked task => some (.heardPanic task)
  | _ => none

attribute [simp] WorkerPoint.reason?.eq_1 WorkerPoint.reason?.eq_2 WorkerPoint.reason?.eq_3
  WorkerPoint.reason?.eq_4

@[simp] theorem WorkerPoint.reason?_afterDropping (lost : List (Packet Job)) :
    (WorkerPoint.afterDropping lost).reason? = none :=
  apply_afterDropping reason? rfl (fun _ => rfl) lost

/-- A worker learns of a panic that it has heard of. -/
theorem WorkerPoint.reason?_of_heardPanic {closed : Bool} {point : WorkerPoint} {task : Nat}
    (h : point.happening? closed = some (.heardPanic task)) :
    point.reason? = some (.panicked task) := by
  cases point with
  | executing ticket i startedAt outcome =>
      cases closed <;> cases outcome <;> cases h
      rfl
  | _ => cases h

theorem WorkerPoint.happening?_ne_panicked (closed : Bool) (point : WorkerPoint) (task : Nat) :
    point.happening? closed ≠ some (.panicked task) := by
  intro h
  cases point with
  | executing ticket i startedAt outcome => cases closed <;> cases outcome <;> cases h
  | _ => cases h

/-- Only the end of a work that panics is a panic. -/
theorem Execution.happening_eq_panicked {e : Execution} {task : Nat}
    (h : e.happening = .panicked task) :
    e.packet.task = task ∧ e.packet.item.work.panics = true := by
  unfold happening at h
  split at h
  next hpanics =>
    cases h
    exact ⟨rfl, hpanics⟩
  next => cases h

namespace Pipeline

/-- Every worker is where it is for a reason, and a panic that a worker learns of is one of the work
itself. -/
structure Explained (jobs : List Job) (past : List Happening) (s : Pipeline) : Prop where
  points : ∀ w ∈ s.workers, ∀ x, w.point.reason? = some x → x ∈ past
  heard : ∀ task, .heardPanic task ∈ past → .panicked task ∈ past
  works : ∀ task, .panicked task ∈ past → ∃ job, jobs[task]? = some job ∧ job.work.panics = true

variable {s t : Pipeline} {past : List Happening} {config : PipelineConfig} {jobs : List Job}

/-- A worker moves on for what it makes happen. -/
theorem WorkerStep.reason?_eq {k : Nat} {w : Worker} (h : WorkerStep s k w t) :
    ∃ point, t.workers = s.workers.set k { w with point } ∧
      ∀ x, point.reason? = some x → w.point.happening? s.signal.isShutdown = some x := by
  cases h <;> refine ⟨_, rfl, ?_⟩ <;>
    simp [WorkerPoint.happening?, *]

theorem Explained.workerStep {k : Nat} {w : Worker} (hs : Explained jobs past s)
    (hworker : s.workers[k]? = some w) (h : WorkerStep s k w t) :
    Explained jobs (past ++ (w.point.happening? s.signal.isShutdown).toList) t where
  points v hv x hx := by
    obtain ⟨point, hworkers, hreason⟩ := h.reason?_eq
    rw [hworkers] at hv
    rcases List.mem_or_eq_of_mem_set hv with hold | rfl
    · exact List.mem_append_left _ (hs.points v hold x hx)
    · exact List.mem_append_right _ (Option.mem_toList.mpr (hreason x hx))
  heard task htask := by
    refine List.mem_append_left _ ?_
    rcases List.mem_append.mp htask with hold | hnew
    · exact hs.heard task hold
    · have hreason := WorkerPoint.reason?_of_heardPanic (Option.mem_toList.mp hnew)
      exact hs.points w (List.mem_of_getElem? hworker) _ hreason
  works task htask := by
    rcases List.mem_append.mp htask with hold | hnew
    · exact hs.works task hold
    · exact absurd (Option.mem_toList.mp hnew) (WorkerPoint.happening?_ne_panicked _ _ task)

theorem Explained.executionStep {ticket : Nat} (hs : Explained jobs past s) (hlinked : Linked s)
    (hattended : Attended jobs s) (h : ExecutionStep s ticket t) :
    Explained jobs (past ++ (s.ending? ticket).toList) t := by
  cases h with
  | delivered e k w task startedAt hfind hend hworker hpoint =>
      obtain ⟨he, hticket⟩ := find?_ticket_eq_some hfind
      have hw := List.mem_of_getElem? hworker
      rw [ending?_of_waiting hfind hworker hpoint]
      refine ⟨?_, ?_, ?_⟩
      · intro v hv x hx
        rcases List.mem_or_eq_of_mem_set hv with hold | rfl
        · exact List.mem_append_left _ (hs.points v hold x hx)
        · have htask : e.packet.task = task := (hlinked.waits w hw _ _ _ _ hpoint).packet e he hticket
          refine List.mem_append_right _ ?_
          by_cases hpanics : e.packet.item.work.panics
          · simp only [outcomeOf, hpanics, if_pos, WorkerPoint.reason?, Option.some.injEq] at hx
            simp [Execution.happening, hpanics, htask, hx]
          · simp [outcomeOf, hpanics, WorkerPoint.reason?] at hx
      · intro i hi
        rcases List.mem_append.mp hi with hold | hnew
        · exact List.mem_append_left _ (hs.heard i hold)
        · have hheard := List.mem_singleton.mp hnew
          unfold Execution.happening at hheard
          split at hheard <;> cases hheard
      · intro i hi
        rcases List.mem_append.mp hi with hold | hnew
        · exact hs.works i hold
        · obtain ⟨rfl, hpanics⟩ := Execution.happening_eq_panicked (List.mem_singleton.mp hnew).symm
          obtain ⟨job, hjob, hpacket⟩ := hattended.taken hworker (by rw [hpoint]; rfl) e he hticket
          refine ⟨job, hjob, ?_⟩
          rw [hpacket] at hpanics
          exact hpanics
  | late e hfind hend hunheard =>
      have hnothing : s.ending? ticket = none := by
        by_contra hsome
        obtain ⟨x, hx⟩ := Option.ne_none_iff_exists'.mp hsome
        obtain ⟨k, task, startedAt, -, w, -, hworker, hpoint, -⟩ := ending?_eq_some hx
        exact hunheard w (List.mem_of_getElem? hworker) task startedAt hpoint
      rw [hnothing, Option.toList_none, List.append_nil]
      exact ⟨hs.points, hs.heard, hs.works⟩

theorem explained_of_follow {moves : List Move} (h : (ofRun config jobs).follow moves = some s) :
    Explained jobs ((ofRun config jobs).happenings moves) s := by
  refine traced_induction (P := Explained jobs) h ⟨?_, ?_, ?_⟩ ?_
  · intro w hw x hx
    obtain ⟨id, -, rfl⟩ := List.mem_map.mp hw
    cases hx
  · intro task htask
    cases htask
  · intro task htask
    cases htask
  · intro past s now t hreach ih hmove
    have hkept (hworkers : t.workers = s.workers) :
        Explained jobs (past ++ (none : Option Happening).toList) t := by
      rw [Option.toList_none, List.append_nil]
      exact ⟨hworkers ▸ ih.points, ih.heard, ih.works⟩
    cases hmove with
    | dispatcher h => exact hkept h.frame.workers
    | worker k w hworker h => exact ih.workerStep hworker h
    | collector h => exact hkept h.frame.workers
    | supervisor h =>
        obtain ⟨supervisor, exits, metrics, log, rfl, -, -⟩ := supervisorStep_frame h
        exact hkept rfl
    | execution ticket h =>
        exact ih.executionStep (linked_of_reachable hreach) (attended_of_reachable hreach) h
    | advanced | released => exact hkept rfl

/-! ### The deadline -/

/-- In a run of these moves the deadline of a task came while its worker had heard nothing of the
work. -/
def DeadlineFired (config : PipelineConfig) (jobs : List Job) (moves : List Move) (task : Nat) :
    Prop :=
  ∃ (before after : List Move) (k ticket startedAt : Nat) (w : Worker) (u : Pipeline),
    moves = before ++ .act (.worker k) :: after ∧ (ofRun config jobs).follow before = some u ∧
    u.workers[k]? = some w ∧ w.point = .executing ticket task startedAt .running ∧
    startedAt + u.taskTimeoutMs ≤ u.now

theorem deadlineFired_of_mem {moves : List Move} {task : Nat}
    (h : (ofRun config jobs).follow moves = some s)
    (hexpired : .expired task ∈ (ofRun config jobs).happenings moves) :
    DeadlineFired config jobs moves task := by
  obtain ⟨before, m, after, u, rfl, hbefore, hnow⟩ := exists_of_mem_happenings hexpired
  rw [follow_append, hbefore, Option.bind_some, follow] at h
  obtain ⟨v, hv, -⟩ := Option.bind_eq_some_iff.mp h
  cases m with
  | act actor =>
      cases actor with
      | worker k =>
          obtain ⟨w, hworker, hstep⟩ := workerStep_of_step hv
          rw [happening?, hworker] at hnow
          rcases hstep.happening_cases hnow with
            ⟨ticket, task, startedAt, hpoint, hdeadline, heq⟩ | ⟨_, _, _, -, heq⟩ | ⟨_, -, heq⟩
          · cases heq
            exact ⟨before, after, k, ticket, startedAt, w, u, rfl, hbefore, hworker, hpoint, hdeadline⟩
          · cases heq
          · cases heq
      | execution ticket =>
          obtain ⟨_, _, _, e, _, -, -, -, hending⟩ := ending?_eq_some hnow
          unfold Execution.happening at hending
          split at hending <;> cases hending
      | dispatcher | collector | supervisor => cases hnow
  | advance | release => cases hnow

/-! ### One reason for each task -/

theorem count_givenUp (past : List Happening) (task : Nat) :
    (past.filterMap Happening.givenUp?).count task =
      past.count (.expired task) + past.count (.heardPanic task) := by
  induction past with
  | nil => rfl
  | cons x rest ih =>
      cases x <;> simp [List.filterMap_cons, Happening.givenUp?, List.count_cons, ih] <;> omega

/-- A task that was given up was given up for its deadline or for a panic, and not for both. -/
theorem givenUp_xor {task : Nat} (hledger : Ledger jobs.length s) (hs : Accounted past s)
    (htask : task ∈ s.abandonedTasks) : Xor (.expired task ∈ past) (.heardPanic task ∈ past) := by
  have hcount := hs.givenUp fun j => if j = task then 1 else 0
  rw [weigh_indicator, weigh_indicator, weigh_indicator, count_givenUp] at hcount
  have hnodup : s.abandonedTasks.Nodup := hledger.nodup .abandoned
  have honce := List.nodup_iff_count_le_one.mp hnodup task
  have hnowhere : s.givingUp.count task = 0 := by
    refine List.count_eq_zero.mpr fun hgiving => ?_
    obtain ⟨k, w, -, -, hheld⟩ := exists_of_mem_givingUp hgiving
    cases hledger.apart .abandoned (.worker k) htask hheld
  rcases givenUp_of_mem hs (.inl htask) with hexpired | hpanic
  · have hpos := List.count_pos_iff.mpr hexpired
    exact .inl ⟨hexpired, List.count_eq_zero.mp (by omega)⟩
  · have hpos := List.count_pos_iff.mpr hpanic
    exact .inr ⟨hpanic, List.count_eq_zero.mp (by omega)⟩

end Pipeline

end Fanout
