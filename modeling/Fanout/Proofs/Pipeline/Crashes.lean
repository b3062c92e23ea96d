import Fanout.Proofs.Pipeline.Compensation

/-!
Why a stage crashes. A stage panics only when it drops a packet whose work panics at being dropped, so
every panic that the caller hears of names such a task: one that went down with the dispatcher, or one
that was dropped after it was counted. The process ends only when a stage drops two of them at once
(`blamed_of_reachable`). What a collector drops was returned to a worker in time (`returned_of_crash`).
-/

namespace Fanout

/-- The packet of this task panics when a stage drops it. -/
def IsFragile (jobs : List Job) (task : Nat) : Prop :=
  ∃ job, jobs[task]? = some job ∧ job.work.panicsWhenDropped = true

/-- The message of a panic names one of these tasks, and that task is fragile. -/
def Blames (jobs : List Job) (tasks : List Nat) (message : String) : Prop :=
  ∃ task ∈ tasks, IsFragile jobs task ∧ message = "dropped " ++ toString task

/-- There are two fragile tasks among these. -/
def TwoFragile (jobs : List Job) (tasks : List Nat) : Prop :=
  ∃ i ∈ tasks, ∃ j ∈ tasks, i ≠ j ∧ IsFragile jobs i ∧ IsFragile jobs j

variable {jobs : List Job} {first second tasks : List Nat} {lost : List (Packet Job)} {message : String}

theorem Blames.mono (h : Blames jobs first message) (hsubset : first ⊆ second) :
    Blames jobs second message := by
  obtain ⟨task, htask, hfragile⟩ := h
  exact ⟨task, hsubset htask, hfragile⟩

theorem TwoFragile.mono (h : TwoFragile jobs first) (hsubset : first ⊆ second) :
    TwoFragile jobs second := by
  obtain ⟨i, hi, j, hj, hboth⟩ := h
  exact ⟨i, hsubset hi, j, hsubset hj, hboth⟩

theorem Packet.IsDrawn.isFragile {p : Packet Job} (h : p.IsDrawn jobs)
    (hpanics : p.item.work.panicsWhenDropped = true) : IsFragile jobs p.task := by
  obtain ⟨job, hjob, heq⟩ := h
  rw [heq] at hpanics
  exact ⟨job, hjob, hpanics⟩

theorem Packet.IsReturned.isFragile {worker : Nat} {p : Packet Job} (h : p.IsReturned jobs worker)
    (hpanics : p.item.work.panicsWhenDropped = true) : IsFragile jobs p.task := by
  obtain ⟨job, hjob, -, heq⟩ := h
  rw [heq] at hpanics
  exact ⟨job, hjob, hpanics⟩

/-! ### Dropping packets -/

theorem exists_of_dropPanic? (h : dropPanic? lost = some message) :
    ∃ p ∈ lost, p.item.work.panicsWhenDropped = true ∧ message = droppedMessage p := by
  obtain ⟨p, hfind, hmessage⟩ := Option.map_eq_some_iff.mp h
  have hpanics := List.find?_some hfind
  exact ⟨p, List.mem_of_find?_eq_some hfind, hpanics, hmessage.symm⟩

theorem dropPanic?_append_of_some (rest : List (Packet Job)) (h : dropPanic? lost = some message) :
    dropPanic? (lost ++ rest) = some message := by
  obtain ⟨p, hfind, rfl⟩ := Option.map_eq_some_iff.mp h
  rw [dropPanic?, List.find?_append, hfind]
  rfl

theorem countP_pos_of_dropPanic? (h : (dropPanic? lost).isSome = true) :
    0 < lost.countP (·.item.work.panicsWhenDropped) := by
  obtain ⟨message, hdrop⟩ := Option.isSome_iff_exists.mp h
  obtain ⟨p, hp, hpanics, -⟩ := exists_of_dropPanic? hdrop
  exact List.countP_pos_iff.mpr ⟨p, hp, hpanics⟩

/-- A stage that panics while it unwinds has dropped two packets that panic. -/
theorem dropAborts_append {rest : List (Packet Job)} (h : dropPanic? lost = some message)
    (hrest : (dropPanic? rest).isSome = true) : dropAborts (lost ++ rest) = true := by
  have hpositive := countP_pos_of_dropPanic? (by rw [h]; rfl)
  have hmore := countP_pos_of_dropPanic? hrest
  rw [dropAborts, List.countP_append, decide_eq_true_iff]
  omega

theorem blames_of_dropPanic? (h : dropPanic? lost = some message)
    (hfragile : ∀ p ∈ lost, p.item.work.panicsWhenDropped = true → IsFragile jobs p.task)
    (hrecorded : lost.map (·.task) ⊆ tasks) : Blames jobs tasks message := by
  obtain ⟨p, hp, hpanics, hmessage⟩ := exists_of_dropPanic? h
  exact ⟨p.task, hrecorded (List.mem_map_of_mem hp), hfragile p hp hpanics, hmessage⟩

theorem twoFragile_of_dropAborts (h : dropAborts lost = true)
    (hfragile : ∀ p ∈ lost, p.item.work.panicsWhenDropped = true → IsFragile jobs p.task)
    (hrecorded : (lost.map (·.task)).Sublist tasks) (hnodup : tasks.Nodup) :
    TwoFragile jobs tasks := by
  rw [dropAborts, decide_eq_true_iff, List.countP_eq_length_filter] at h
  obtain ⟨p, q, rest, hpanicking⟩ : ∃ p q rest,
      lost.filter (·.item.work.panicsWhenDropped) = p :: q :: rest := by
    match hfilter : lost.filter (·.item.work.panicsWhenDropped) with
    | [] | [_] => simp [hfilter] at h
    | p :: q :: rest => exact ⟨p, q, rest, hfilter⟩
  have hmem : ∀ r ∈ p :: q :: rest, r ∈ lost ∧ r.item.work.panicsWhenDropped = true := by
    rw [← hpanicking]
    exact fun r hr => List.mem_filter.mp hr
  have hsublist : ((p :: q :: rest).map (·.task)).Sublist tasks :=
    hpanicking ▸ (List.filter_sublist.map _).trans hrecorded
  have hfirst := hmem p (by simp)
  have hsecond := hmem q (by simp)
  refine ⟨p.task, hsublist.subset (by simp), q.task, hsublist.subset (by simp), ?_,
    hfragile p hfirst.1 hfirst.2, hfragile q hsecond.1 hsecond.2⟩
  have hapart := hnodup.sublist hsublist
  simp only [List.map_cons, List.nodup_cons, List.mem_cons, not_or] at hapart
  exact hapart.1.1

theorem DispatcherPoint.afterDropping_eq_crashed
    (h : DispatcherPoint.afterDropping lost = .crashed message) : dropPanic? lost = some message := by
  unfold afterDropping at h
  split at h
  next => cases h
  next hdrop =>
    cases h
    exact hdrop

theorem WorkerPoint.afterDropping_eq_crashed
    (h : WorkerPoint.afterDropping lost = .crashed message) : dropPanic? lost = some message := by
  unfold afterDropping at h
  split at h
  next => cases h
  next hdrop =>
    cases h
    exact hdrop

theorem CollectorPoint.afterDropping_eq_crashed {exit exit' : CollectorExit}
    (h : CollectorPoint.afterDropping exit lost = .crashed exit' message) :
    dropPanic? lost = some message := by
  unfold afterDropping at h
  split at h
  next => cases h
  next hdrop =>
    cases h
    exact hdrop

namespace Pipeline

variable {s t : Pipeline} {config : PipelineConfig}

/-! ### What a step drops -/

/-- The packet is on its way through the run. -/
inductive InRun (s : Pipeline) (p : Packet Job) : Prop
  | upstream (h : p ∈ s.upstream)
  | worker (w : Worker) (hw : w ∈ s.workers) (h : w.point.result? = some p)
  | downstream (h : p ∈ s.arrivals)

/-- A step that leads to `t` has dropped these packets, and has put their tasks on this record. -/
structure Drops (s t : Pipeline) (lost : List (Packet Job)) (record : List Nat) : Prop where
  inRun : ∀ p ∈ lost, s.InRun p
  recorded : (lost.map (·.task)).Sublist record
  aborted : t.aborted = true → s.aborted = true ∨ dropAborts lost = true

/-- A step that drops nothing. -/
theorem Drops.nil (record : List Nat) (h : t.aborted = s.aborted) : Drops s t [] record where
  inRun p hp := by cases hp
  recorded := List.nil_sublist _
  aborted haborted := .inl (h ▸ haborted)

theorem lostWithReceiver_sublist (c : Channel (Packet Job)) : c.lostWithReceiver.Sublist c.buffer := by
  unfold Channel.lostWithReceiver
  split
  · exact List.Sublist.refl _
  · exact List.nil_sublist _

/-- The tasks that go down with the dispatcher: those that it did not count, and those that it sent to
nobody. -/
def dispatcherDrops (s : Pipeline) : List Nat :=
  s.withheld ++ s.dispatcher.stranded.map (·.task)

theorem DispatcherStep.drops (h : DispatcherStep s t) :
    ∃ lost, Drops s t lost t.dispatcherDrops ∧
      ∀ message, t.dispatcher.point = .crashed message → dropPanic? lost = some message := by
  have hends : ∀ held, held ⊆ s.dispatcher.point.packets →
      t.dispatcher.point =
        .afterDropping (held ++ s.dispatcher.remaining ++ s.dispatcher.stranded) →
      t.dispatcherDrops = s.withheld ++ (held ++ s.dispatcher.remaining).map (·.task) ++
        s.dispatcher.stranded.map (·.task) →
      t.aborted =
        (s.aborted || dropAborts (held ++ s.dispatcher.remaining ++ s.dispatcher.stranded)) →
      ∃ lost, Drops s t lost t.dispatcherDrops ∧
        ∀ message, t.dispatcher.point = .crashed message → dropPanic? lost = some message := by
    intro held hheld hpoint hrecord haborted
    refine ⟨_, ⟨fun p hp => .upstream (List.mem_append_left _ ?_), ?_, fun h => ?_⟩,
      fun message hcrashed => DispatcherPoint.afterDropping_eq_crashed (hpoint.symm.trans hcrashed)⟩
    · simp only [List.mem_append] at hp ⊢
      exact hp.imp_left fun h => h.imp_left fun hfirst => hheld hfirst
    · rw [hrecord, List.map_append, List.append_assoc]
      exact List.sublist_append_right _ _
    · rw [haborted, Bool.or_eq_true] at h
      exact h
  cases h with
  | stopped | exhausted | unsupplied => exact hends [] (List.nil_subset _) rfl rfl rfl
  | shutdown i p hpoint | closed i p hpoint | refused i p hpoint =>
      exact hends [p] (by rw [hpoint]; exact List.Subset.refl _) rfl rfl rfl
  | drawn | reserved | counted | committed =>
      exact ⟨[], .nil _ rfl, fun message hcrashed => by cases hcrashed⟩

/-- A worker that ends drops what it held, then what is left in the handoff channel. -/
structure WorkerDrops (s t : Pipeline) (w : Worker) (point : WorkerPoint)
    (own lost : List (Packet Job)) : Prop where
  held : own.Sublist w.point.result?.toList
  left : lost.Sublist s.handoff.buffer
  recorded : ((own ++ lost).map (·.task)).Sublist t.discarded
  aborted : t.aborted = true → s.aborted = true ∨ dropAborts (own ++ lost) = true
  crashed : ∀ message, point = .crashed message → dropPanic? (own ++ lost) = some message

theorem WorkerDrops.drops {w : Worker} {point : WorkerPoint} {own lost : List (Packet Job)}
    (hw : w ∈ s.workers) (h : WorkerDrops s t w point own lost) :
    Drops s t (own ++ lost) t.discarded where
  inRun p hp := by
    rcases List.mem_append.mp hp with hheld | hleft
    · exact .worker w hw (Option.mem_toList.mp (h.held.subset hheld))
    · exact .upstream (List.mem_append_right _ (h.left.subset hleft))
  recorded := h.recorded
  aborted := h.aborted

theorem WorkerStep.drops {k : Nat} {w : Worker} (hlinked : Linked s) (hworker : s.workers[k]? = some w)
    (h : WorkerStep s k w t) :
    ∃ point own lost, t.workers = s.workers.set k { w with point } ∧
      WorkerDrops s t w point own lost := by
  have hwaits := hlinked.waits w (List.mem_of_getElem? hworker)
  have hlost := lostWithReceiver_sublist s.handoff
  have haborts : ∀ {flag : Bool}, (s.aborted || flag) = true → s.aborted = true ∨ flag = true :=
    fun h => Bool.or_eq_true _ _ ▸ h
  have hcrashes : ∀ (own : List (Packet Job)) (message : String),
      own.Sublist w.point.result?.toList → dropPanic? own = some message →
      t.discarded =
        s.discarded ++ own.map (·.task) ++ s.handoff.lostWithReceiver.map (·.task) →
      t.aborted = (s.aborted || (dropPanic? s.handoff.lostWithReceiver).isSome) →
      WorkerDrops s t w (.crashed message) own s.handoff.lostWithReceiver := by
    intro own message hown hdrop hdiscarded haborted
    refine ⟨hown, hlost, ?_, fun h => ?_, fun message' hcrashed => ?_⟩
    · rw [hdiscarded, List.map_append, List.append_assoc]
      exact List.sublist_append_right _ _
    · exact (haborts (haborted ▸ h)).imp_right fun hrest => dropAborts_append hdrop hrest
    · cases hcrashed
      exact dropPanic?_append_of_some _ hdrop
  cases h with
  | took | heardReturn | heardPanic | expired | countedTimeout | countedPanic | forwarded =>
      exact ⟨_, [], [], rfl, List.nil_sublist _, List.nil_sublist _, List.nil_sublist _, .inl,
        fun message hcrashed => by cases hcrashed⟩
  | dismissed | drained | left | dropped | unheard =>
      exact ⟨_, [], _, rfl, List.nil_sublist _, hlost, List.sublist_append_right _ _, haborts,
        fun message hcrashed => WorkerPoint.afterDropping_eq_crashed hcrashed⟩
  | leftCrashing ticket task startedAt outcome message hpoint hsignal hdrop =>
      have hown : outcome.packet?.toList.Sublist w.point.result?.toList := by
        rw [hpoint]
        exact List.Sublist.refl _
      have htask : [task] = outcome.packet?.toList.map (·.task) := by
        cases outcome with
        | returned q => exact congrArg (· :: []) ((hwaits _ _ _ _ hpoint).returned q rfl).symm
        | running | panicked => cases hdrop
      exact ⟨_, _, _, rfl, hcrashes _ message hown hdrop (by rw [← htask]; rfl) rfl⟩
  | droppedCrashing p message hpoint hsignal hdrop
  | unheardCrashing p message hpoint hsignal hreceivers hdrop =>
      have hown : [p].Sublist w.point.result?.toList := by
        rw [hpoint]
        exact List.Sublist.refl _
      exact ⟨_, _, _, rfl, hcrashes [p] message hown hdrop rfl rfl⟩

theorem CollectorStep.drops (h : CollectorStep s t) :
    ∃ lost, lost ⊆ s.outbound.buffer ∧ Drops s t lost t.discarded ∧
      ∀ exit message, t.collector.point = .crashed exit message → dropPanic? lost = some message := by
  have hnothing : t.aborted = s.aborted → (∀ exit message, t.collector.point ≠ .crashed exit message) →
      ∃ lost, lost ⊆ s.outbound.buffer ∧ Drops s t lost t.discarded ∧
        ∀ exit message, t.collector.point = .crashed exit message → dropPanic? lost = some message :=
    fun haborted hpoint => ⟨[], List.nil_subset _, .nil _ haborted,
      fun exit message hcrashed => absurd hcrashed (hpoint exit message)⟩
  cases h with
  | reported exit =>
      have hlost := (lostWithReceiver_sublist s.outbound).subset
      refine ⟨_, hlost, ⟨fun p hp => .downstream (List.mem_append_right _ (hlost hp)), ?_, fun h => ?_⟩,
        fun exit message hcrashed => CollectorPoint.afterDropping_eq_crashed hcrashed⟩
      · exact List.sublist_append_right _ _
      · exact Bool.or_eq_true _ _ ▸ h
  | reached seen | continued seen =>
      obtain ⟨log, heq, -⟩ := stopWhenEnough_eq seen s
      exact hnothing (by simp [heq]) (by simp)
  | _ => exact hnothing rfl (by simp [accept])

/-! ### The records of what was dropped -/

/-- What was dropped stays on record. -/
structure Records (s t : Pipeline) : Prop where
  withheld : s.withheld ⊆ t.withheld
  stranded : s.dispatcher.stranded ⊆ t.dispatcher.stranded
  discarded : s.discarded ⊆ t.discarded

theorem Records.dropped (h : Records s t) :
    s.withheld ++ s.discarded ⊆ t.withheld ++ t.discarded := by
  intro i hi
  rw [List.mem_append] at hi ⊢
  exact hi.imp (fun hi => h.withheld hi) fun hi => h.discarded hi

theorem Records.dispatcherDrops (h : Records s t) : s.dispatcherDrops ⊆ t.dispatcherDrops := by
  intro i hi
  rw [Pipeline.dispatcherDrops, List.mem_append] at hi ⊢
  exact hi.imp (fun hi => h.withheld hi) fun hi => List.map_subset _ h.stranded hi

theorem DispatcherStep.records (h : DispatcherStep s t) : Records s t where
  withheld := by cases h <;> simp [endDispatcher]
  stranded := by cases h <;> simp [endDispatcher]
  discarded := (MoveStep.dispatcher h).discarded_subset

theorem Records.of_frame (hdispatcher : t.dispatcher = s.dispatcher) (hwithheld : t.withheld = s.withheld)
    (hdiscarded : s.discarded ⊆ t.discarded) : Records s t where
  withheld := hwithheld ▸ List.Subset.refl _
  stranded := hdispatcher ▸ List.Subset.refl _
  discarded := hdiscarded

/-- Packets that were sent to nobody are on record as dropped, in the same order. -/
theorem stranded_sublist_of_reachable (hs : Reachable config jobs s) :
    (s.dispatcher.stranded.map (·.task)).Sublist s.discarded := by
  refine hs.induction (List.nil_sublist _) fun s m t _ ih hmove => ?_
  have hkept : t.dispatcher.stranded = s.dispatcher.stranded → s.discarded <+: t.discarded →
      (t.dispatcher.stranded.map (·.task)).Sublist t.discarded :=
    fun hstranded hgrows => hstranded ▸ ih.trans hgrows.sublist
  have hgrows := (moveStep_of_move hmove).discarded_grows
  cases moveStep_of_move hmove with
  | dispatcher h =>
      cases h with
      | committed p =>
          simp only [strand, discard, setDispatcher, List.map_append]
          exact ih.append (List.Sublist.refl _)
      | _ => exact hkept rfl hgrows
  | worker k w hworker h => exact hkept (by rw [h.frame.dispatcher]) hgrows
  | collector h => exact hkept (by rw [h.frame.dispatcher]) hgrows
  | supervisor h =>
      obtain ⟨supervisor, exits, metrics, log, rfl, -, -⟩ := supervisorStep_frame h
      exact hkept rfl hgrows
  | execution ticket h => cases h <;> exact hkept rfl hgrows
  | advanced | released => exact hkept rfl hgrows

/-- No task is dropped twice. -/
theorem Ledger.nodup_dropped {total : Nat} (hs : Ledger total s) :
    (s.withheld ++ s.discarded).Nodup := by
  have hwithheld : s.withheld.Sublist (s.tasksAt .undispatched) := List.sublist_append_right _ _
  refine List.nodup_append'.mpr
    ⟨(hs.nodup .undispatched).sublist hwithheld, hs.nodup .discarded, fun i hi hj => ?_⟩
  cases hs.apart .undispatched .discarded (hwithheld.subset hi) hj

/-! ### All reachable states -/

theorem InRun.isFragile (hs : Reachable config jobs s) {p : Packet Job} (h : s.InRun p)
    (hpanics : p.item.work.panicsWhenDropped = true) : IsFragile jobs p.task := by
  cases h with
  | upstream h => exact (drawn_of_reachable hs p h).isFragile hpanics
  | worker w hw h => exact (returned_of_worker hs hw h).isFragile hpanics
  | downstream h =>
      obtain ⟨moves, hmoves⟩ := hs
      obtain ⟨id, -, hreturned, -⟩ := (returned_of_follow hmoves).arrivals p h
      exact hreturned.isFragile hpanics

/-- Every crash, and every panic that the caller has heard of, has a fragile packet behind it that was
dropped, and the end of the process has two. -/
structure Blamed (jobs : List Job) (s : Pipeline) : Prop where
  dispatcher : ∀ message, s.dispatcher.point = .crashed message → Blames jobs s.dispatcherDrops message
  worker : ∀ w ∈ s.workers, ∀ message, w.point = .crashed message → Blames jobs s.discarded message
  collector : ∀ exit message, s.collector.point = .crashed exit message →
    Blames jobs s.discarded message
  dispatcherPanic : ∀ message, s.supervisor.panics.dispatcher = some message →
    Blames jobs s.dispatcherDrops message
  workerPanics : ∀ k message, (k, message) ∈ s.supervisor.panics.workers →
    Blames jobs s.discarded message
  aborted : s.aborted = true → TwoFragile jobs (s.withheld ++ s.discarded)

theorem Blamed.aborted_of_drops (hs : Blamed jobs s) (hreach : Reachable config jobs s)
    (ht : Reachable config jobs t) (hrecords : Records s t) {lost : List (Packet Job)}
    {record : List Nat} (hdrops : Drops s t lost record)
    (hrecord : record.Sublist (t.withheld ++ t.discarded)) (haborted : t.aborted = true) :
    TwoFragile jobs (t.withheld ++ t.discarded) := by
  rcases hdrops.aborted haborted with hbefore | hnow
  · exact (hs.aborted hbefore).mono hrecords.dropped
  · exact twoFragile_of_dropAborts hnow (fun p hp => (hdrops.inRun p hp).isFragile hreach)
      (hdrops.recorded.trans hrecord) (ledger_of_reachable ht).nodup_dropped

theorem Drops.blames (hreach : Reachable config jobs s) {lost : List (Packet Job)} {record : List Nat}
    (hdrops : Drops s t lost record) {message : String} (h : dropPanic? lost = some message) :
    Blames jobs record message :=
  blames_of_dropPanic? h (fun p hp => (hdrops.inRun p hp).isFragile hreach) hdrops.recorded.subset

theorem Blamed.dispatcherStep (hs : Blamed jobs s) (hreach : Reachable config jobs s)
    (ht : Reachable config jobs t) (h : DispatcherStep s t) : Blamed jobs t := by
  have hrecords := h.records
  have hframe := h.frame
  obtain ⟨lost, hdrops, hcrashes⟩ := h.drops
  have hrecord : t.dispatcherDrops.Sublist (t.withheld ++ t.discarded) :=
    (List.Sublist.refl _).append (stranded_sublist_of_reachable ht)
  refine ⟨fun message hpoint => hdrops.blames hreach (hcrashes message hpoint), ?_, ?_, ?_, ?_,
    hs.aborted_of_drops hreach ht hrecords hdrops hrecord⟩
  · rw [hframe.workers]
    exact fun w hw message hpoint => (hs.worker w hw message hpoint).mono hrecords.discarded
  · rw [hframe.collector]
    exact fun exit message hpoint => (hs.collector exit message hpoint).mono hrecords.discarded
  · rw [hframe.supervisor]
    exact fun message hpanic => (hs.dispatcherPanic message hpanic).mono hrecords.dispatcherDrops
  · rw [hframe.supervisor]
    exact fun k message hpanic => (hs.workerPanics k message hpanic).mono hrecords.discarded

theorem Blamed.workerStep {k : Nat} {w : Worker} (hs : Blamed jobs s)
    (hreach : Reachable config jobs s) (ht : Reachable config jobs t)
    (hworker : s.workers[k]? = some w) (h : WorkerStep s k w t) : Blamed jobs t := by
  have hframe := h.frame
  have hrecords : Records s t := .of_frame hframe.dispatcher hframe.withheld
    (MoveStep.worker k w hworker h).discarded_subset
  obtain ⟨point, own, lost, hworkers, hworkerDrops⟩ := h.drops (linked_of_reachable hreach) hworker
  have hdrops := hworkerDrops.drops (List.mem_of_getElem? hworker)
  refine ⟨?_, ?_, ?_, ?_, ?_,
    hs.aborted_of_drops hreach ht hrecords hdrops (List.sublist_append_right _ _)⟩
  · rw [hframe.dispatcher]
    exact fun message hpoint => (hs.dispatcher message hpoint).mono hrecords.dispatcherDrops
  · intro v hv message hpoint
    rw [hworkers] at hv
    rcases List.mem_or_eq_of_mem_set hv with hold | rfl
    · exact (hs.worker v hold message hpoint).mono hrecords.discarded
    · exact hdrops.blames hreach (hworkerDrops.crashed message hpoint)
  · rw [hframe.collector]
    exact fun exit message hpoint => (hs.collector exit message hpoint).mono hrecords.discarded
  · rw [hframe.supervisor]
    exact fun message hpanic => (hs.dispatcherPanic message hpanic).mono hrecords.dispatcherDrops
  · rw [hframe.supervisor]
    exact fun k message hpanic => (hs.workerPanics k message hpanic).mono hrecords.discarded

theorem Blamed.collectorStep (hs : Blamed jobs s) (hreach : Reachable config jobs s)
    (ht : Reachable config jobs t) (h : CollectorStep s t) : Blamed jobs t := by
  have hframe := h.frame
  have hrecords : Records s t := .of_frame hframe.dispatcher hframe.withheld
    (MoveStep.collector h).discarded_subset
  obtain ⟨lost, -, hdrops, hcrashes⟩ := h.drops
  refine ⟨?_, ?_, fun exit message hpoint => hdrops.blames hreach (hcrashes exit message hpoint), ?_, ?_,
    hs.aborted_of_drops hreach ht hrecords hdrops (List.sublist_append_right _ _)⟩
  · rw [hframe.dispatcher]
    exact fun message hpoint => (hs.dispatcher message hpoint).mono hrecords.dispatcherDrops
  · rw [hframe.workers]
    exact fun w hw message hpoint => (hs.worker w hw message hpoint).mono hrecords.discarded
  · rw [hframe.supervisor]
    exact fun message hpanic => (hs.dispatcherPanic message hpanic).mono hrecords.dispatcherDrops
  · rw [hframe.supervisor]
    exact fun k message hpanic => (hs.workerPanics k message hpanic).mono hrecords.discarded

/-- The caller hears of a crash from the stage that crashed. -/
theorem SupervisorStep.panics (h : SupervisorStep s t) :
    (∀ message, t.supervisor.panics.dispatcher = some message →
      s.supervisor.panics.dispatcher = some message ∨ s.dispatcher.point = .crashed message) ∧
    ∀ k message, (k, message) ∈ t.supervisor.panics.workers →
      (k, message) ∈ s.supervisor.panics.workers ∨
        ∃ w, s.workers[k]? = some w ∧ w.point = .crashed message := by
  have hkept : t.supervisor.panics = s.supervisor.panics →
      (∀ message, t.supervisor.panics.dispatcher = some message →
        s.supervisor.panics.dispatcher = some message ∨ s.dispatcher.point = .crashed message) ∧
      ∀ k message, (k, message) ∈ t.supervisor.panics.workers →
        (k, message) ∈ s.supervisor.panics.workers ∨
          ∃ w, s.workers[k]? = some w ∧ w.point = .crashed message := by
    intro heq
    rw [heq]
    exact ⟨fun _ h => .inl h, fun _ _ h => .inl h⟩
  cases h with
  | sawCollector => exact hkept rfl
  | sawDispatcher =>
      rw [afterDispatcher_eq] at hkept ⊢
      exact hkept rfl
  | sawDispatcherCrash message hpoint hcrashed =>
      rw [afterDispatcher_eq]
      refine ⟨fun message' hpanic => .inr ?_, fun _ _ h => .inl h⟩
      cases hpanic
      exact hcrashed
  | joined k rest =>
      unfold joinWorker at hkept ⊢
      split at hkept
      next id message hworker =>
        refine ⟨fun _ h => .inl h, fun k' message' hpanic => ?_⟩
        rcases List.mem_append.mp hpanic with hold | hnew
        · exact .inl hold
        · cases List.mem_singleton.mp hnew
          exact .inr ⟨_, hworker, rfl⟩
      next => exact hkept rfl
      next => exact hkept rfl
  | returned =>
      refine hkept ?_
      unfold endSupervisor
      dsimp only
      split
      · split <;> rfl
      · rfl

theorem Blamed.supervisorStep (hs : Blamed jobs s) (h : SupervisorStep s t) : Blamed jobs t := by
  obtain ⟨hdispatcher, hworkers⟩ := h.panics
  obtain ⟨supervisor, exits, metrics, log, rfl, -, -⟩ := supervisorStep_frame h
  refine ⟨hs.dispatcher, hs.worker, hs.collector, ?_, ?_, hs.aborted⟩
  · intro message hpanic
    exact (hdispatcher message hpanic).elim (hs.dispatcherPanic message) (hs.dispatcher message)
  · intro k message hpanic
    rcases hworkers k message hpanic with hold | ⟨w, hw, hpoint⟩
    · exact hs.workerPanics k message hold
    · exact hs.worker w (List.mem_of_getElem? hw) message hpoint

end Pipeline

end Fanout
