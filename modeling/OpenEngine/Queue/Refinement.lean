import OpenEngine.Queue.Lifecycle

/-!
# The store refines the lives of its jobs

Each script is followed on the keys of one id. A script that names another id leaves them alone; a
script that names this id is one event of its life. The pop script works through lists of ids, and
its effect on one id is collected phase by phase.
-/

namespace OpenEngine.Queue

variable {ι δ ο ε : Type} [LinearOrder ι]

/-- Pushing another id leaves a job alone. -/
theorem Store.view_push_of_ne (store : Store ι δ ο ε) (now : Nat) (job : JobOptions ι δ) {id : ι}
    (different : id ≠ job.id) : (store.pushWithOutcome now job).2.view id = store.view id := by
  unfold Store.pushWithOutcome
  dsimp only
  split
  · rfl
  · split <;>
      simp [Store.view, Store.setMeta, different, different.symm, AList.lookup_insert_ne,
        List.count_append]

/-- A push of an id outside the dedupe set is the push event. -/
theorem Store.view_push_self (store : Store ι δ ο ε) (now : Nat) (job : JobOptions ι δ)
    (fresh : job.id ∉ store.dedupe) :
    (store.pushWithOutcome now job).2.view job.id = (store.view job.id).push now job := by
  unfold Store.pushWithOutcome JobView.push
  dsimp only
  rw [if_neg fresh]
  split <;> simp [Store.view, Store.setMeta, List.count_append]

/-- A push of an id outside the dedupe set creates the job. -/
theorem Store.push_created (store : Store ι δ ο ε) (now : Nat) (job : JobOptions ι δ)
    (fresh : job.id ∉ store.dedupe) : (store.pushWithOutcome now job).1 = .created := by
  unfold Store.pushWithOutcome
  dsimp only
  rw [if_neg fresh]
  split <;> rfl

/-- A push of an id in the dedupe set changes nothing. -/
theorem Store.push_duplicate (store : Store ι δ ο ε) (now : Nat) (job : JobOptions ι δ)
    (known : job.id ∈ store.dedupe) : store.pushWithOutcome now job = (.duplicate, store) := by
  simp [Store.pushWithOutcome, known]

/-- Replacing the data of another id leaves a job alone. -/
theorem Store.view_replace_of_ne (store : Store ι δ ο ε) {id other : ι} (data : δ)
    (different : id ≠ other) :
    (store.tryReplacePendingData other data).2.view id = store.view id := by
  unfold Store.tryReplacePendingData
  split
  · rfl
  split
  · rfl
  split
  · rfl
  · simp [Store.view, different]

/-- The replace script on its own id: the replace event where it answers `Replaced`, and nothing
otherwise. -/
theorem Store.replace_cases (store : Store ι δ ο ε) (id : ι) (data : δ) :
    (JobEvent.Enabled (ε := ε) {} (store.view id) (.replace data : JobEvent ι δ ο ε) ∧
      (store.tryReplacePendingData id data).1 = .replaced ∧
      (store.tryReplacePendingData id data).2.view id =
        { store.view id with data := some data }) ∨
    ((store.tryReplacePendingData id data).1 ≠ .replaced ∧
      (store.tryReplacePendingData id data).2 = store) := by
  unfold Store.tryReplacePendingData
  split
  · exact .inr ⟨nofun, rfl⟩
  rename_i stored
  split
  · exact .inr ⟨nofun, rfl⟩
  rename_i idle
  split
  · exact .inr ⟨nofun, rfl⟩
  rename_i unfinished
  refine .inl ⟨⟨?_, ?_, ?_⟩, rfl, ?_⟩
  · simpa [Store.view, Option.isSome_iff_ne_none] using stored
  · exact AList.lookup_eq_none.mpr idle
  · simpa [Store.view] using unfinished
  · simp [Store.view]

/-- Completing another job leaves a job alone. -/
theorem Store.view_applyCompletion_of_ne (store : Store ι δ ο ε) (options : QueueOptions)
    (now : Nat) (job : BorrowedJob ι δ) (result : JobResult ο ε) {id : ι}
    (different : id ≠ job.job.id) :
    (store.applyCompletion options now job result).view id = store.view id := by
  have other := different.symm
  cases result using JobResult.cases with
  | ok output =>
    simp only [Store.applyCompletion, Store.addSuccessOps, Store.releaseActive]
    split <;>
      simp [Store.view, Store.removeFromDedupeSet, Store.finish, Store.endLease,
        Store.expireLease, Store.setMeta, different, other, AList.lookup_erase_ne]
  | retry error delay position =>
    simp [Store.applyCompletion, Store.addNackOps, Store.delayUntil, Store.addErrorRecord,
      Store.view, Store.endLease, Store.expireLease, Store.setMeta, different,
      AList.lookup_erase_ne, AList.lookup_insert_ne]
  | nack error position =>
    cases position <;>
      simp [Store.applyCompletion, Store.addNackOps, Store.addErrorRecord, Store.view,
        Store.endLease, Store.expireLease, Store.setMeta, different, other,
        AList.lookup_erase_ne, List.count_append]
  | fail error =>
    simp only [Store.applyCompletion, Store.addFailOps, Store.releaseActive]
    split <;>
      simp [Store.view, Store.removeFromDedupeSet, Store.addErrorRecord, Store.finish,
        Store.endLease, Store.expireLease, Store.setMeta, different, other,
        AList.lookup_erase_ne]
  | defer delay position =>
    simp [Store.applyCompletion, Store.addDeferOps, Store.delayUntil, Store.view,
      Store.endLease, Store.expireLease, Store.setMeta, different, AList.lookup_erase_ne,
      AList.lookup_insert_ne]

/-- Completing a job is the complete event. -/
theorem Store.view_applyCompletion_self (store : Store ι δ ο ε) (options : QueueOptions)
    (now : Nat) (job : BorrowedJob ι δ) (result : JobResult ο ε) :
    (store.applyCompletion options now job result).view job.job.id =
      (store.view job.job.id).complete options now job result := by
  cases result using JobResult.cases with
  | ok output =>
    simp only [Store.applyCompletion, Store.addSuccessOps, Store.releaseActive, JobView.complete,
      JobView.StaysDeduped]
    split <;>
      simp [Store.view, Store.removeFromDedupeSet, Store.finish, Store.endLease,
        Store.expireLease, Store.setMeta, JobView.endLease, *]
  | retry error delay position =>
    simp [Store.applyCompletion, Store.addNackOps, Store.delayUntil, Store.addErrorRecord,
      Store.view, Store.endLease, Store.expireLease, Store.setMeta, JobView.complete,
      JobView.endLease, JobView.addError]
  | nack error position =>
    cases position <;>
      simp [Store.applyCompletion, Store.addNackOps, Store.addErrorRecord, Store.view,
        Store.endLease, Store.expireLease, Store.setMeta, List.count_append, JobView.complete,
        JobView.endLease, JobView.addError]
  | fail error =>
    simp only [Store.applyCompletion, Store.addFailOps, Store.releaseActive, JobView.complete,
      JobView.StaysDeduped]
    split <;>
      simp [Store.view, Store.removeFromDedupeSet, Store.addErrorRecord, Store.finish,
        Store.endLease, Store.expireLease, Store.setMeta, JobView.endLease, JobView.addError, *]
  | defer delay position =>
    simp [Store.applyCompletion, Store.addDeferOps, Store.delayUntil, Store.view,
      Store.endLease, Store.expireLease, Store.setMeta, JobView.complete, JobView.endLease,
      JobMeta.incrAttempts]

/-- The lease check of a completion. -/
theorem Store.holdsLease_iff (store : Store ι δ ο ε) (job : BorrowedJob ι δ) :
    store.holdsLease job ↔ job.leaseToken ∈ (store.view job.job.id).leases := by
  simp only [Store.holdsLease, decide_eq_true_eq, Store.view]

/-- What an event hands to a worker. -/
def JobView.handed (id : ι) (view : JobView ι δ ο ε) : JobEvent ι δ ο ε → List (BorrowedJob ι δ)
  | .lease now popId =>
    match view.data with
    | none => []
    | some data =>
      let token := nextToken id now popId view.info
      [{ job :=
          { id, data
            attempts := (parseU32 token.attempts).getD 1
            createdAt := view.info.createdAt.getD now
            processedAt := some now
            finishedAt := none }
         leaseToken := token }]
  | _ => []

/-- The events a pop at `now` under `popId` can be for one job. -/
def JobEvent.OfPop (now : Nat) (popId : String) : JobEvent ι δ ο ε → Prop
  | .requeue | .promote | .drop => True
  | .sweep at_ => at_ = now
  | .lease at_ under => at_ = now ∧ under = popId
  | _ => False

/-- What a stretch of the pop script does to one id: a run of enabled events, with the jobs it
hands out and the timeouts it reports. -/
structure PopState.Follows (options : QueueOptions) (id : ι) (start state : PopState ι δ ο ε)
    (events : List (JobEvent ι δ ο ε)) : Prop where
  enabled : Transition.Along (JobView.apply options id) (JobEvent.Enabled options)
    (start.store.view id) events
  view : state.store.view id =
    Transition.run (JobView.apply options id) (start.store.view id) events
  results : state.resultJobs.filter (·.job.id = id) =
    start.resultJobs.filter (·.job.id = id) ++
      Transition.trace (JobView.apply options id) (JobView.handed id) (start.store.view id) events
  timedOut : id ∈ state.timedOutJobs ↔ id ∈ start.timedOutJobs ∨ .requeue ∈ events

namespace PopState

variable {options : QueueOptions} {id : ι}

/-- A stretch that leaves the id's keys and its results alone. -/
theorem Follows.idle {start state : PopState ι δ ο ε}
    (view : state.store.view id = start.store.view id)
    (results : state.resultJobs.filter (·.job.id = id) =
      start.resultJobs.filter (·.job.id = id))
    (timedOut : id ∈ state.timedOutJobs ↔ id ∈ start.timedOutJobs) :
    Follows options id start state [] :=
  ⟨trivial, view, by simpa [Transition.trace] using results, by simpa using timedOut⟩

/-- Two stretches in order. -/
theorem Follows.trans {start middle state : PopState ι δ ο ε}
    {first second : List (JobEvent ι δ ο ε)} (before : Follows options id start middle first)
    (after : Follows options id middle state second) :
    Follows options id start state (first ++ second) := by
  refine ⟨?_, ?_, ?_, ?_⟩
  · rw [Transition.along_append, ← before.view]
    exact ⟨before.enabled, after.enabled⟩
  · rw [Transition.run_append, ← before.view, after.view]
  · rw [Transition.trace_append, ← before.view, after.results, before.results, List.append_assoc]
  · rw [after.timedOut, before.timedOut, List.mem_append]
    tauto

/-- A fold over distinct ids follows the id's own turn and idles through every other. -/
theorem Follows.foldl {allowed : JobEvent ι δ ο ε → Prop} (ready : JobView ι δ ο ε → Prop)
    (phase : PopState ι δ ο ε → ι → PopState ι δ ο ε)
    (self : ∀ state, ready (state.store.view id) →
      ∃ events, (∀ event ∈ events, allowed event) ∧
        Follows options id state (phase state id) events)
    (other : ∀ state turn, id ≠ turn → Follows options id state (phase state turn) [])
    (ids : List ι) (distinct : ids.Nodup) (state : PopState ι δ ο ε)
    (prepared : id ∈ ids → ready (state.store.view id)) :
    ∃ events, (∀ event ∈ events, allowed event) ∧
      Follows options id state (ids.foldl phase state) events := by
  induction ids generalizing state with
  | nil => exact ⟨[], by simp, Follows.idle rfl rfl Iff.rfl⟩
  | cons turn rest ih =>
    obtain ⟨absent, restDistinct⟩ := List.nodup_cons.mp distinct
    by_cases same : id = turn
    · subst same
      obtain ⟨first, firstAllowed, turnTaken⟩ := self state (prepared List.mem_cons_self)
      obtain ⟨later, laterAllowed, tail⟩ := ih restDistinct (phase state id) (fun member =>
        absurd member absent)
      refine ⟨first ++ later, ?_, turnTaken.trans tail⟩
      intro event member
      exact (List.mem_append.mp member).elim (firstAllowed event) (laterAllowed event)
    · have idle := other state turn same
      obtain ⟨later, laterAllowed, tail⟩ := ih restDistinct (phase state turn) (fun member => by
        rw [idle.view]
        exact prepared (List.mem_cons_of_mem _ member))
      exact ⟨later, laterAllowed, idle.trans tail⟩

omit [LinearOrder ι] in
/-- What every turn of a phase leaves alone the phase leaves alone. -/
theorem foldl_keeps {α : Type} (phase : PopState ι δ ο ε → ι → PopState ι δ ο ε)
    (read : PopState ι δ ο ε → α) (keeps : ∀ state id, read (phase state id) = read state)
    (ids : List ι) (state : PopState ι δ ο ε) : read (ids.foldl phase state) = read state :=
  Transition.run_keeps read keeps state ids

/-- Step 1 requeues an active job exactly if its lease is gone. -/
theorem cleanupLease_eq (state : PopState ι δ ο ε) (id : ι) :
    state.cleanupLease id =
      if (state.store.view id).LeaseGone then state.requeue id else state := by
  unfold cleanupLease
  cases token : (state.store.jobMeta id).leaseToken with
  | none =>
    have gone : (state.store.view id).LeaseGone := fun named found => by
      rw [show (state.store.view id).info.leaseToken = none from token] at found
      contradiction
    rw [if_pos gone]
  | some held =>
    have same : (state.store.view id).LeaseGone ↔ held ∉ state.store.leases id := by
      constructor
      · intro gone
        exact gone held token
      · intro absent named found
        rw [show (state.store.view id).info.leaseToken = some held from token] at found
        exact Option.some.inj found ▸ absent
    by_cases live : held ∈ state.store.leases id
    · rw [if_neg fun gone => same.mp gone live]
      exact if_pos live
    · rw [if_pos (same.mpr live)]
      exact if_neg live

variable (options) (id)

/-- Step 1 on an active job: a requeue when its lease key is gone. -/
theorem cleanupLease_self (now : Nat) (popId : String) (state : PopState ι δ ο ε)
    (active : (state.store.view id).active.isSome) :
    ∃ events : List (JobEvent ι δ ο ε), (∀ event ∈ events, event.OfPop now popId) ∧
      Follows options id state (state.cleanupLease id) events := by
  have requeued (gone : (state.store.view id).LeaseGone) :
      Follows options id state (state.requeue id) [.requeue] := by
    refine ⟨⟨⟨active, gone⟩, trivial⟩, ?_, ?_, ?_⟩
    · simp [requeue, Store.view, Store.setMeta, JobView.apply, JobMeta.incrAttempts]
    · simp [requeue, Transition.trace, JobView.handed]
    · simp [requeue]
  rw [cleanupLease_eq]
  by_cases gone : (state.store.view id).LeaseGone
  · rw [if_pos gone]
    exact ⟨[.requeue], by simp [JobEvent.OfPop], requeued gone⟩
  · rw [if_neg gone]
    exact ⟨[], by simp, Follows.idle rfl rfl Iff.rfl⟩

/-- Step 1 on another job. -/
theorem cleanupLease_other (state : PopState ι δ ο ε) (turn : ι) (different : id ≠ turn) :
    Follows options id state (state.cleanupLease turn) [] := by
  have requeued : Follows options id state (state.requeue turn) [] := by
    refine Follows.idle ?_ rfl ?_
    · simp [requeue, Store.view, Store.setMeta, different, different.symm, AList.lookup_erase_ne]
    · simp [requeue, different]
  rw [cleanupLease_eq]
  split
  · exact requeued
  · exact Follows.idle rfl rfl Iff.rfl

/-- Step 2 on a job whose cancellation was requested. -/
theorem sweepCancellation_self (now : Nat) (popId : String) (state : PopState ι δ ο ε)
    (requested : (state.store.view id).cancelling) :
    ∃ events : List (JobEvent ι δ ο ε), (∀ event ∈ events, event.OfPop now popId) ∧
      Follows options id state (sweepCancellation now state id) events := by
  unfold sweepCancellation
  dsimp only
  split
  · exact ⟨[], by simp, Follows.idle rfl rfl Iff.rfl⟩
  · rename_i idle
    have enabled : JobEvent.Enabled options (state.store.view id) (.sweep now) :=
      ⟨requested, AList.lookup_eq_none.mpr idle⟩
    refine ⟨[.sweep now], by simp [JobEvent.OfPop], ⟨enabled, trivial⟩, ?_, ?_, ?_⟩
    · split <;> rename_i succeeded <;>
        simp only [Redis.lpos_isNumber, decide_eq_true_eq] at succeeded <;>
        simp [Store.view, Store.setMeta, JobView.apply, List.count_pos_iff, succeeded]
    · split <;> simp [Transition.trace, JobView.handed]
    · split <;> simp

/-- Step 2 on another job. -/
theorem sweepCancellation_other (now : Nat) (state : PopState ι δ ο ε) (turn : ι)
    (different : id ≠ turn) :
    Follows options id state (sweepCancellation now state turn) [] := by
  unfold sweepCancellation
  dsimp only
  split
  · exact Follows.idle rfl rfl Iff.rfl
  · split
    · refine Follows.idle ?_ rfl Iff.rfl
      simp [Store.view, different]
    · refine Follows.idle ?_ rfl Iff.rfl
      simp [Store.view, Store.setMeta, different, different.symm]

/-- Step 3 on a due job. -/
theorem promoteDelayed_self (now : Nat) (popId : String) (state : PopState ι δ ο ε)
    (delayed : (state.store.view id).delayed.isSome) :
    ∃ events : List (JobEvent ι δ ο ε), (∀ event ∈ events, event.OfPop now popId) ∧
      Follows options id state (state.promoteDelayed id) events := by
  refine ⟨[.promote], by simp [JobEvent.OfPop], ⟨delayed, trivial⟩, ?_, ?_, ?_⟩
  · unfold promoteDelayed
    dsimp only
    split <;> simp [Store.view, Store.setMeta, JobView.apply, List.count_append]
  · simp [promoteDelayed, Transition.trace, JobView.handed]
  · simp [promoteDelayed]

/-- Step 3 on another job. -/
theorem promoteDelayed_other (state : PopState ι δ ο ε) (turn : ι) (different : id ≠ turn) :
    Follows options id state (state.promoteDelayed turn) [] := by
  refine Follows.idle ?_ rfl Iff.rfl
  unfold promoteDelayed
  dsimp only
  split <;>
    simp [Store.view, Store.setMeta, different, different.symm, AList.lookup_erase_ne,
      List.count_append]

/-- The state with the ids step 4 has taken, but not yet leased, back on pending. -/
def restore (taken : List ι) (state : PopState ι δ ο ε) : PopState ι δ ο ε :=
  { state with store := { state.store with pending := taken ++ state.store.pending } }

/-- Step 4 on the id's own turn: it leaves pending, and is handed out when its data is there. -/
theorem leaseJob_self (now : Nat) (popId : String) (state : PopState ι δ ο ε) (rest : List ι) :
    ∃ events : List (JobEvent ι δ ο ε), (∀ event ∈ events, event.OfPop now popId) ∧
      Follows options id (state.restore (id :: rest))
        ((leaseJob options now popId state id).restore rest) events := by
  unfold leaseJob
  cases stored : state.store.jobData id with
  | none =>
    refine ⟨[.drop], by simp [JobEvent.OfPop], ⟨⟨?_, ?_⟩, trivial⟩, ?_, ?_, ?_⟩
    · simp [restore, Store.view]
    · simpa [restore, Store.view] using stored
    · simp [restore, Store.view, JobView.apply]
    · simp [restore, Transition.trace, JobView.handed]
    · simp [restore]
  | some data =>
    refine ⟨[.lease now popId], by simp [JobEvent.OfPop], ⟨⟨?_, ?_⟩, trivial⟩, ?_, ?_, ?_⟩
    · simp [restore, Store.view]
    · simp [restore, Store.view, stored]
    · simp [restore, Store.view, Store.setMeta, Store.grantLease, JobView.apply, JobView.lease,
        JobView.leasedInfo, JobView.nextToken, JobMeta.incrAttempts]
    · simp [restore, Transition.trace, JobView.handed, Store.view, stored, JobView.nextToken,
        JobMeta.incrAttempts]
    · simp [restore]

/-- Step 4 on another id's turn. -/
theorem leaseJob_other (now : Nat) (popId : String) (state : PopState ι δ ο ε) (turn : ι)
    (rest : List ι) (different : id ≠ turn) :
    Follows options id (state.restore (turn :: rest))
      ((leaseJob options now popId state turn).restore rest) [] := by
  unfold leaseJob
  cases stored : state.store.jobData turn with
  | none => exact Follows.idle (by simp [restore, Store.view, different.symm]) rfl Iff.rfl
  | some data =>
    refine Follows.idle ?_ ?_ Iff.rfl
    · simp [restore, Store.view, Store.setMeta, Store.grantLease, different, different.symm,
        AList.lookup_insert_ne]
    · simp [restore, different.symm]

/-- Step 4 over the ids it has taken. -/
theorem leaseJobs_follows (now : Nat) (popId : String) (taken : List ι)
    (state : PopState ι δ ο ε) :
    ∃ events : List (JobEvent ι δ ο ε), (∀ event ∈ events, event.OfPop now popId) ∧
      Follows options id (state.restore taken)
        (taken.foldl (leaseJob options now popId) state) events := by
  induction taken generalizing state with
  | nil => exact ⟨[], by simp, Follows.idle rfl rfl Iff.rfl⟩
  | cons turn rest ih =>
    obtain ⟨later, laterAllowed, tail⟩ := ih (leaseJob options now popId state turn)
    by_cases same : id = turn
    · subst same
      obtain ⟨first, firstAllowed, head⟩ := leaseJob_self options id now popId state rest
      refine ⟨first ++ later, ?_, head.trans tail⟩
      intro event member
      exact (List.mem_append.mp member).elim (firstAllowed event) (laterAllowed event)
    · exact ⟨later, laterAllowed,
        (leaseJob_other options id now popId state turn rest same).trans tail⟩

end PopState

/-- The pop script on one id. -/
theorem Store.pop_follows (store : Store ι δ ο ε) (options : QueueOptions) (now : Nat)
    (popId : String) (batchSize : Nat) (id : ι) :
    ∃ events : List (JobEvent ι δ ο ε), (∀ event ∈ events, event.OfPop now popId) ∧
      PopState.Follows options id { store } (store.popBatchJobs options now popId batchSize)
        events := by
  unfold Store.popBatchJobs
  dsimp only
  obtain ⟨cleanup, cleanupAllowed, cleaned⟩ := PopState.Follows.foldl
    (fun view => view.active.isSome) PopState.cleanupLease
    (PopState.cleanupLease_self options id now popId) (PopState.cleanupLease_other options id)
    store.active.keys store.active.keys_nodup { store }
    (fun member => AList.lookup_isSome.mpr member)
  set afterCleanup := store.active.keys.foldl PopState.cleanupLease { store }
  obtain ⟨sweep, sweepAllowed, swept⟩ := PopState.Follows.foldl
    (fun view => view.cancelling) (PopState.sweepCancellation now)
    (PopState.sweepCancellation_self options id now popId)
    (PopState.sweepCancellation_other options id now)
    afterCleanup.store.pendingCancellations.keys
    afterCleanup.store.pendingCancellations.keys_nodup afterCleanup (fun member => member)
  set afterSweep := afterCleanup.store.pendingCancellations.keys.foldl
    (PopState.sweepCancellation now) afterCleanup
  obtain ⟨promote, promoteAllowed, promoted⟩ := PopState.Follows.foldl
    (fun view => view.delayed.isSome) PopState.promoteDelayed
    (PopState.promoteDelayed_self options id now popId) (PopState.promoteDelayed_other options id)
    (Redis.zrangeByScore afterSweep.store.delayed now) (Redis.nodup_zrangeByScore _ _) afterSweep
    (fun member => AList.lookup_isSome.mpr (Redis.mem_of_mem_zrangeByScore member))
  set afterPromote := (Redis.zrangeByScore afterSweep.store.delayed now).foldl
    PopState.promoteDelayed afterSweep
  obtain ⟨lease, leaseAllowed, leased⟩ := PopState.leaseJobs_follows options id now popId
    (afterPromote.store.pending.take batchSize) (afterPromote.takePending batchSize)
  have restored : (afterPromote.takePending batchSize).restore
      (afterPromote.store.pending.take batchSize) = afterPromote := by
    simp [PopState.restore, PopState.takePending]
  rw [restored] at leased
  refine ⟨cleanup ++ (sweep ++ (promote ++ lease)), ?_,
    cleaned.trans (swept.trans (promoted.trans leased))⟩
  intro event member
  simp only [List.mem_append] at member
  rcases member with inside | inside | inside | inside
  · exact cleanupAllowed event inside
  · exact sweepAllowed event inside
  · exact promoteAllowed event inside
  · exact leaseAllowed event inside

/-- A job is handed out by a lease event of its id, somewhere in what the pop does to the id. -/
theorem Store.handedOut_lease (store : Store ι δ ο ε) (options : QueueOptions) (op : Op ι δ ο ε)
    {job : BorrowedJob ι δ} (handed : job ∈ store.handedOut options op) :
    ∃ now popId batchSize, ∃ first rest : List (JobEvent ι δ ο ε),
      op = .pop now popId batchSize ∧
      (∀ event ∈ first ++ .lease now popId :: rest, event.OfPop now popId) ∧
      Transition.Along (JobView.apply options job.job.id) (JobEvent.Enabled options)
        (store.view job.job.id) (first ++ .lease now popId :: rest) ∧
      job ∈ JobView.handed job.job.id
        (Transition.run (JobView.apply options job.job.id) (store.view job.job.id) first)
        (.lease now popId : JobEvent ι δ ο ε) := by
  cases op with
  | pop now popId batchSize =>
    obtain ⟨events, allowed, follows⟩ := store.pop_follows options now popId batchSize job.job.id
    have own : job ∈ (store.popBatchJobs options now popId batchSize).resultJobs.filter
        (·.job.id = job.job.id) := List.mem_filter.mpr ⟨handed, by simp⟩
    rw [follows.results] at own
    simp only [List.filter_nil, List.nil_append] at own
    obtain ⟨first, event, rest, split, issued⟩ := Transition.mem_trace own
    have popped := allowed event (by simp [split])
    cases event with
    | lease at_ under =>
      obtain ⟨rfl, rfl⟩ := popped
      refine ⟨at_, under, batchSize, first, rest, rfl, ?_, ?_, issued⟩
      · rw [← split]
        exact allowed
      · rw [← split]
        exact follows.enabled
    | _ => simp [JobView.handed] at issued
  | _ => simp [Store.handedOut] at handed

/-- Presence in a hash, as the value found there. -/
theorem isSome_lookup (hash : Redis.Hash ι δ) (id : ι) :
    (hash.lookup id).isSome = decide (id ∈ hash) := by
  by_cases present : id ∈ hash
  · simp [present, AList.lookup_isSome.mpr present]
  · simp [present, AList.lookup_eq_none.mpr present]

/-- The prune scripts' liveness test reads only the id's own keys. -/
theorem Store.isLive_view (store : Store ι δ ο ε) (id : ι) :
    store.isLive id = (store.view id).isLive := by
  simp [Store.isLive, JobView.isLive, Store.view, isSome_lookup, List.count_pos_iff]

/-- Pruning another id off the success list leaves a job alone. -/
theorem Store.view_pruneSucceeded_of_ne (store : Store ι δ ο ε) {id other : ι}
    (different : id ≠ other) : (store.pruneSucceeded other).view id = store.view id := by
  unfold Store.pruneSucceeded
  split <;> simp [Store.view, Store.forget, different]

/-- Pruning an id off the success list deletes its record unless the job is live. -/
theorem Store.view_pruneSucceeded_self (store : Store ι δ ο ε) (id : ι) :
    (store.pruneSucceeded id).view id = (store.view id).settleSucceeded := by
  unfold Store.pruneSucceeded JobView.settleSucceeded
  rw [store.isLive_view]
  split <;> simp [Store.view, Store.forget, JobView.forget]

/-- Pruning another id off the failed list leaves a job alone. -/
theorem Store.view_pruneFailed_of_ne (store : Store ι δ ο ε) {id other : ι}
    (different : id ≠ other) : (store.pruneFailed other).view id = store.view id := by
  unfold Store.pruneFailed
  split <;> simp [Store.view, Store.forget, different]

/-- Pruning an id off the failed list deletes its record, but not its result, unless the job is
live. -/
theorem Store.view_pruneFailed_self (store : Store ι δ ο ε) (id : ι) :
    (store.pruneFailed id).view id = (store.view id).settleFailed := by
  unfold Store.pruneFailed JobView.settleFailed
  rw [store.isLive_view]
  split <;> simp [Store.view, Store.forget, JobView.forget]

omit [LinearOrder ι] in
/-- Pruning a record off the success list twice is pruning it once. -/
theorem JobView.settleSucceeded_settleSucceeded (view : JobView ι δ ο ε) :
    view.settleSucceeded.settleSucceeded = view.settleSucceeded := by
  unfold JobView.settleSucceeded
  by_cases live : view.isLive
  · simp only [if_pos live]
  · simp only [if_neg live, ite_eq_left_iff]
    exact fun _ => rfl

omit [LinearOrder ι] in
/-- Pruning a record off the failed list twice is pruning it once. -/
theorem JobView.settleFailed_settleFailed (view : JobView ι δ ο ε) :
    view.settleFailed.settleFailed = view.settleFailed := by
  unfold JobView.settleFailed
  by_cases live : view.isLive
  · simp only [if_pos live]
  · simp only [if_neg live, ite_eq_left_iff]
    exact fun _ => rfl

/-- The keys of one id with another success list. -/
theorem Store.view_withSuccess (store : Store ι δ ο ε) (id : ι) (success : List ι) :
    Store.view { store with success } id = { store.view id with success := success.count id } := rfl

/-- The keys of one id with another failed list. -/
theorem Store.view_withFailed (store : Store ι δ ο ε) (id : ι) (failed : List ι) :
    Store.view { store with failed } id = { store.view id with failed := failed.count id } := rfl

/-- A fold that settles an id on its first turn and leaves it alone on every other turn. -/
theorem Store.view_foldl {prune : Store ι δ ο ε → ι → Store ι δ ο ε} {id : ι}
    {settle : JobView ι δ ο ε → JobView ι δ ο ε}
    (settled : ∀ view, settle (settle view) = settle view)
    (self : ∀ store, (prune store id).view id = settle (store.view id))
    (other : ∀ store turn, id ≠ turn → (prune store turn).view id = store.view id)
    (tail : List ι) (store : Store ι δ ο ε) :
    (tail.foldl prune store).view id =
      if id ∈ tail then settle (store.view id) else store.view id := by
  induction tail generalizing store with
  | nil => simp
  | cons turn rest ih =>
    rw [List.foldl_cons, ih]
    by_cases same : id = turn
    · subst same
      simp [self, settled]
    · simp [other store turn same, same]

/-- The success prune on one id: the prune event when the id is in the tail, nothing otherwise. -/
theorem Store.view_postSuccess (store : Store ι δ ο ε) (options : QueueOptions) (id : ι) :
    (store.postSuccessCompletion options).view id =
      if id ∈ store.success.drop options.maxSuccess then
        JobView.apply options id (store.view id) (.pruneSuccess
          ((Redis.ltrim store.success 0 ((options.maxSuccess : Int) - 1)).count id))
      else store.view id := by
  unfold Store.postSuccessCompletion
  simp only [Redis.lrange_from]
  have folded := Store.view_foldl JobView.settleSucceeded_settleSucceeded
    (fun store : Store ι δ ο ε => store.view_pruneSucceeded_self id)
    (fun store turn different => store.view_pruneSucceeded_of_ne different)
    (store.success.drop options.maxSuccess) store
  by_cases trimmed : id ∈ store.success.drop options.maxSuccess
  · rw [if_pos trimmed] at folded ⊢
    rw [if_pos (List.length_pos_of_mem trimmed), Store.view_withSuccess, folded]
    rfl
  · rw [if_neg trimmed] at folded ⊢
    split
    · rw [Store.view_withSuccess, folded, Redis.count_ltrim_of_not_mem _ _ _ trimmed]
      rfl
    · rfl

/-- The failed prune on one id: the prune event when the id is in the tail, nothing otherwise. -/
theorem Store.view_postFail (store : Store ι δ ο ε) (options : QueueOptions) (id : ι) :
    (store.postFailCompletion options).view id =
      if id ∈ store.failed.drop options.maxFailed then
        JobView.apply options id (store.view id) (.pruneFailed
          ((Redis.ltrim store.failed 0 ((options.maxFailed : Int) - 1)).count id))
      else store.view id := by
  unfold Store.postFailCompletion
  simp only [Redis.lrange_from]
  have folded := Store.view_foldl JobView.settleFailed_settleFailed
    (fun store : Store ι δ ο ε => store.view_pruneFailed_self id)
    (fun store turn different => store.view_pruneFailed_of_ne different)
    (store.failed.drop options.maxFailed) store
  by_cases trimmed : id ∈ store.failed.drop options.maxFailed
  · rw [if_pos trimmed] at folded ⊢
    rw [if_pos (List.length_pos_of_mem trimmed), Store.view_withFailed, folded]
    rfl
  · rw [if_neg trimmed] at folded ⊢
    split
    · rw [Store.view_withFailed, folded, Redis.count_ltrim_of_not_mem _ _ _ trimmed]
      rfl
    · rfl

/-- The success prune is an event of every id in the tail. -/
theorem Store.enabled_pruneSuccess (store : Store ι δ ο ε) (options : QueueOptions) {id : ι}
    (trimmed : id ∈ store.success.drop options.maxSuccess) :
    JobEvent.Enabled options (store.view id) (.pruneSuccess
      ((Redis.ltrim store.success 0 ((options.maxSuccess : Int) - 1)).count id)) := by
  refine ⟨Redis.count_ltrim_le _ _ _, fun positive => ?_⟩
  have split := Redis.count_ltrim store.success options.maxSuccess id positive
  have tail := List.count_pos_iff.mpr trimmed
  simp only [Store.view]
  omega

/-- The failed prune is an event of every id in the tail. -/
theorem Store.enabled_pruneFailed (store : Store ι δ ο ε) (options : QueueOptions) {id : ι}
    (trimmed : id ∈ store.failed.drop options.maxFailed) :
    JobEvent.Enabled options (store.view id) (.pruneFailed
      ((Redis.ltrim store.failed 0 ((options.maxFailed : Int) - 1)).count id)) := by
  refine ⟨Redis.count_ltrim_le _ _ _, fun positive => ?_⟩
  have split := Redis.count_ltrim store.failed options.maxFailed id positive
  have tail := List.count_pos_iff.mpr trimmed
  simp only [Store.view]
  omega

/-- Cancelling another id leaves a job alone. -/
theorem Store.view_cancel_of_ne (store : Store ι δ ο ε) (now : Nat) {id other : ι}
    (different : id ≠ other) : (store.cancelJob now other).2.view id = store.view id := by
  unfold Store.cancelJob
  split
  · simp [Store.view, Store.cancelNow, Store.setMeta, different, different.symm, List.count_filter]
  split
  · simp [Store.view, Store.cancelNow, Store.setMeta, different, different.symm,
      AList.lookup_erase_ne]
  split
  · simp [Store.view, different]
  · rfl

/-- The cancel script on a waiting job. -/
theorem Store.view_cancel_waiting (store : Store ι δ ο ε) (options : QueueOptions) (now : Nat)
    {id : ι} (waiting : id ∈ store.pending ∨ id ∈ store.delayed) :
    JobEvent.Enabled options (store.view id) (.cancelNow now) ∧
      (store.cancelJob now id).2.view id =
        JobView.apply options id (store.view id) (.cancelNow now) := by
  unfold Store.cancelJob
  by_cases listed : id ∈ store.pending
  · refine ⟨.inl (List.count_pos_iff.mpr listed), ?_⟩
    rw [if_pos listed]
    simp [Store.view, Store.cancelNow, Store.setMeta, JobView.apply, listed,
      List.count_eq_zero_of_not_mem]
  · have delayed := waiting.resolve_left listed
    have absent : store.pending.count id = 0 := List.count_eq_zero_of_not_mem listed
    refine ⟨.inr (AList.lookup_isSome.mpr delayed), ?_⟩
    rw [if_neg listed, if_pos delayed]
    simp [Store.view, Store.cancelNow, Store.setMeta, JobView.apply, absent]

/-- The cancel script on a job that is not waiting. -/
theorem Store.view_cancel_rest (store : Store ι δ ο ε) (options : QueueOptions) (now : Nat)
    {id : ι} (rest : ¬(id ∈ store.pending ∨ id ∈ store.delayed)) :
    ∃ events : List (JobEvent ι δ ο ε), (∀ event ∈ events, event = .cancelLater) ∧
      Transition.Along (JobView.apply options id) (JobEvent.Enabled options) (store.view id)
        events ∧
      (store.cancelJob now id).2.view id =
        Transition.run (JobView.apply options id) (store.view id) events := by
  obtain ⟨unlisted, undelayed⟩ := not_or.mp rest
  unfold Store.cancelJob
  rw [if_neg unlisted, if_neg undelayed]
  by_cases active : id ∈ store.active
  · refine ⟨[.cancelLater], by simp, ⟨⟨?_, ?_, ?_⟩, trivial⟩, ?_⟩
    · exact List.count_eq_zero_of_not_mem unlisted
    · exact AList.lookup_eq_none.mpr undelayed
    · exact AList.lookup_isSome.mpr active
    · simp [Store.view, JobView.apply, active]
  · rw [if_neg active]
    exact ⟨[], by simp, trivial, rfl⟩

/-- Releasing the dedupe entry of another id leaves a job alone. -/
theorem Store.view_release_of_ne (store : Store ι δ ο ε) {id other : ι} (different : id ≠ other) :
    (store.removeFromDedupeSet other).view id = store.view id := by
  simp [Store.view, Store.removeFromDedupeSet, different]

/-- Releasing a dedupe entry is the release event. -/
theorem Store.view_release_self (store : Store ι δ ο ε) (id : ι) :
    (store.removeFromDedupeSet id).view id = { store.view id with deduped := False } := by
  simp [Store.view, Store.removeFromDedupeSet]

/-- The events an operation can be for one id. -/
def Op.Causes (id : ι) (event : JobEvent ι δ ο ε) : Op ι δ ο ε → Prop
  | .push now job => job.id = id ∧ event = .push now job
  | .replace target data => target = id ∧ event = .replace data
  | .pop now popId _ => event.OfPop now popId
  | .complete now job result => job.job.id = id ∧ event = .complete now job result
  | .expireLease target token => target = id ∧ event = .expire token
  | .postSuccess => ∃ kept, event = .pruneSuccess kept
  | .postFail => ∃ kept, event = .pruneFailed kept
  | .cancel now target => target = id ∧ (event = .cancelNow now ∨ event = .cancelLater)
  | .release target => target = id ∧ event = .release
  | .reopen now job => job.id = id ∧ (event = .release ∨ event = .push now job)

/-- Every operation is, on the keys of one id, a run of enabled events it can cause. -/
theorem Store.step_refines (store : Store ι δ ο ε) (options : QueueOptions)
    (op : Op ι δ ο ε) (id : ι) :
    ∃ events : List (JobEvent ι δ ο ε), (∀ event ∈ events, op.Causes id event) ∧
      Transition.Along (JobView.apply options id) (JobEvent.Enabled options) (store.view id)
        events ∧
      (store.step options op).view id =
        Transition.run (JobView.apply options id) (store.view id) events := by
  cases op with
  | push now job =>
    by_cases named : id = job.id
    · subst named
      by_cases known : job.id ∈ store.dedupe
      · exact ⟨[], by simp, trivial, by rw [Store.step, store.push_duplicate now job known]; rfl⟩
      · exact ⟨[.push now job], by simp [Op.Causes], ⟨known, trivial⟩,
          store.view_push_self now job known⟩
    · exact ⟨[], by simp, trivial, store.view_push_of_ne now job named⟩
  | replace target data =>
    by_cases named : id = target
    · subst named
      rcases store.replace_cases id data with ⟨enabled, -, swapped⟩ | ⟨-, unchanged⟩
      · exact ⟨[.replace data], by simp [Op.Causes], ⟨enabled, trivial⟩, swapped⟩
      · exact ⟨[], by simp, trivial, by rw [Store.step, unchanged]; rfl⟩
    · exact ⟨[], by simp, trivial, store.view_replace_of_ne data named⟩
  | pop now popId batchSize =>
    obtain ⟨events, allowed, follows⟩ := store.pop_follows options now popId batchSize id
    exact ⟨events, allowed, follows.enabled, follows.view⟩
  | complete now job result =>
    simp only [Store.step, Store.complete]
    by_cases held : store.holdsLease job
    · have leased := (store.holdsLease_iff job).mp held
      rw [if_pos held]
      by_cases named : id = job.job.id
      · subst named
        exact ⟨[.complete now job result], by simp [Op.Causes], ⟨leased, trivial⟩,
          store.view_applyCompletion_self options now job result⟩
      · exact ⟨[], by simp, trivial,
          store.view_applyCompletion_of_ne options now job result named⟩
    · rw [if_neg held]
      exact ⟨[], by simp, trivial, rfl⟩
  | expireLease target token =>
    by_cases named : id = target
    · subst named
      refine ⟨[.expire token], by simp [Op.Causes], ⟨trivial, trivial⟩, ?_⟩
      simp [Store.step, Store.expireLease, Store.view, JobView.apply]
    · refine ⟨[], by simp, trivial, ?_⟩
      simp [Store.step, Store.expireLease, Store.view, named]
  | postSuccess =>
    rw [Store.step, store.view_postSuccess options id]
    split
    · rename_i trimmed
      exact ⟨[.pruneSuccess _], by simp [Op.Causes],
        ⟨store.enabled_pruneSuccess options trimmed, trivial⟩, rfl⟩
    · exact ⟨[], by simp, trivial, rfl⟩
  | postFail =>
    rw [Store.step, store.view_postFail options id]
    split
    · rename_i trimmed
      exact ⟨[.pruneFailed _], by simp [Op.Causes],
        ⟨store.enabled_pruneFailed options trimmed, trivial⟩, rfl⟩
    · exact ⟨[], by simp, trivial, rfl⟩
  | cancel now target =>
    by_cases named : id = target
    · subst named
      by_cases waiting : id ∈ store.pending ∨ id ∈ store.delayed
      · obtain ⟨enabled, followed⟩ := store.view_cancel_waiting options now waiting
        exact ⟨[.cancelNow now], by simp [Op.Causes], ⟨enabled, trivial⟩, followed⟩
      · obtain ⟨events, allowed, enabled, followed⟩ := store.view_cancel_rest options now waiting
        exact ⟨events, fun event member => ⟨rfl, .inr (allowed event member)⟩, enabled, followed⟩
    · exact ⟨[], by simp, trivial, store.view_cancel_of_ne now named⟩
  | release target =>
    by_cases named : id = target
    · subst named
      exact ⟨[.release], by simp [Op.Causes], ⟨trivial, trivial⟩, store.view_release_self id⟩
    · exact ⟨[], by simp, trivial, store.view_release_of_ne named⟩
  | reopen now job =>
    simp only [Store.step, Store.retryFailedSlot]
    split
    · by_cases named : id = job.id
      · subst named
        have fresh : job.id ∉ (store.removeFromDedupeSet job.id).dedupe := by
          simp [Store.removeFromDedupeSet]
        refine ⟨[.release, .push now job], by simp [Op.Causes], ⟨trivial, id, trivial⟩, ?_⟩
        rw [Store.view_push_self _ now job fresh, store.view_release_self job.id]
        rfl
      · refine ⟨[], by simp, trivial, ?_⟩
        rw [Store.view_push_of_ne _ now job named, store.view_release_of_ne named]
        rfl
    · exact ⟨[], by simp, trivial, rfl⟩

/-- A property of one job that every event of an operation preserves is preserved by the
operation. -/
theorem Store.step_preserves (store : Store ι δ ο ε) (options : QueueOptions) (op : Op ι δ ο ε)
    (id : ι) (property : JobView ι δ ο ε → Prop)
    (preserved : ∀ view event, property view → op.Causes id event →
      JobEvent.Enabled options view event → property (JobView.apply options id view event))
    (before : property (store.view id)) : property ((store.step options op).view id) := by
  obtain ⟨events, caused, enabled, followed⟩ := store.step_refines options op id
  rw [followed]
  have admitted := enabled.and (Transition.along_of_forall _ events caused)
  refine Transition.run_invariant property ?_ _ events before admitted
  rintro view event holds ⟨possible, allowed⟩
  exact preserved view event holds allowed possible

end OpenEngine.Queue
