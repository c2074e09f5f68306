import OpenEngine.Queue.LaneInvariant
import OpenEngine.Queue.LeaseHistory

/-!
# Leases of the multilane queue over a whole run

A pop of the multilane queue stamps the leases it issues with its second and nothing else. In a run
without two pops in one second, a lease key that is gone stays gone. Whatever is pushed, cancelled,
pruned or lost, a job is in one lane at most and has at most one live lease key there; each lease is
consumed at most once, and a worker whose lease is gone changes nothing any more.
-/

namespace OpenEngine.Queue

variable {ι δ ο ε : Type} [LinearOrder ι]

section Rules

variable (options : QueueOptions) (now : Nat) (property : LanePopState ι δ ο ε → Prop)
  (refresh : ∀ state laneId, property state → property (state.refreshLane now laneId))
  (gave : ∀ state laneId job store,
    state.store.popJobFromLane options now laneId = (some job, store) → property state →
    property { state with store, resultJobs := state.resultJobs ++ [(laneId, job)] })
  (passed : ∀ state laneId store,
    state.store.popJobFromLane options now laneId = (none, store) → property state →
    property { state with store := store.retireLane laneId })

include refresh gave passed

/-- What every part of a visit keeps, of the store and of what the script returns, a turn keeps. -/
theorem LanePopState.seekJob_keeps (lanes : List (String × Nat)) (state : LanePopState ι δ ο ε)
    (holds : property state) : property (state.seekJob options now lanes).1 := by
  induction lanes generalizing state with
  | nil => exact holds
  | cons head rest ih =>
    obtain ⟨laneId, lastScore⟩ := head
    unfold seekJob
    dsimp only
    have visited : property (if lastScore ≠ now then state.refreshLane now laneId else state) := by
      split
      · exact refresh state laneId holds
      · exact holds
    cases result : (if lastScore ≠ now then state.refreshLane now laneId
      else state).store.popJobFromLane options now laneId with
    | mk job store =>
      cases job with
      | none => exact ih _ (passed _ laneId store result visited)
      | some job => exact gave _ laneId job store result visited

/-- What every part of a visit keeps a batch keeps. -/
theorem LanePopState.popLanes_keeps (wanted : Nat) (lanes : List (String × Nat))
    (state : LanePopState ι δ ο ε) (holds : property state) :
    property (state.popLanes options now wanted lanes) := by
  induction wanted generalizing state lanes with
  | zero => exact holds
  | succ wanted ih =>
    have sought := state.seekJob_keeps options now property refresh gave passed lanes holds
    unfold popLanes
    cases result : state.seekJob options now lanes with
    | mk after next =>
      rw [result] at sought
      cases next with
      | none => exact sought
      | some next => exact ih next after sought

end Rules

/-- What the sweep and every part of a visit keep the pop keeps. -/
theorem MultilaneStore.popBatchJobs_keeps (options : QueueOptions) (now : Nat)
    (property : LanePopState ι δ ο ε → Prop)
    (sweep : ∀ state target, property state → property (state.sweepCancellation now target))
    (refresh : ∀ state laneId, property state → property (state.refreshLane now laneId))
    (gave : ∀ state laneId job store,
      state.store.popJobFromLane options now laneId = (some job, store) → property state →
      property { state with store, resultJobs := state.resultJobs ++ [(laneId, job)] })
    (passed : ∀ state laneId store,
      state.store.popJobFromLane options now laneId = (none, store) → property state →
      property { state with store := store.retireLane laneId })
    (store : MultilaneStore ι δ ο ε) (batchSize : Nat) (holds : property { store }) :
    property (store.popBatchJobs options now batchSize) := by
  have swept (targets : List ι) (state : LanePopState ι δ ο ε) (before : property state) :
      property (targets.foldl (LanePopState.sweepCancellation now) state) := by
    induction targets generalizing state with
    | nil => exact before
    | cons target rest ih => exact ih _ (sweep state target before)
  exact LanePopState.popLanes_keeps options now property refresh gave passed _ _ _ (swept _ _ holds)

/-! What the parts of the pop script do to the lease keys. -/

/-- Cleaning a lane up and promoting its due jobs issue no lease key and take none away. -/
theorem LanePopState.leases_refreshLane (state : LanePopState ι δ ο ε) (now : Nat)
    (laneId : String) : (state.refreshLane now laneId).store.leases = state.store.leases := by
  have cleaned (state : PopState ι δ ο ε) (id : ι) :
      (state.cleanupLease id).store.leases = state.store.leases := by
    rw [PopState.cleanupLease_eq]
    split <;> rfl
  have promoted (state : PopState ι δ ο ε) (id : ι) :
      (state.promoteDelayed id).store.leases = state.store.leases := by
    simp only [PopState.promoteDelayed]
    split <;> rfl
  simp only [refreshLane, processDelayedJobs, cleanupLaneLeases, MultilaneStore.writeKeys,
    PopState.foldl_keeps _ (fun state => state.store.leases) promoted,
    PopState.foldl_keeps _ (fun state => state.store.leases) cleaned, MultilaneStore.laneKeys]

/-- Carrying a cancellation out issues no lease key and takes none away. -/
theorem LanePopState.leases_sweepCancellation (state : LanePopState ι δ ο ε) (now : Nat)
    (target : ι) : (state.sweepCancellation now target).store.leases = state.store.leases := by
  unfold sweepCancellation
  dsimp only
  split
  · rfl
  · split
    · rfl
    · split <;> rfl

/-- A job popped from a lane is leased under the pop's second, and no other lease key is issued. -/
theorem MultilaneStore.leases_popJobFromLane (store : MultilaneStore ι δ ο ε)
    (options : QueueOptions) (now : Nat) (laneId : String) :
    (∀ job, (store.popJobFromLane options now laneId).1 = some job →
      job.leaseToken.stamp = (now, none)) ∧
    ∀ id token, token.stamp ≠ (now, none) → token ∉ store.leases id →
      token ∉ (store.popJobFromLane options now laneId).2.leases id := by
  rcases store.popJobFromLane_cases options now laneId with
    ⟨-, popped⟩ | ⟨first, target, -, -, popped⟩ | ⟨first, target, data, -, -, popped⟩
  · rw [popped]
    exact ⟨by simp, fun id token _ absent => absent⟩
  · rw [popped]
    exact ⟨by simp, fun id token _ absent => absent⟩
  · rw [popped]
    refine ⟨fun job same => ?_, fun id token other absent => ?_⟩
    · rw [← Option.some.inj same]
      rfl
    · have different : token ≠
          { now, jobId := target, attempts := (store.jobMeta target).attempts.getD 0 + 1,
            popId := none } := by
        rintro rfl
        exact other rfl
      by_cases same : id = target
      · subst same
        simp only [writeKeys, Store.leaseFromLane, Store.grantLease, Store.setMeta,
          Function.update_self, laneKeys, JobMeta.incrAttempts, Option.getD_some]
        split
        · exact fun remaining => absent (Finset.mem_of_mem_erase remaining)
        · simp [different, absent]
      · simpa [writeKeys, Store.leaseFromLane, Store.grantLease, Store.setMeta, same, laneKeys]
          using absent

/-- A pop issues no lease key but those of its own second, and stamps the jobs it hands out with
it. -/
theorem MultilaneStore.leases_popBatchJobs (store : MultilaneStore ι δ ο ε)
    (options : QueueOptions) (now : Nat) (batchSize : Nat) :
    (∀ entry ∈ (store.popBatchJobs options now batchSize).resultJobs,
      entry.2.leaseToken.stamp = (now, none)) ∧
    ∀ id token, token.stamp ≠ (now, none) → token ∉ store.leases id →
      token ∉ (store.popBatchJobs options now batchSize).store.leases id := by
  refine ⟨?_, fun id token other absent => ?_⟩
  · refine store.popBatchJobs_keeps options now
      (fun state => ∀ entry ∈ state.resultJobs, entry.2.leaseToken.stamp = (now, none)) ?_ ?_ ?_ ?_
      batchSize (by simp)
    · intro state target stamped
      have told : (state.sweepCancellation now target).resultJobs = state.resultJobs := by
        unfold LanePopState.sweepCancellation
        dsimp only
        split
        · rfl
        · split
          · rfl
          · split <;> rfl
      rwa [told]
    · exact fun state laneId stamped => stamped
    · intro state laneId job after popped stamped entry member
      rcases List.mem_append.mp member with earlier | added
      · exact stamped entry earlier
      · rw [List.mem_singleton.mp added]
        exact (state.store.leases_popJobFromLane options now laneId).1 job (by rw [popped])
    · exact fun state laneId after _ stamped => stamped
  · refine store.popBatchJobs_preserves options now (fun store => token ∉ store.leases id) ?_ ?_ ?_
      ?_ batchSize absent
    · intro state target before
      rwa [state.leases_sweepCancellation]
    · intro state laneId before
      rwa [state.leases_refreshLane]
    · intro store laneId before
      exact (store.leases_popJobFromLane options now laneId).2 id token other before
    · intro store laneId before
      unfold retireLane
      dsimp only
      split <;> exact before

/-- The second of a pop, as the stamp of its leases. -/
def LaneOp.stamp : LaneOp ι δ ο ε → Option (Nat × Option String)
  | .pop now _ => some (now, none)
  | _ => none

/-- An operation issues no lease key but those of its own stamp. -/
theorem MultilaneStore.leases_step (store : MultilaneStore ι δ ο ε) (options : QueueOptions)
    (op : LaneOp ι δ ο ε) (id : ι) {token : LeaseToken ι} (absent : token ∉ store.leases id)
    (other : op.stamp ≠ some token.stamp) : token ∉ (store.step options op).leases id := by
  cases op with
  | push now laneId job =>
    have kept : (store.pushToLane now laneId job).2.leases = store.leases := by
      unfold pushToLane
      dsimp only
      split
      · rfl
      · split <;> rfl
    rw [step, kept]
    exact absent
  | pop now batchSize =>
    exact (store.leases_popBatchJobs options now batchSize).2 id token
      (fun same => other (congrArg some same.symm)) absent
  | complete now job result =>
    simp only [step, completeJob]
    split
    · exact absent
    · rename_i laneId _
      exact (store.laneKeys laneId).leases_step options (.complete now job result) id absent
        (by simp [Op.stamp])
  | expireLease target expired =>
    simp only [step, expireLease]
    by_cases same : id = target
    · subst same
      rw [Function.update_self]
      exact fun remaining => absent (Finset.mem_of_mem_erase remaining)
    · rwa [Function.update_of_ne same]
  | postSuccess =>
    have pruned (store : MultilaneStore ι δ ο ε) (target : ι) :
        (store.pruneSucceeded target).leases = store.leases := by
      unfold pruneSucceeded
      split <;> rfl
    have kept := Transition.run_keeps MultilaneStore.leases pruned store
      (Redis.lrange store.success options.maxSuccess (-1))
    simp only [step, postSuccessCompletion]
    split
    · rw [show (List.foldl pruneSucceeded store _).leases = _ from kept]
      exact absent
    · exact absent
  | postFail =>
    have pruned (store : MultilaneStore ι δ ο ε) (target : ι) :
        (store.pruneFailed target).leases = store.leases := by
      unfold pruneFailed
      split <;> rfl
    have kept := Transition.run_keeps MultilaneStore.leases pruned store
      (Redis.lrange store.failed options.maxFailed (-1))
    simp only [step, postFailCompletion]
    split
    · rw [show (List.foldl pruneFailed store _).leases = _ from kept]
      exact absent
    · exact absent
  | cancel now target =>
    simp only [step, cancelJob]
    split
    · exact absent
    · rename_i laneId _
      exact (store.laneKeys laneId).leases_step options (.cancel now target) id absent
        (by simp [Op.stamp])

/-- A token that is absent stays absent through operations of other stamps. -/
theorem MultilaneStore.leases_run (store : MultilaneStore ι δ ο ε) (options : QueueOptions)
    (ops : List (LaneOp ι δ ο ε)) (id : ι) {token : LeaseToken ι}
    (absent : token ∉ store.leases id) (other : token.stamp ∉ ops.filterMap LaneOp.stamp) :
    token ∉ (Transition.run (MultilaneStore.step options) store ops).leases id := by
  refine Transition.run_invariant (fun store => token ∉ store.leases id) ?_ store ops absent
    (Transition.along_of_forall store ops fun op member same =>
      other (List.mem_filterMap.mpr ⟨op, member, same⟩))
  exact fun store op before apart => store.leases_step options op id before apart

/-- A live lease key carries the stamp of a pop of the run. -/
theorem MultilaneStore.stamp_of_lease (options : QueueOptions) (ops : List (LaneOp ι δ ο ε))
    (id : ι) {token : LeaseToken ι}
    (issued : token ∈ (Transition.run (MultilaneStore.step options)
      (MultilaneStore.empty : MultilaneStore ι δ ο ε) ops).leases id) :
    token.stamp ∈ ops.filterMap LaneOp.stamp := by
  by_contra other
  exact MultilaneStore.empty.leases_run options ops id (by simp [empty]) other issued

/-- A pop stamps the leases of the jobs it hands out. -/
theorem MultilaneStore.stamp_handedOut (store : MultilaneStore ι δ ο ε) (options : QueueOptions)
    (op : LaneOp ι δ ο ε) {entry : String × BorrowedJob ι δ}
    (handed : entry ∈ store.handedOut options op) :
    op.stamp = some entry.2.leaseToken.stamp := by
  cases op with
  | pop now batchSize =>
    rw [(store.leases_popBatchJobs options now batchSize).1 entry handed]
    rfl
  | _ => simp [handedOut] at handed

/-- The lease a committing completion consumes. -/
def MultilaneStore.consumed (options : QueueOptions) (store : MultilaneStore ι δ ο ε) :
    LaneOp ι δ ο ε → List (ι × LeaseToken ι)
  | .complete now job result =>
    if (store.completeJob options now job result).1 = some true then
      [(job.job.id, job.leaseToken)]
    else []
  | _ => []

/-- A completion that commits consumes a live lease key; any other changes nothing. -/
theorem MultilaneStore.completeJob_cases (store : MultilaneStore ι δ ο ε) (options : QueueOptions)
    (now : Nat) (job : BorrowedJob ι δ) (result : JobResult ο ε) :
    ((store.completeJob options now job result).1 = some true ∧
      job.leaseToken ∈ store.leases job.job.id ∧
      job.leaseToken ∉ (store.completeJob options now job result).2.leases job.job.id) ∨
    ((store.completeJob options now job result).1 ≠ some true ∧
      (store.completeJob options now job result).2 = store ∧
      ((store.jobMeta job.job.id).laneId.isSome →
        job.leaseToken ∉ store.leases job.job.id)) := by
  unfold completeJob
  cases (store.jobMeta job.job.id).laneId with
  | none => exact .inr ⟨by simp, rfl, by simp⟩
  | some laneId =>
    by_cases held : (store.laneKeys laneId).holdsLease job
    · left
      have spent : (job.job.id, job.leaseToken) ∈
          (store.laneKeys laneId).consumed (.complete now job result : Op ι δ ο ε) := by
        simp [Store.consumed, held]
      obtain ⟨-, live, gone⟩ := (store.laneKeys laneId).consumed_cases options _ spent
      refine ⟨by simp [Store.complete, held], live, ?_⟩
      exact gone
    · right
      refine ⟨by simp [Store.complete, held], by simp [Store.complete, held], fun _ => ?_⟩
      exact fun live => held (decide_eq_true live)

/-- Each lease is consumed at most once. -/
theorem MultilaneStore.consumed_nodup (options : QueueOptions) (ops : List (LaneOp ι δ ο ε))
    (fresh : (ops.filterMap LaneOp.stamp).Nodup) :
    (Transition.trace (MultilaneStore.step options) (consumed options)
      (MultilaneStore.empty : MultilaneStore ι δ ο ε) ops).Nodup := by
  have committed (store : MultilaneStore ι δ ο ε) (op : LaneOp ι δ ο ε)
      (spent : ι × LeaseToken ι) (member : spent ∈ store.consumed options op) :
      spent.2 ∈ store.leases spent.1 ∧ spent.2 ∉ (store.step options op).leases spent.1 := by
    cases op with
    | complete now job result =>
      simp only [consumed] at member
      split at member
      · rename_i done
        rw [List.mem_singleton.mp member]
        rcases store.completeJob_cases options now job result with ⟨-, live, gone⟩ | ⟨undone, -⟩
        · exact ⟨live, gone⟩
        · exact absurd done undone
      · simp at member
    | _ => simp [consumed] at member
  refine Transition.trace_nodup (fun store spent => spent.2 ∈ store.leases spent.1)
    (fun op spent => op.stamp = some spent.2.stamp) ?_ (fun store op spent member =>
      (committed store op spent member).1) (fun store op spent member =>
      (committed store op spent member).2) (fun store op spent other absent =>
      store.leases_step options op spent.1 absent other) _ ops ?_
  · intro store op
    cases op with
    | complete now job result =>
      simp only [consumed]
      split <;> simp
    | _ => simp [consumed]
  · rintro first op rest rfl spent member later inside brings
    have issued := MultilaneStore.stamp_of_lease options first spent.1
      (committed _ op spent member).1
    rw [List.filterMap_append] at fresh
    exact List.disjoint_of_nodup_append fresh issued
      (List.mem_filterMap.mpr ⟨later, List.mem_cons_of_mem _ inside, brings⟩)

/-! Requeued jobs. -/

/-- A job that the cleanup of a lane reports as timed out has lost its lease. -/
theorem PopState.leases_timedOut {id : ι} (ids : List ι) (state : PopState ι δ ο ε)
    (named : ∀ token ∈ state.store.leases id, (state.store.jobMeta id).leaseToken = some token)
    (reported : id ∈ (ids.foldl PopState.cleanupLease state).timedOutJobs) :
    id ∈ state.timedOutJobs ∨ state.store.leases id = ∅ := by
  induction ids generalizing state with
  | nil => exact .inl reported
  | cons turn rest ih =>
    rw [List.foldl_cons, PopState.cleanupLease_eq] at reported
    split at reported
    · rename_i gone
      by_cases same : turn = id
      · subst same
        right
        apply Finset.eq_empty_of_forall_notMem
        intro token live
        exact gone token (named token live) live
      · have kept : (state.requeue turn).store.jobMeta id = state.store.jobMeta id := by
          simp [PopState.requeue, Store.setMeta, Ne.symm same]
        rcases ih (state.requeue turn) (fun token live => kept ▸ named token live) reported with
          earlier | empty
        · simp only [PopState.requeue, List.mem_append, List.mem_singleton] at earlier
          exact .inl (earlier.resolve_right (Ne.symm same))
        · exact .inr empty
    · exact ih state named reported

/-- A job that a pop reports as timed out comes out of it without any lease key of another
second. -/
theorem MultilaneStore.leases_timedOut {store : MultilaneStore ι δ ο ε}
    (settled : ∀ id, store.Settled id) (options : QueueOptions) (now batchSize : Nat)
    {laneId : String} {id : ι}
    (reported : (laneId, id) ∈ (store.popBatchJobs options now batchSize).timedOutJobs)
    {token : LeaseToken ι} (other : token.stamp ≠ (now, none)) :
    token ∉ (store.popBatchJobs options now batchSize).store.leases id := by
  refine (store.popBatchJobs_keeps options now
    (fun state => state.store.Settled id ∧
      ((laneId, id) ∈ state.timedOutJobs → token ∉ state.store.leases id)) ?_ ?_ ?_ ?_ batchSize
    ⟨settled id, by simp⟩).2 reported
  · rintro state target ⟨before, gone⟩
    have told : (state.sweepCancellation now target).timedOutJobs = state.timedOutJobs := by
      unfold LanePopState.sweepCancellation
      dsimp only
      split
      · rfl
      · split
        · rfl
        · split <;> rfl
    rw [told, state.leases_sweepCancellation]
    exact ⟨state.settled_sweepCancellation before now target, gone⟩
  · rintro state visited ⟨before, gone⟩
    rw [state.leases_refreshLane]
    refine ⟨state.settled_refreshLane before now visited, fun member => ?_⟩
    rcases List.mem_append.mp member with earlier | added
    · exact gone earlier
    · obtain ⟨requeued, inside, same⟩ := List.mem_map.mp added
      obtain ⟨-, rfl⟩ := Prod.mk.inj same
      have named (token : LeaseToken ι) (live : token ∈ state.store.leases requeued) :
          (state.store.jobMeta requeued).leaseToken = some token := by
        cases lane : (state.store.jobMeta requeued).laneId with
        | none =>
          have bare : state.store.leases requeued = ∅ :=
            congrArg JobView.leases (before.blank lane "")
          rw [bare] at live
          exact absurd live (Finset.notMem_empty token)
        | some home => exact ((before.guarded home lane).held token live).2
      rcases PopState.leases_timedOut _ _ named inside with none | empty
      · simp at none
      · have bare : state.store.leases requeued = ∅ := empty
        simp [bare]
  · rintro state visited job after popped ⟨before, gone⟩
    have next := before.popJobFromLane options now visited
    have kept := (state.store.leases_popJobFromLane options now visited).2 id token other
    rw [popped] at next kept
    exact ⟨next, fun member => kept (gone member)⟩
  · rintro state visited after popped ⟨before, gone⟩
    have next := before.popJobFromLane options now visited
    have kept := (state.store.leases_popJobFromLane options now visited).2 id token other
    rw [popped] at next kept
    refine ⟨next.of_same (after.laneView_retireLane visited), fun member => ?_⟩
    have same : (after.retireLane visited).leases = after.leases := by
      unfold MultilaneStore.retireLane
      dsimp only
      split <;> rfl
    rw [same]
    exact kept (gone member)

/-! Whole runs. -/

/-- The entries of a job in the keys of a lane. -/
def MultilaneStore.entries (store : MultilaneStore ι δ ο ε) (laneId : String) (id : ι) : Nat :=
  let lane := store.lane laneId
  lane.pending.count id + (if id ∈ lane.delayed then 1 else 0) +
    if id ∈ lane.active then 1 else 0

/-- The entries of a job in the keys of a lane are its live entries there. -/
theorem MultilaneStore.entries_eq (store : MultilaneStore ι δ ο ε) (laneId : String) (id : ι) :
    store.entries laneId id = (store.laneView laneId id).live := by
  have counted (present : Prop) [Decidable present] :
      (decide present).toNat = if present then 1 else 0 := by
    by_cases holds : present <;> simp [holds]
  simp only [entries, JobView.live, laneView, laneKeys, Store.view, isSome_lookup, counted]

/-- A settled job has one entry where it has any, in the lane its metadata names, and then its data
and its dedupe entry. -/
theorem MultilaneStore.Settled.entries_pos {store : MultilaneStore ι δ ο ε} {id : ι}
    (settled : store.Settled id) {laneId : String} (present : 0 < store.entries laneId id) :
    store.entries laneId id = 1 ∧ (store.jobMeta id).laneId = some laneId ∧
      (store.jobData id).isSome ∧ id ∈ store.dedupe := by
  rw [store.entries_eq] at present ⊢
  have home := settled.home laneId present
  have guarded := settled.guarded laneId home
  exact ⟨Nat.le_antisymm guarded.one present, home, guarded.stored, guarded.known present⟩

/-- After every run, whatever was pushed, cancelled, lost or pruned: a job has entries in at most
one lane, at most one there, and then its data and its dedupe entry; it has at most one live lease
key, the one its metadata names, and is active in its lane while it has it. -/
theorem MultilaneStore.one_lane (options : QueueOptions) (ops : List (LaneOp ι δ ο ε)) (id : ι) :
    let store := Transition.run (MultilaneStore.step options)
      (MultilaneStore.empty : MultilaneStore ι δ ο ε) ops
    (∀ laneId, 0 < store.entries laneId id →
      store.entries laneId id = 1 ∧ (store.jobMeta id).laneId = some laneId ∧
        (store.jobData id).isSome ∧ id ∈ store.dedupe) ∧
    (store.leases id).card ≤ 1 ∧
    ∀ token ∈ store.leases id, (store.jobMeta id).leaseToken = some token ∧
      ∃ laneId, (store.jobMeta id).laneId = some laneId ∧ id ∈ (store.lane laneId).active := by
  intro store
  have settled : store.Settled id := MultilaneStore.settled_run options ops id
  have held (token : LeaseToken ι) (live : token ∈ store.leases id) :
      (store.jobMeta id).leaseToken = some token ∧
        ∃ laneId, (store.jobMeta id).laneId = some laneId ∧ id ∈ (store.lane laneId).active := by
    cases lane : (store.jobMeta id).laneId with
    | none =>
      have bare : store.leases id = ∅ := congrArg JobView.leases (settled.blank lane "")
      rw [bare] at live
      exact absurd live (Finset.notMem_empty token)
    | some laneId =>
      obtain ⟨active, named⟩ := (settled.guarded laneId lane).held token live
      exact ⟨named, laneId, rfl, AList.lookup_isSome.mp active⟩
  refine ⟨fun laneId present => settled.entries_pos present, ?_, held⟩
  rw [Finset.card_le_one]
  intro first firstLive second secondLive
  exact Option.some.inj ((held first firstLive).1.symm.trans (held second secondLive).1)

/-- Over a run without two pops in one second: each lease is consumed at most once, and a worker
that got its job from a pop before one that reported it as timed out changes nothing by completing
it. -/
theorem MultilaneStore.lane_lease_exclusivity (options : QueueOptions) (ops : List (LaneOp ι δ ο ε))
    (fresh : (ops.filterMap LaneOp.stamp).Nodup) :
    let store := Transition.run (MultilaneStore.step options)
      (MultilaneStore.empty : MultilaneStore ι δ ο ε) ops
    (Transition.trace (MultilaneStore.step options) (consumed options)
      (MultilaneStore.empty : MultilaneStore ι δ ο ε) ops).Nodup ∧
    ∀ first now batchSize later, ops = first ++ .pop now batchSize :: later →
      ∀ entry ∈ Transition.trace (MultilaneStore.step options) (handedOut options)
        (MultilaneStore.empty : MultilaneStore ι δ ο ε) first,
        ∀ laneId, (laneId, entry.2.job.id) ∈ ((Transition.run (MultilaneStore.step options)
          (MultilaneStore.empty : MultilaneStore ι δ ο ε) first).popBatchJobs options now
          batchSize).timedOutJobs →
        ∀ at_ result, (store.completeJob options at_ entry.2 result).1 ≠ some true ∧
          (store.completeJob options at_ entry.2 result).2 = store := by
  intro store
  refine ⟨MultilaneStore.consumed_nodup options ops fresh, ?_⟩
  rintro first now batchSize later rfl entry handed laneId reported at_ result
  obtain ⟨before, op, after, rfl, issued⟩ := Transition.mem_trace handed
  have earlier : entry.2.leaseToken.stamp ∈ (before ++ op :: after).filterMap LaneOp.stamp :=
    List.mem_filterMap.mpr ⟨op, by simp, MultilaneStore.stamp_handedOut _ options op issued⟩
  have settled : ∀ id, (Transition.run (MultilaneStore.step options)
      (MultilaneStore.empty : MultilaneStore ι δ ο ε) (before ++ op :: after)).Settled id :=
    MultilaneStore.settled_run options _
  rw [List.filterMap_append] at fresh
  have apart := List.disjoint_of_nodup_append fresh earlier
  have otherPop : entry.2.leaseToken.stamp ≠ (now, none) :=
    fun same => apart (by simp [LaneOp.stamp, same])
  have otherLater : entry.2.leaseToken.stamp ∉ later.filterMap LaneOp.stamp := fun member => by
    obtain ⟨op, inside, same⟩ := List.mem_filterMap.mp member
    exact apart (List.mem_filterMap.mpr ⟨op, List.mem_cons_of_mem _ inside, same⟩)
  have gone : entry.2.leaseToken ∉ store.leases entry.2.job.id := by
    simp only [store, Transition.run_append _ (before ++ op :: after), Transition.run_cons]
    exact MultilaneStore.leases_run _ options later _
      (MultilaneStore.leases_timedOut settled options now batchSize reported otherPop) otherLater
  rcases store.completeJob_cases options at_ entry.2 result with ⟨-, live, -⟩ | ⟨undone, same, -⟩
  · exact absurd live gone
  · exact ⟨undone, same⟩

/-- A job of the second 0, as the pop hands it out. -/
def poppedAtZero : BorrowedJob Nat String where
  job :=
    { id := 7, data := "tx", attempts := 1, createdAt := 0, processedAt := some 0,
      finishedAt := none }
  leaseToken := { now := 0, jobId := 7, attempts := 1, popId := none }

/-- A worker loses the lease of its job to a second one. -/
def lostInLane : List (LaneOp Nat String Nat String) :=
  [.push 0 "a" { data := "tx", id := 7 },
    .pop 0 1,
    .expireLease 7 poppedAtZero.leaseToken,
    .pop 40 1]

/-- The first worker of `lostInLane` can change nothing any more. -/
theorem MultilaneStore.lane_lease_exclusivity_lostInLane :
    let store := Transition.run (MultilaneStore.step {}) MultilaneStore.empty lostInLane
    (store.completeJob {} 50 poppedAtZero (.ok 1)).1 ≠ some true := by
  have exclusive := MultilaneStore.lane_lease_exclusivity {} lostInLane (by decide)
  exact (exclusive.2 (lostInLane.take 3) 40 1 [] rfl ("a", poppedAtZero) (by decide +kernel) "a"
    (by decide +kernel) 50 (.ok 1)).1

end OpenEngine.Queue
