import OpenEngine.Queue.Twin
import OpenEngine.Queue.LaneRegistry

/-!
# One lane against the single-lane queue

A run of pushes, pops, completions and lease expiries is carried out by the single-lane queue and by
one lane of the multilane queue. Both requeue and promote alike, but the single-lane pop takes from
the left end of pending and a lane gives from the right end. Here each pop is reduced to the cleanup
and the promotion the two have in common and to what it then takes.
-/

namespace OpenEngine.Queue

variable {ι δ ο ε : Type}

/-- One access to either queue. A worker names its lease by the second of the pop and the attempt;
the pops are at different seconds, so the single-lane pop id is that of the second. -/
inductive SharedOp (ι δ ο ε : Type) where
  | push (now : Nat) (job : JobOptions ι δ)
  | pop (now : Nat) (batchSize : Nat)
  | complete (now : Nat) (job : Job ι δ) (stamp : Nat × Int) (result : JobResult ο ε)
  | expireLease (id : ι) (stamp : Nat × Int)

namespace SharedOp

/-- The access on the single-lane queue. -/
def onQueue (popIdOf : Nat → String) : SharedOp ι δ ο ε → Op ι δ ο ε
  | push now job => .push now job
  | pop now batchSize => .pop now (popIdOf now) batchSize
  | complete now job stamp result =>
    .complete now { job, leaseToken := LeaseToken.single popIdOf job.id stamp } result
  | expireLease id stamp => .expireLease id (LeaseToken.single popIdOf id stamp)

/-- The access on the multilane queue, every push to one lane. -/
def onLane (laneId : String) : SharedOp ι δ ο ε → LaneOp ι δ ο ε
  | push now job => .push now laneId job
  | pop now batchSize => .pop now batchSize
  | complete now job stamp result =>
    .complete now { job, leaseToken := LeaseToken.lane job.id stamp } result
  | expireLease id stamp => .expireLease id (LeaseToken.lane id stamp)

/-- The second of a pop. -/
def popSecond : SharedOp ι δ ο ε → Option Nat
  | pop now _ => some now
  | _ => none

end SharedOp

/-- No lane but one is registered, and its last visit is not after a second. -/
def MultilaneStore.OnlyLane (laneId : String) (last : Nat) (store : MultilaneStore ι δ ο ε) :
    Prop :=
  ∀ other score, store.lanes.lookup other = some score → other = laneId ∧ score ≤ last

/-- With one lane registered a pop visits it alone. -/
theorem MultilaneStore.OnlyLane.zrange {store : MultilaneStore ι δ ο ε} {laneId : String}
    {last : Nat} (only : store.OnlyLane laneId last) :
    laneId ∉ store.lanes ∧ Redis.zrange store.lanes = [] ∨
      ∃ score ≤ last, Redis.zrange store.lanes = [(laneId, score)] := by
  have named : ∀ entry ∈ Redis.zrange store.lanes, entry.1 = laneId ∧ entry.2 ≤ last :=
    fun entry member => only entry.1 entry.2 (Redis.mem_zrange.mp member)
  have names := Redis.zrange_perm store.lanes
  have distinct := names.nodup_iff.mpr store.lanes.keys_nodup
  cases listed : Redis.zrange store.lanes with
  | nil =>
    refine .inl ⟨fun present => ?_, rfl⟩
    rw [listed] at names
    exact List.not_mem_nil (names.mem_iff.mpr (AList.mem_keys.mp present))
  | cons first rest =>
    rw [listed] at named distinct
    obtain ⟨same, earlier⟩ := named first List.mem_cons_self
    refine .inr ⟨first.2, earlier, ?_⟩
    cases rest with
    | nil => rw [← same]
    | cons second rest =>
      have other := (named second (List.mem_cons_of_mem _ List.mem_cons_self)).1
      have apart := (List.nodup_cons.mp distinct).1
      rw [same] at apart
      exact absurd (by simp [other]) apart

/-- Dropping a lane from the lanes set keeps its keys. -/
theorem MultilaneStore.laneKeys_retireLane (store : MultilaneStore ι δ ο ε) (laneId : String) :
    (store.retireLane laneId).laneKeys laneId = store.laneKeys laneId := by
  unfold retireLane
  dsimp only
  split <;> rfl

variable [LinearOrder ι]

section SinglePop

variable {store : Store ι δ ο ε} (options : QueueOptions) (now : Nat) (popId : String)

/-- Without a requested cancellation a pop cleans up, promotes and takes from the left end. -/
theorem Store.popBatchJobs_uncancelled (uncancelled : ∀ id, id ∉ store.pendingCancellations)
    (batchSize : Nat) :
    ∃ state : PopState ι δ ο ε, state.store = store.readied now ∧ state.resultJobs = [] ∧
      store.popBatchJobs options now popId batchSize =
        (state.store.pending.take batchSize).foldl (PopState.leaseJob options now popId)
          (state.takePending batchSize) := by
  have requeued (state : PopState ι δ ο ε) (id : ι) :
      (state.cleanupLease id).store.pendingCancellations = state.store.pendingCancellations ∧
        (state.cleanupLease id).resultJobs = state.resultJobs := by
    rw [state.cleanupLease_eq]
    split <;> exact ⟨rfl, rfl⟩
  have cancellations := PopState.foldl_keeps PopState.cleanupLease
    (fun state => state.store.pendingCancellations) (fun state id => (requeued state id).1)
    store.active.keys { store }
  have results := PopState.foldl_keeps PopState.cleanupLease (·.resultJobs)
    (fun state id => (requeued state id).2) store.active.keys { store }
  have none : store.pendingCancellations.keys = [] :=
    List.eq_nil_iff_forall_not_mem.mpr uncancelled
  have promotes (ids : List ι) (first second : PopState ι δ ο ε)
      (same : first.store = second.store) :
      (ids.foldl PopState.promoteDelayed first).store =
        (ids.foldl PopState.promoteDelayed second).store := by
    induction ids generalizing first second with
    | nil => exact same
    | cons id rest ih => exact ih _ _ (by simp only [PopState.promoteDelayed, same])
  refine ⟨(Redis.zrangeByScore store.cleaned.delayed now).foldl PopState.promoteDelayed
    (store.active.keys.foldl PopState.cleanupLease { store }), ?_, ?_, ?_⟩
  · exact promotes _ _ _ rfl
  · rw [PopState.foldl_keeps PopState.promoteDelayed (·.resultJobs) (fun _ _ => rfl), results]
  · unfold Store.popBatchJobs
    dsimp only at cancellations ⊢
    rw [cancellations, none]
    rfl

/-- Leasing only adds to the jobs handed out. -/
theorem PopState.leaseJobs_append (taken : List ι) (state : PopState ι δ ο ε) :
    ∃ more, (taken.foldl (PopState.leaseJob options now popId) state).resultJobs =
      state.resultJobs ++ more := by
  induction taken generalizing state with
  | nil => exact ⟨[], (List.append_nil _).symm⟩
  | cons id rest ih =>
    obtain ⟨more, told⟩ := ih (PopState.leaseJob options now popId state id)
    have one : ∃ here, (PopState.leaseJob options now popId state id).resultJobs =
        state.resultJobs ++ here := by
      unfold PopState.leaseJob
      split
      · exact ⟨[], (List.append_nil _).symm⟩
      · exact ⟨_, rfl⟩
    obtain ⟨here, first⟩ := one
    exact ⟨here ++ more, by rw [List.foldl_cons, told, first, List.append_assoc]⟩

end SinglePop

section LanePop

variable (options : QueueOptions) (now : Nat) (laneId : String)

/-- A refreshed lane is cleaned up and promoted as the single-lane pop does it. -/
theorem LanePopState.laneKeys_refreshLane (state : LanePopState ι δ ο ε) :
    (state.refreshLane now laneId).store.laneKeys laneId =
      (state.store.laneKeys laneId).readied now := by
  have written (lanes : Redis.Hash String Nat) (store : MultilaneStore ι δ ο ε) :
      ({ store with lanes } : MultilaneStore ι δ ο ε).laneKeys laneId =
        store.laneKeys laneId := rfl
  unfold refreshLane
  dsimp only
  rw [written]
  unfold processDelayedJobs cleanupLaneLeases
  dsimp only
  rw [MultilaneStore.laneKeys_writeKeys, MultilaneStore.laneKeys_writeKeys]
  rfl

/-- The visits only add to the jobs handed out. -/
theorem LanePopState.popLanes_appends (wanted : Nat) (lanes : List (String × Nat))
    (state : LanePopState ι δ ο ε) :
    ∃ more, (state.popLanes options now wanted lanes).resultJobs = state.resultJobs ++ more := by
  have seeks (lanes : List (String × Nat)) (state : LanePopState ι δ ο ε) :
      ∃ more, (state.seekJob options now lanes).1.resultJobs = state.resultJobs ++ more := by
    induction lanes generalizing state with
    | nil => exact ⟨[], (List.append_nil _).symm⟩
    | cons head rest ih =>
      obtain ⟨name, score⟩ := head
      have visited : (if score ≠ now then state.refreshLane now name else state).resultJobs =
          state.resultJobs := by
        split <;> rfl
      unfold seekJob
      dsimp only
      split
      · rw [visited]
        exact ⟨_, rfl⟩
      · rename_i store _
        obtain ⟨more, told⟩ := ih
          { (if score ≠ now then state.refreshLane now name else state) with
            store := store.retireLane name }
        refine ⟨more, told.trans ?_⟩
        dsimp only
        rw [visited]
  induction wanted generalizing lanes state with
  | zero => exact ⟨[], (List.append_nil _).symm⟩
  | succ wanted ih =>
    obtain ⟨here, first⟩ := seeks lanes state
    unfold popLanes
    split
    · rename_i after same
      rw [same] at first
      exact ⟨here, first⟩
    · rename_i after next same
      rw [same] at first
      obtain ⟨more, told⟩ := ih next after
      exact ⟨here ++ more, by rw [told, first, List.append_assoc]⟩

/-- A turn over one lane starts by refreshing it, unless it was visited in this second. -/
theorem LanePopState.popLanes_refresh (wanted score : Nat) (state : LanePopState ι δ ο ε) :
    state.popLanes options now (wanted + 1) [(laneId, score)] =
      (if score ≠ now then state.refreshLane now laneId else state).popLanes options now
        (wanted + 1) [(laneId, now)] := by
  simp only [popLanes, seekJob, ne_eq, not_true_eq_false, ↓reduceIte]

/-- A turn over one lane without a pending job. -/
theorem LanePopState.popLanes_empty (wanted : Nat) (state : LanePopState ι δ ο ε)
    (empty : (state.store.lane laneId).pending = []) :
    state.popLanes options now (wanted + 1) [(laneId, now)] =
      { state with store := state.store.retireLane laneId } := by
  have popped : state.store.popJobFromLane options now laneId = (none, state.store) := by
    rcases state.store.popJobFromLane_cases options now laneId with
      ⟨-, popped⟩ | ⟨first, target, pending, -⟩ | ⟨first, target, data, pending, -⟩
    · exact popped
    · exact absurd (pending.symm.trans empty) (by simp)
    · exact absurd (pending.symm.trans empty) (by simp)
  simp only [popLanes, seekJob, ne_eq, not_true_eq_false, ↓reduceIte, popped]

/-- A turn over one lane with a pending job that has data. -/
theorem LanePopState.popLanes_serve (wanted : Nat) (state : LanePopState ι δ ο ε) {first : List ι}
    {id : ι} {data : δ} (pending : (state.store.lane laneId).pending = first ++ [id])
    (stored : state.store.jobData id = some data) :
    state.popLanes options now (wanted + 1) [(laneId, now)] =
      LanePopState.popLanes options now wanted
        { state with
          store := state.store.writeKeys laneId
            ({ state.store.laneKeys laneId with pending := first }.leaseFromLane options now id
              data).2
          resultJobs := state.resultJobs ++ [(laneId,
            ({ state.store.laneKeys laneId with pending := first }.leaseFromLane options now id
              data).1)] }
        [(laneId, now)] := by
  have popped : state.store.popJobFromLane options now laneId =
      (some ({ state.store.laneKeys laneId with pending := first }.leaseFromLane options now id
          data).1,
        state.store.writeKeys laneId
          ({ state.store.laneKeys laneId with pending := first }.leaseFromLane options now id
            data).2) := by
    rcases state.store.popJobFromLane_cases options now laneId with
      ⟨empty, -⟩ | ⟨other, target, listed, missing, -⟩ |
        ⟨other, target, found, listed, had, popped⟩
    · exact absurd (empty.symm.trans pending) (by simp)
    · obtain ⟨-, last⟩ := List.append_inj' (listed.symm.trans pending) rfl
      rw [List.singleton_inj.mp last, stored] at missing
      contradiction
    · obtain ⟨same, last⟩ := List.append_inj' (listed.symm.trans pending) rfl
      obtain rfl := List.singleton_inj.mp last
      rw [stored] at had
      rw [popped, same, Option.some.inj had]
  simp only [popLanes, seekJob, ne_eq, not_true_eq_false, ↓reduceIte, popped, List.nil_append]

end LanePop

/-- What a pop makes of the keys of a job it leases, and of any other. -/
theorem PopState.view_leaseJob (options : QueueOptions) (now : Nat) (popId : String)
    (state : PopState ι δ ο ε) {id : ι} {data : δ} (stored : state.store.jobData id = some data)
    (other : ι) :
    (PopState.leaseJob options now popId state id).store.view other =
      if other = id then
        { (state.store.view id).lease options id now popId with
          pending := (state.store.view id).pending }
      else state.store.view other := by
  unfold PopState.leaseJob
  simp only [stored]
  by_cases same : other = id
  · subst same
    simp [Store.view, Store.setMeta, Store.grantLease, JobView.lease, JobView.leasedInfo,
      JobView.nextToken, JobMeta.incrAttempts]
  · have apart : ¬id = other := fun reverse => same reverse.symm
    simp [Store.view, Store.setMeta, Store.grantLease, same, AList.lookup_insert_ne]

/-- Where a leased job goes, and that it is handed out. -/
theorem PopState.lists_leaseJob (options : QueueOptions) (now : Nat) (popId : String)
    (state : PopState ι δ ο ε) {id : ι} {data : δ}
    (stored : state.store.jobData id = some data) :
    let leased := PopState.leaseJob options now popId state id
    leased.store.pending = state.store.pending ∧ leased.store.delayed = state.store.delayed ∧
      leased.store.active =
        state.store.active.insert id ((state.store.jobMeta id).attempts.getD 0 + 1) ∧
      ∃ job, leased.resultJobs = state.resultJobs ++ [job] ∧ job.job.id = id := by
  unfold PopState.leaseJob
  simp only [stored]
  exact ⟨rfl, rfl, rfl, _, rfl, rfl⟩

/-- Twins with one pending job stay twins when both lease it. -/
theorem Store.Twin.lease {popIdOf : Nat → String} {left right : Store ι δ ο ε}
    (twin : Store.Twin popIdOf left right) (options : QueueOptions) (now : Nat) {id : ι} {data : δ}
    (alone : left.pending = [id]) (stored : left.jobData id = some data)
    (state : PopState ι δ ο ε) (taken : state.store = { left with pending := [] }) :
    Store.Twin popIdOf (PopState.leaseJob options now (popIdOf now) state id).store
      ({ right with pending := [] }.leaseFromLane options now id data).2 := by
  have waiting : 0 < (left.view id).pending := by
    simp [Store.view, alone]
  have live := left.live_of_mem (.inl (List.count_pos_iff.mp waiting))
  have attempts : (right.jobMeta id).attempts = (left.jobMeta id).attempts :=
    (twin.job id).attempts live
  have held : state.store.jobData id = some data := by
    rw [taken]
    exact stored
  obtain ⟨pending, delayed, active, -⟩ :=
    PopState.lists_leaseJob options now (popIdOf now) state held
  refine ⟨?_, ?_, ?_, fun other => ?_⟩
  · rw [pending, taken]
    rfl
  · rw [delayed, taken]
    exact twin.delayed
  · rw [active, taken]
    simp only [Store.leaseFromLane, JobMeta.incrAttempts, Option.getD_some, attempts,
      twin.active]
  · rw [PopState.view_leaseJob options now (popIdOf now) state held]
    by_cases same : other = id
    · subst same
      have leased : ({ (state.store.view other).lease options other now (popIdOf now) with
          pending := (state.store.view other).pending } : JobView ι δ ο ε) =
          (left.view other).lease options other now (popIdOf now) := by
        simp [taken, Store.view, JobView.lease, alone]
      rw [if_pos rfl, leased]
      apply (twin.job other).lease options waiting now <;>
        simp [Store.leaseFromLane, Store.grantLease, Store.setMeta, Store.view,
          JobMeta.incrAttempts, LeaseToken.lane]
    · have apart : ¬id = other := fun reverse => same reverse.symm
      have leftView : state.store.view other = left.view other := by
        simp [taken, Store.view, alone, apart]
      have rightView : (({ right with pending := [] } : Store ι δ ο ε).leaseFromLane options now id
          data).2.view other = right.view other := by
        rw [Store.view_leaseFromLane_of_ne options now _ data same]
        simp [Store.view, twin.pending, alone, apart]
      rw [if_neg same, leftView, rightView]
      exact twin.job other

end OpenEngine.Queue
