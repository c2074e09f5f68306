import Mathlib.Data.String.Basic
import OpenEngine.Queue.Operations

/-!
# The multilane queue

`MultilaneStore` holds every Redis key of one `MultilaneQueue` (`queue/src/multilane.rs`). Pending,
delayed and active are keys of a lane, the rest belongs to the queue. A completion, the cleanup of
lapsed leases and the promotion of due jobs are the single-lane scripts on the keys of one lane, so
they are the single-lane definitions run on `laneKeys`; push, cancel, pop and the prunes are scripts
of their own.
-/

namespace OpenEngine.Queue

variable {ι δ ο ε : Type}

/-- The keys of one lane. -/
structure Lane (ι : Type) where
  /-- `:lane:{lane}:pending`, its left end first. -/
  pending : List ι := []
  /-- `:lane:{lane}:delayed`, members with the second they are due. -/
  delayed : Redis.Hash ι Nat := ∅
  /-- `:lane:{lane}:active`, ids with their attempt count. -/
  active : Redis.Hash ι Int := ∅

/-- Every key of one multilane queue. -/
structure MultilaneStore (ι δ ο ε : Type) where
  /-- `queue_multilane:{id}:lanes`, lanes with the second of their last visit; zero is never. -/
  lanes : Redis.Hash String Nat
  /-- The keys of each lane. -/
  lane : String → Lane ι
  /-- `queue_multilane:{id}:success`, newest first. -/
  success : List ι
  /-- `queue_multilane:{id}:failed`, newest first. -/
  failed : List ι
  /-- `queue_multilane:{id}:jobs:data`. -/
  jobData : ι → Option δ
  /-- `queue_multilane:{id}:job:{id}:meta`. -/
  jobMeta : ι → JobMeta ι
  /-- `queue_multilane:{id}:job:{id}:errors`, newest first. -/
  jobErrors : ι → List (JobErrorRecord ε)
  /-- `queue_multilane:{id}:jobs:result`. -/
  jobResult : ι → Option ο
  /-- `queue_multilane:{id}:dedup`. -/
  dedupe : Finset ι
  /-- `queue_multilane:{id}:pending_cancellations`. -/
  pendingCancellations : Redis.Hash ι Unit
  /-- The tokens of the live `queue_multilane:{id}:job:{id}:lease:{token}` keys. -/
  leases : ι → Finset (LeaseToken ι)

/-- The store before the first push. -/
def MultilaneStore.empty : MultilaneStore ι δ ο ε where
  lanes := ∅
  lane _ := {}
  success := []
  failed := []
  jobData _ := none
  jobMeta _ := {}
  jobErrors _ := []
  jobResult _ := none
  dedupe := ∅
  pendingCancellations := ∅
  leases _ := ∅

/-- `completion_keys`: the keys a script on one lane works with, the lane's own and the queue's. -/
def MultilaneStore.laneKeys (store : MultilaneStore ι δ ο ε) (laneId : String) :
    Store ι δ ο ε where
  pending := (store.lane laneId).pending
  delayed := (store.lane laneId).delayed
  active := (store.lane laneId).active
  success := store.success
  failed := store.failed
  jobData := store.jobData
  jobMeta := store.jobMeta
  jobErrors := store.jobErrors
  jobResult := store.jobResult
  dedupe := store.dedupe
  pendingCancellations := store.pendingCancellations
  leases := store.leases

/-- The store after a script on one lane has left its keys so. -/
def MultilaneStore.writeKeys (store : MultilaneStore ι δ ο ε) (laneId : String)
    (keys : Store ι δ ο ε) : MultilaneStore ι δ ο ε where
  lanes := store.lanes
  lane := Function.update store.lane laneId
    { pending := keys.pending, delayed := keys.delayed, active := keys.active }
  success := keys.success
  failed := keys.failed
  jobData := keys.jobData
  jobMeta := keys.jobMeta
  jobErrors := keys.jobErrors
  jobResult := keys.jobResult
  dedupe := keys.dedupe
  pendingCancellations := keys.pendingCancellations
  leases := keys.leases

variable [LinearOrder ι]

/-- `push_to_lane`: an id in the dedupe set is skipped; any other is stored over what is left of an
earlier job, and its lane is registered. The job is returned either way. -/
def MultilaneStore.pushToLane (store : MultilaneStore ι δ ο ε) (now : Nat) (laneId : String)
    (job : JobOptions ι δ) : Job ι δ × MultilaneStore ι δ ο ε :=
  let returned : Job ι δ :=
    { id := job.id, data := job.data, attempts := 0, createdAt := now, processedAt := none,
      finishedAt := none }
  if job.id ∈ store.dedupe then (returned, store)
  else
    let delay := job.delay.getD ⟨.zero, .last⟩
    let delaySecs := delayToQueueSeconds delay.delay
    let info := { store.jobMeta job.id with
      createdAt := some now, attempts := some 0, laneId := some laneId }
    let lane := store.lane laneId
    let stored : MultilaneStore ι δ ο ε :=
      { store with
        jobData := Function.update store.jobData job.id (some job.data)
        dedupe := insert job.id store.dedupe
        lanes := Redis.zaddNx store.lanes laneId 0 }
    if 0 < delaySecs then
      (returned,
        { stored with
          jobMeta := Function.update store.jobMeta job.id
            { info with reentryPosition := some delay.position }
          lane := Function.update store.lane laneId
            { lane with delayed := lane.delayed.insert job.id (now + delaySecs) } })
    else
      (returned,
        { stored with
          jobMeta := Function.update store.jobMeta job.id info
          lane := Function.update store.lane laneId
            { lane with pending := lane.pending ++ [job.id] } })

/-- `get_job`. -/
def MultilaneStore.getJob (store : MultilaneStore ι δ ο ε) (id : ι) : Option (Job ι δ) :=
  (store.jobData id).map fun data => jobOf id data (store.jobMeta id)

/-- `cancel_job`: the lane comes from the job's metadata, and there the script is the single-lane
one. -/
def MultilaneStore.cancelJob (store : MultilaneStore ι δ ο ε) (now : Nat) (id : ι) :
    CancelResult × MultilaneStore ι δ ο ε :=
  match (store.jobMeta id).laneId with
  | none => (.notFound, store)
  | some laneId =>
    let (result, keys) := (store.laneKeys laneId).cancelJob now id
    (result, store.writeKeys laneId keys)

/-- The TTL of a lease key running out, or the key being gone already. -/
def MultilaneStore.expireLease (store : MultilaneStore ι δ ο ε) (id : ι) (token : LeaseToken ι) :
    MultilaneStore ι δ ο ε :=
  { store with leases := Function.update store.leases id ((store.leases id).erase token) }

/-- `complete_job` with the lane lookup, the lease check and the commit as one atomic step: whether
it committed, or nothing when the metadata names no lane. -/
def MultilaneStore.completeJob (store : MultilaneStore ι δ ο ε) (options : QueueOptions)
    (now : Nat) (job : BorrowedJob ι δ) (result : JobResult ο ε) :
    Option Bool × MultilaneStore ι δ ο ε :=
  match (store.jobMeta job.job.id).laneId with
  | none => (none, store)
  | some laneId =>
    let (committed, keys) := (store.laneKeys laneId).complete options now job result
    (some committed, store.writeKeys laneId keys)

/-- The store and the local tables of a running pop script; every entry carries its lane. -/
structure LanePopState (ι δ ο ε : Type) where
  store : MultilaneStore ι δ ο ε
  resultJobs : List (String × BorrowedJob ι δ) := []
  timedOutJobs : List (String × ι) := []
  cancelledJobs : List (String × ι) := []

/-- `cleanup_lane_leases`. -/
def LanePopState.cleanupLaneLeases (state : LanePopState ι δ ο ε) (laneId : String) :
    LanePopState ι δ ο ε :=
  let keys := state.store.laneKeys laneId
  let cleaned := keys.active.keys.foldl PopState.cleanupLease { store := keys }
  { state with
    store := state.store.writeKeys laneId cleaned.store
    timedOutJobs := state.timedOutJobs ++ cleaned.timedOutJobs.map fun id => (laneId, id) }

/-- `process_delayed_jobs`. -/
def LanePopState.processDelayedJobs (now : Nat) (state : LanePopState ι δ ο ε)
    (laneId : String) : LanePopState ι δ ο ε :=
  let keys := state.store.laneKeys laneId
  let promoted :=
    (Redis.zrangeByScore keys.delayed now).foldl PopState.promoteDelayed { store := keys }
  { state with store := state.store.writeKeys laneId promoted.store }

/-- What `pop_job_from_lane` makes of the keys of a lane whose last pending id has data: the id
becomes active under a fresh lease. -/
def Store.leaseFromLane (options : QueueOptions) (now : Nat) (keys : Store ι δ ο ε) (id : ι)
    (data : δ) : BorrowedJob ι δ × Store ι δ ο ε :=
  let info := keys.jobMeta id
  let running := { info.incrAttempts 1 with
    processedAt := some now, deferredUntil := none, retryAt := none }
  let attempts := running.attempts.getD 0
  let token : LeaseToken ι := { now, jobId := id, attempts, popId := none }
  ({ job :=
      { id, data
        attempts := (parseU32 attempts).getD 1
        createdAt := info.createdAt.getD now
        processedAt := some now
        finishedAt := none }
     leaseToken := token },
    { (keys.grantLease options.leaseDuration.secs id token).setMeta id
        { running with leaseToken := some token } with
      active := keys.active.insert id attempts })

/-- `pop_job_from_lane`: the id comes off the right end of pending; without data it is dropped and
the lane counts as empty. -/
def MultilaneStore.popJobFromLane (options : QueueOptions) (now : Nat)
    (store : MultilaneStore ι δ ο ε) (laneId : String) :
    Option (BorrowedJob ι δ) × MultilaneStore ι δ ο ε :=
  let keys := store.laneKeys laneId
  match keys.pending.getLast? with
  | none => (none, store)
  | some id =>
    let popped := { keys with pending := keys.pending.dropLast }
    match keys.jobData id with
    | none => (none, store.writeKeys laneId popped)
    | some data =>
      let (job, leased) := popped.leaseFromLane options now id data
      (some job, store.writeKeys laneId leased)

/-- Step 1 for one requested cancellation. A job without a lane is passed over; one that succeeded
is moved to the front of the success list. -/
def LanePopState.sweepCancellation (now : Nat) (state : LanePopState ι δ ο ε) (id : ι) :
    LanePopState ι δ ο ε :=
  let store := state.store
  match (store.jobMeta id).laneId with
  | none => state
  | some laneId =>
    if id ∈ (store.lane laneId).active then state
    else
      let swept := { store with pendingCancellations := store.pendingCancellations.erase id }
      if 0 < store.success.count id then
        { state with store := { swept with success := id :: store.success.filter (· ≠ id) } }
      else
        { state with
          store := { swept with
            failed := id :: store.failed
            jobMeta := Function.update store.jobMeta id
              { store.jobMeta id with finishedAt := some now } }
          cancelledJobs := state.cancelledJobs ++ [(laneId, id)] }

/-- What a visit does to a lane not yet visited at `now`: clean up, promote, stamp its score. -/
def LanePopState.refreshLane (now : Nat) (state : LanePopState ι δ ο ε) (laneId : String) :
    LanePopState ι δ ο ε :=
  let promoted := (state.cleanupLaneLeases laneId).processDelayedJobs now laneId
  { promoted with
    store := { promoted.store with lanes := promoted.store.lanes.insert laneId now } }

/-- A lane that gave no job is dropped from the lanes once all its keys are empty. -/
def MultilaneStore.retireLane (store : MultilaneStore ι δ ο ε) (laneId : String) :
    MultilaneStore ι δ ο ε :=
  let lane := store.lane laneId
  if lane.pending.length = 0 ∧ lane.delayed.keys.length = 0 ∧ lane.active.keys.length = 0 then
    { store with lanes := store.lanes.erase laneId }
  else store

/-- Visit the lanes in turn up to the first that gives a job. The lanes found empty on the way are
marked and not visited again; the one that gave a job goes to the end of the turn with its new
score. Without a lane left there is no next turn. -/
def LanePopState.seekJob (options : QueueOptions) (now : Nat) :
    LanePopState ι δ ο ε → List (String × Nat) →
      LanePopState ι δ ο ε × Option (List (String × Nat))
  | state, [] => (state, none)
  | state, (laneId, lastScore) :: rest =>
    let visited := if lastScore ≠ now then state.refreshLane now laneId else state
    match visited.store.popJobFromLane options now laneId with
    | (some job, store) =>
      ({ visited with store, resultJobs := visited.resultJobs ++ [(laneId, job)] },
        some (rest ++ [(laneId, now)]))
    | (none, store) => seekJob options now { visited with store := store.retireLane laneId } rest

/-- Step 2's loop: up to `batch_size` jobs, one lane after the other around the lanes that are not
marked empty. -/
def LanePopState.popLanes (options : QueueOptions) (now : Nat) :
    Nat → LanePopState ι δ ο ε → List (String × Nat) → LanePopState ι δ ο ε
  | 0, state, _ => state
  | wanted + 1, state, lanesWithScores =>
    match state.seekJob options now lanesWithScores with
    | (state, none) => state
    | (state, some next) => popLanes options now wanted state next

/-- `pop_batch_jobs`: the script's final state. -/
def MultilaneStore.popBatchJobs (store : MultilaneStore ι δ ο ε) (options : QueueOptions)
    (now : Nat) (batchSize : Nat) : LanePopState ι δ ο ε :=
  let swept := store.pendingCancellations.keys.foldl (LanePopState.sweepCancellation now) { store }
  swept.popLanes options now batchSize (Redis.zrange swept.store.lanes)

/-- The prune scripts' test that a job of a lane is still in the system. Two of the three replies
are compared with `nil`. -/
def MultilaneStore.isQueued (store : MultilaneStore ι δ ο ε) (laneId : String) (id : ι) : Bool :=
  let lane := store.lane laneId
  decide (id ∈ lane.active) || (Redis.lpos lane.pending id).isNotNil ||
    (Redis.zscore lane.delayed id).isNotNil

/-- `should_delete` of the prune scripts. -/
def MultilaneStore.shouldDelete (store : MultilaneStore ι δ ο ε) (id : ι) : Bool :=
  match (store.jobMeta id).laneId with
  | some laneId => !store.isQueued laneId id
  | none => true

/-- What both prune scripts delete of a job: dedupe entry, data, metadata and errors. -/
def MultilaneStore.forget (store : MultilaneStore ι δ ο ε) (id : ι) : MultilaneStore ι δ ο ε :=
  { store with
    dedupe := store.dedupe.erase id
    jobData := Function.update store.jobData id none
    jobMeta := Function.update store.jobMeta id {}
    jobErrors := Function.update store.jobErrors id [] }

/-- The success prune for one id of the tail; it deletes the result too. -/
def MultilaneStore.pruneSucceeded (store : MultilaneStore ι δ ο ε) (id : ι) :
    MultilaneStore ι δ ο ε :=
  if store.shouldDelete id then
    { store.forget id with jobResult := Function.update store.jobResult id none }
  else store

/-- The failed prune for one id of the tail. -/
def MultilaneStore.pruneFailed (store : MultilaneStore ι δ ο ε) (id : ι) :
    MultilaneStore ι δ ο ε :=
  if store.shouldDelete id then store.forget id else store

/-- `post_success_completion`. -/
def MultilaneStore.postSuccessCompletion (store : MultilaneStore ι δ ο ε)
    (options : QueueOptions) : MultilaneStore ι δ ο ε :=
  let jobIdsToDelete := Redis.lrange store.success options.maxSuccess (-1)
  if 0 < jobIdsToDelete.length then
    { jobIdsToDelete.foldl MultilaneStore.pruneSucceeded store with
      success := Redis.ltrim store.success 0 ((options.maxSuccess : Int) - 1) }
  else store

/-- `post_fail_completion`. -/
def MultilaneStore.postFailCompletion (store : MultilaneStore ι δ ο ε) (options : QueueOptions) :
    MultilaneStore ι δ ο ε :=
  let jobIdsToDelete := Redis.lrange store.failed options.maxFailed (-1)
  if 0 < jobIdsToDelete.length then
    { jobIdsToDelete.foldl MultilaneStore.pruneFailed store with
      failed := Redis.ltrim store.failed 0 ((options.maxFailed : Int) - 1) }
  else store

/-- One atomic access to the keys of a multilane queue. -/
inductive LaneOp (ι δ ο ε : Type) where
  | push (now : Nat) (laneId : String) (job : JobOptions ι δ)
  | pop (now : Nat) (batchSize : Nat)
  | complete (now : Nat) (job : BorrowedJob ι δ) (result : JobResult ο ε)
  | expireLease (id : ι) (token : LeaseToken ι)
  | postSuccess
  | postFail
  | cancel (now : Nat) (id : ι)

/-- The store after an operation. -/
def MultilaneStore.step (options : QueueOptions) (store : MultilaneStore ι δ ο ε) :
    LaneOp ι δ ο ε → MultilaneStore ι δ ο ε
  | .push now laneId job => (store.pushToLane now laneId job).2
  | .pop now batchSize => (store.popBatchJobs options now batchSize).store
  | .complete now job result => (store.completeJob options now job result).2
  | .expireLease id token => store.expireLease id token
  | .postSuccess => store.postSuccessCompletion options
  | .postFail => store.postFailCompletion options
  | .cancel now id => (store.cancelJob now id).2

/-- The jobs an operation hands to workers, with their lanes. -/
def MultilaneStore.handedOut (options : QueueOptions) (store : MultilaneStore ι δ ο ε) :
    LaneOp ι δ ο ε → List (String × BorrowedJob ι δ)
  | .pop now batchSize => (store.popBatchJobs options now batchSize).resultJobs
  | _ => []

end OpenEngine.Queue
