import OpenEngine.Queue.Store

/-!
# The pop script

`pop_batch_jobs` is one Lua script in four steps: jobs whose lease key is gone go back to pending,
requested cancellations of jobs that are no longer active are carried out, due delayed jobs
re-enter pending, and up to `batch_size` pending jobs are leased. `PopState` is the script's state
while it runs: the store and the three lists it returns.
-/

namespace OpenEngine.Queue

variable {ι δ ο ε : Type} [LinearOrder ι]

/-- The store and the local tables of a running pop script. -/
structure PopState (ι δ ο ε : Type) where
  store : Store ι δ ο ε
  timedOutJobs : List ι := []
  cancelledJobs : List ι := []
  resultJobs : List (BorrowedJob ι δ) := []

/-- Step 1 moves one active job back to the front of pending and counts the lost attempt. -/
def PopState.requeue (state : PopState ι δ ο ε) (id : ι) : PopState ι δ ο ε :=
  let info := state.store.jobMeta id
  { state with
    store := { state.store.setMeta id { info.incrAttempts 1 with leaseToken := none } with
      active := state.store.active.erase id
      pending := id :: state.store.pending }
    timedOutJobs := state.timedOutJobs ++ [id] }

/-- Step 1 for one active job: it stays while the lease key its metadata names exists. -/
def PopState.cleanupLease (state : PopState ι δ ο ε) (id : ι) : PopState ι δ ο ε :=
  match (state.store.jobMeta id).leaseToken with
  | some token => if token ∈ state.store.leases id then state else state.requeue id
  | none => state.requeue id

/-- Step 2 for one requested cancellation. -/
def PopState.sweepCancellation (now : Nat) (state : PopState ι δ ο ε) (id : ι) :
    PopState ι δ ο ε :=
  let store := state.store
  if id ∈ store.active then state
  else
    let swept := { store with pendingCancellations := store.pendingCancellations.erase id }
    if (Redis.lpos store.success id).isNumber then { state with store := swept }
    else { state with
      store := { swept.setMeta id { store.jobMeta id with finishedAt := some now } with
        failed := id :: store.failed }
      cancelledJobs := state.cancelledJobs ++ [id] }

/-- Step 3 for one due delayed job: it re-enters pending at the position its metadata names. -/
def PopState.promoteDelayed (state : PopState ι δ ο ε) (id : ι) : PopState ι δ ο ε :=
  let store := state.store
  let info := store.jobMeta id
  let promoted := { store.setMeta id { info with reentryPosition := none } with
    delayed := store.delayed.erase id }
  { state with
    store := match info.reentryPosition.getD .last with
      | .first => { promoted with pending := id :: store.pending }
      | .last => { promoted with pending := store.pending ++ [id] } }

/-- `SET lease_key` and `EXPIRE lease_key lease_seconds`; a zero TTL deletes the key at once. The
seconds of a `Duration` are never too many for `EXPIRE`. -/
def Store.grantLease (store : Store ι δ ο ε) (leaseSeconds : Nat) (id : ι)
    (token : LeaseToken ι) : Store ι δ ο ε :=
  { store with
    leases := Function.update store.leases id
      (if leaseSeconds = 0 then (store.leases id).erase token
        else insert token (store.leases id)) }

/-- Step 4 for one popped id: without data it is dropped, with data it becomes active under a
fresh lease. -/
def PopState.leaseJob (options : QueueOptions) (now : Nat) (popId : String)
    (state : PopState ι δ ο ε) (id : ι) : PopState ι δ ο ε :=
  match state.store.jobData id with
  | none => state
  | some data =>
    let info := state.store.jobMeta id
    let running := { info.incrAttempts 1 with
      processedAt := some now, deferredUntil := none, retryAt := none }
    let attempts := running.attempts.getD 0
    let token : LeaseToken ι := { now, jobId := id, attempts, popId := some popId }
    { state with
      store :=
        { (state.store.grantLease options.leaseDuration.secs id token).setMeta id
            { running with leaseToken := some token } with
          active := state.store.active.insert id attempts }
      resultJobs := state.resultJobs ++
        [{ job :=
            { id, data
              attempts := (parseU32 attempts).getD 1
              createdAt := info.createdAt.getD now
              processedAt := some now
              finishedAt := none }
           leaseToken := token }] }

/-- Step 4 first takes up to `batch_size` ids off the front of pending. -/
def PopState.takePending (state : PopState ι δ ο ε) (batchSize : Nat) : PopState ι δ ο ε :=
  { state with store := { state.store with pending := state.store.pending.drop batchSize } }

/-- `pop_batch_jobs`: the script's final state. -/
def Store.popBatchJobs (store : Store ι δ ο ε) (options : QueueOptions) (now : Nat)
    (popId : String) (batchSize : Nat) : PopState ι δ ο ε :=
  let cleaned := store.active.keys.foldl PopState.cleanupLease { store }
  let swept := cleaned.store.pendingCancellations.keys.foldl (PopState.sweepCancellation now) cleaned
  let promoted :=
    (Redis.zrangeByScore swept.store.delayed now).foldl PopState.promoteDelayed swept
  (promoted.store.pending.take batchSize).foldl (PopState.leaseJob options now popId)
    (promoted.takePending batchSize)

end OpenEngine.Queue
