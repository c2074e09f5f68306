import OpenEngine.Queue.Store

/-!
# Completion and pruning

`completion.rs` turns a handler's outcome into one pipeline of operations on the job's keys and
commits it under the job's lease; the two prune scripts of `lib.rs` then trim the success and the
failed list. `Store.applyCompletion` is the pipeline itself. `Store.complete` is the commit with
its lease check and its operations as one atomic step.
-/

namespace OpenEngine.Queue

variable {ι δ ο ε : Type} [LinearOrder ι]

/-- What every outcome's pipeline starts with: the lease key, the active entry and the token in
the metadata go. -/
def Store.endLease (store : Store ι δ ο ε) (id : ι) (token : LeaseToken ι) : Store ι δ ο ε :=
  { (store.expireLease id token).setMeta id { store.jobMeta id with leaseToken := none } with
    active := store.active.erase id }

/-- `add_error_record`: push the record and keep the newest `max_job_errors`. -/
def Store.addErrorRecord (store : Store ι δ ο ε) (options : QueueOptions) (id : ι)
    (record : JobErrorRecord ε) : Store ι δ ο ε :=
  { store with
    jobErrors := Function.update store.jobErrors id
      (Redis.ltrim (record :: store.jobErrors id) 0 ((options.maxJobErrors : Int) - 1)) }

/-- `IdempotencyMode::Active` drops a finished id from the dedupe set. -/
def Store.releaseActive (store : Store ι δ ο ε) (options : QueueOptions) (id : ι) :
    Store ι δ ο ε :=
  if options.idempotencyMode = .active then store.removeFromDedupeSet id else store

/-- Stamp `finished_at`. -/
def Store.finish (store : Store ι δ ο ε) (now : Nat) (id : ι) : Store ι δ ο ε :=
  store.setMeta id { store.jobMeta id with finishedAt := some now }

/-- Park a job until `until_`, remembering where it re-enters. -/
def Store.delayUntil (store : Store ι δ ο ε) (id : ι) (until_ : Nat) (info : JobMeta ι)
    (position : RequeuePosition) : Store ι δ ο ε :=
  { store.setMeta id { info with reentryPosition := some position } with
    delayed := store.delayed.insert id until_ }

/-- `add_success_ops`. -/
def Store.addSuccessOps (store : Store ι δ ο ε) (options : QueueOptions) (id : ι)
    (token : LeaseToken ι) (result : ο) (now : Nat) : Store ι δ ο ε :=
  let done := (store.endLease id token).finish now id
  { done with
    success := id :: done.success
    jobResult := Function.update done.jobResult id (some result) }.releaseActive options id

/-- `add_nack_ops`. -/
def Store.addNackOps (store : Store ι δ ο ε) (options : QueueOptions) (id : ι)
    (token : LeaseToken ι) (record : JobErrorRecord ε) (delay : Option Duration)
    (position : RequeuePosition) (now : Nat) : Store ι δ ο ε :=
  let ended := (store.endLease id token).addErrorRecord options id record
  match delay with
  | some delay =>
    let delayUntil := now + delayToQueueSeconds delay
    ended.delayUntil id delayUntil { ended.jobMeta id with retryAt := some delayUntil } position
  | none =>
    match position with
    | .first => { ended with pending := id :: ended.pending }
    | .last => { ended with pending := ended.pending ++ [id] }

/-- `add_fail_ops`. -/
def Store.addFailOps (store : Store ι δ ο ε) (options : QueueOptions) (id : ι)
    (token : LeaseToken ι) (record : JobErrorRecord ε) (now : Nat) : Store ι δ ο ε :=
  let done := (store.endLease id token).finish now id
  ({ done with failed := id :: done.failed }.addErrorRecord options id record).releaseActive
    options id

/-- `add_defer_ops`: no error record, and the pop's attempt is undone. -/
def Store.addDeferOps (store : Store ι δ ο ε) (id : ι) (token : LeaseToken ι)
    (delay : Duration) (position : RequeuePosition) (now : Nat) : Store ι δ ο ε :=
  let ended := store.endLease id token
  let delayUntil := now + delayToQueueSeconds delay
  ended.delayUntil id delayUntil
    { (ended.jobMeta id).incrAttempts (-1) with deferredUntil := some delayUntil } position

/-- The pipeline `complete` builds for an outcome, with the handler's hooks left at their
defaults. -/
def Store.applyCompletion (store : Store ι δ ο ε) (options : QueueOptions) (now : Nat)
    (job : BorrowedJob ι δ) (result : JobResult ο ε) : Store ι δ ο ε :=
  match result with
  | .ok output => store.addSuccessOps options job.job.id job.leaseToken output now
  | .error (.nack error delay position) =>
    store.addNackOps options job.job.id job.leaseToken
      { error, attempt := job.job.attempts, details := .nack delay position, createdAt := now }
      delay position now
  | .error (.fail error) =>
    store.addFailOps options job.job.id job.leaseToken
      { error, attempt := job.job.attempts, details := .fail, createdAt := now } now
  | .error (.defer delay position) =>
    store.addDeferOps job.job.id job.leaseToken delay position now

/-- The lease a completion runs under exists. -/
def Store.holdsLease (store : Store ι δ ο ε) (job : BorrowedJob ι δ) : Bool :=
  job.leaseToken ∈ store.leases job.job.id

/-- `complete` with the lease check and the commit as one atomic step: whether it committed, and
the store after it. -/
def Store.complete (store : Store ι δ ο ε) (options : QueueOptions) (now : Nat)
    (job : BorrowedJob ι δ) (result : JobResult ο ε) : Bool × Store ι δ ο ε :=
  if store.holdsLease job then (true, store.applyCompletion options now job result)
  else (false, store)

/-- The prune scripts' test that an id is still in the system. -/
def Store.isLive (store : Store ι δ ο ε) (id : ι) : Bool :=
  decide (id ∈ store.active) || (Redis.lpos store.pending id).isNumber ||
    (Redis.zscore store.delayed id).isNumber

/-- What both prune scripts delete of a job: dedupe entry, data, metadata and errors. -/
def Store.forget (store : Store ι δ ο ε) (id : ι) : Store ι δ ο ε :=
  { store with
    dedupe := store.dedupe.erase id
    jobData := Function.update store.jobData id none
    jobMeta := Function.update store.jobMeta id {}
    jobErrors := Function.update store.jobErrors id [] }

/-- The success prune for one id of the tail; it deletes the result too. -/
def Store.pruneSucceeded (store : Store ι δ ο ε) (id : ι) : Store ι δ ο ε :=
  if store.isLive id then store
  else { store.forget id with jobResult := Function.update store.jobResult id none }

/-- The failed prune for one id of the tail. -/
def Store.pruneFailed (store : Store ι δ ο ε) (id : ι) : Store ι δ ο ε :=
  if store.isLive id then store else store.forget id

/-- `post_success_completion`. -/
def Store.postSuccessCompletion (store : Store ι δ ο ε) (options : QueueOptions) :
    Store ι δ ο ε :=
  let jobIdsToDelete := Redis.lrange store.success options.maxSuccess (-1)
  if 0 < jobIdsToDelete.length then
    { jobIdsToDelete.foldl Store.pruneSucceeded store with
      success := Redis.ltrim store.success 0 ((options.maxSuccess : Int) - 1) }
  else store

/-- `post_fail_completion`. -/
def Store.postFailCompletion (store : Store ι δ ο ε) (options : QueueOptions) : Store ι δ ο ε :=
  let jobIdsToDelete := Redis.lrange store.failed options.maxFailed (-1)
  if 0 < jobIdsToDelete.length then
    { jobIdsToDelete.foldl Store.pruneFailed store with
      failed := Redis.ltrim store.failed 0 ((options.maxFailed : Int) - 1) }
  else store

end OpenEngine.Queue
