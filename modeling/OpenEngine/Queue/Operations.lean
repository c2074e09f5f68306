import OpenEngine.Transition
import OpenEngine.Queue.Pop
import OpenEngine.Queue.Completion

/-!
# Runs of the single-lane queue

An `Op` is one atomic access to the queue's keys by any caller: a script, a command, a commit under
its lease, or a lease key running out. A run is a list of operations from the empty store, so it
covers every order in which callers and workers reach Redis.
-/

namespace OpenEngine.Queue

variable {ι δ ο ε : Type}

/-- One atomic access to the store. -/
inductive Op (ι δ ο ε : Type) where
  | push (now : Nat) (job : JobOptions ι δ)
  | replace (id : ι) (data : δ)
  | pop (now : Nat) (popId : String) (batchSize : Nat)
  | complete (now : Nat) (job : BorrowedJob ι δ) (result : JobResult ο ε)
  | expireLease (id : ι) (token : LeaseToken ι)
  | postSuccess
  | postFail
  | cancel (now : Nat) (id : ι)
  | release (id : ι)
  | reopen (now : Nat) (job : JobOptions ι δ)

/-- Operations other than cancelling a job and reopening a failed slot. -/
def Op.isCore : Op ι δ ο ε → Bool
  | .cancel _ _ | .release _ | .reopen _ _ => false
  | _ => true

/-- The clock and pop id of a pop. -/
def Op.stamp : Op ι δ ο ε → Option (Nat × Option String)
  | .pop now popId _ => some (now, some popId)
  | _ => none

variable [LinearOrder ι]

/-- The API reads the slot as finished and failed. -/
def Store.readsFailed (store : Store ι δ ο ε) (id : ι) : Bool :=
  (store.getJob id).any (·.finishedAt.isSome) && (store.getJobState id).any (·.isFailed)

/-- `retry_failed_slot` with nothing between its two commands: release the dedupe entry of a slot
that reads as failed, then push. -/
def Store.retryFailedSlot (store : Store ι δ ο ε) (now : Nat) (job : JobOptions ι δ) :
    Store ι δ ο ε :=
  if store.readsFailed job.id then
    ((store.removeFromDedupeSet job.id).pushWithOutcome now job).2
  else store

/-- The store after an operation. -/
def Store.step (options : QueueOptions) (store : Store ι δ ο ε) : Op ι δ ο ε → Store ι δ ο ε
  | .push now job => (store.pushWithOutcome now job).2
  | .replace id data => (store.tryReplacePendingData id data).2
  | .pop now popId batchSize => (store.popBatchJobs options now popId batchSize).store
  | .complete now job result => (store.complete options now job result).2
  | .expireLease id token => store.expireLease id token
  | .postSuccess => store.postSuccessCompletion options
  | .postFail => store.postFailCompletion options
  | .cancel now id => (store.cancelJob now id).2
  | .release id => store.removeFromDedupeSet id
  | .reopen now job => store.retryFailedSlot now job

/-- The jobs an operation hands to workers. -/
def Store.handedOut (options : QueueOptions) (store : Store ι δ ο ε) :
    Op ι δ ο ε → List (BorrowedJob ι δ)
  | .pop now popId batchSize => (store.popBatchJobs options now popId batchSize).resultJobs
  | _ => []

/-- The lease a committing completion consumes. -/
def Store.consumed (store : Store ι δ ο ε) : Op ι δ ο ε → List (ι × LeaseToken ι)
  | .complete _ job _ => if store.holdsLease job then [(job.job.id, job.leaseToken)] else []
  | _ => []

end OpenEngine.Queue
