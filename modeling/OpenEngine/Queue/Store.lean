import OpenEngine.Redis.Collections
import OpenEngine.Queue.Job

/-!
# The single-lane queue's keys and request scripts

`Store` holds every Redis key of one `Queue` (`queue/src/lib.rs`), and each operation below is the
Lua script or command the source sends, as a function of the store it runs on. Keys that carry a
job id in their name (`:meta`, `:errors`, `:lease:`) are functions of the id. A script is atomic,
so its model is one function.
-/

namespace OpenEngine.Queue

variable {ι δ ο ε : Type}

/-- The fields of a job's `:meta` hash; an absent field is `none`. -/
structure JobMeta (ι : Type) where
  createdAt : Option Nat := none
  attempts : Option Int := none
  reentryPosition : Option RequeuePosition := none
  processedAt : Option Nat := none
  leaseToken : Option (LeaseToken ι) := none
  finishedAt : Option Nat := none
  retryAt : Option Nat := none
  deferredUntil : Option Nat := none
  laneId : Option String := none
deriving DecidableEq

/-- `EXISTS` on the hash: a hash without fields is no key. -/
def JobMeta.exists [DecidableEq ι] (info : JobMeta ι) : Bool := info ≠ {}

/-- `HINCRBY meta attempts amount`; an absent counter starts at zero. -/
def JobMeta.incrAttempts (info : JobMeta ι) (amount : Int) : JobMeta ι :=
  { info with attempts := some (info.attempts.getD 0 + amount) }

/-- Every key of one single-lane queue. -/
structure Store (ι δ ο ε : Type) where
  /-- `queue:{name}:pending`, its left end first. -/
  pending : List ι
  /-- `queue:{name}:delayed`, members with the second they are due. -/
  delayed : Redis.Hash ι Nat
  /-- `queue:{name}:active`, ids with their attempt count. -/
  active : Redis.Hash ι Int
  /-- `queue:{name}:success`, newest first. -/
  success : List ι
  /-- `queue:{name}:failed`, newest first. -/
  failed : List ι
  /-- `queue:{name}:jobs:data`. -/
  jobData : ι → Option δ
  /-- `queue:{name}:job:{id}:meta`. -/
  jobMeta : ι → JobMeta ι
  /-- `queue:{name}:job:{id}:errors`, newest first. -/
  jobErrors : ι → List (JobErrorRecord ε)
  /-- `queue:{name}:jobs:result`. -/
  jobResult : ι → Option ο
  /-- `queue:{name}:dedup`. -/
  dedupe : Finset ι
  /-- `queue:{name}:pending_cancellations`. -/
  pendingCancellations : Redis.Hash ι Unit
  /-- The tokens of the live `queue:{name}:job:{id}:lease:{token}` keys. -/
  leases : ι → Finset (LeaseToken ι)

/-- The store before the first push. -/
def Store.empty : Store ι δ ο ε where
  pending := []
  delayed := ∅
  active := ∅
  success := []
  failed := []
  jobData _ := none
  jobMeta _ := {}
  jobErrors _ := []
  jobResult _ := none
  dedupe := ∅
  pendingCancellations := ∅
  leases _ := ∅

variable [LinearOrder ι]

/-- Whether an id is on the pending list. -/
instance Store.decidablePending (store : Store ι δ ο ε) (id : ι) : Decidable (id ∈ store.pending) :=
  inferInstanceAs (Decidable (id ∈ store.pending))

/-- Write one job's metadata hash. -/
def Store.setMeta (store : Store ι δ ο ε) (id : ι) (info : JobMeta ι) : Store ι δ ο ε :=
  { store with jobMeta := Function.update store.jobMeta id info }

/-- `push_with_outcome`: an id in the dedupe set is refused; any other id starts clean, its old
metadata, result and errors dropped. -/
def Store.pushWithOutcome (store : Store ι δ ο ε) (now : Nat) (job : JobOptions ι δ) :
    PushOutcome × Store ι δ ο ε :=
  if job.id ∈ store.dedupe then (.duplicate, store)
  else
    let delay := job.delay.getD ⟨.zero, .last⟩
    let delaySecs := delayToQueueSeconds delay.delay
    let created : JobMeta ι := { createdAt := some now, attempts := some 0 }
    let clean : Store ι δ ο ε :=
      { store with
        jobData := Function.update store.jobData job.id (some job.data)
        jobResult := Function.update store.jobResult job.id none
        jobErrors := Function.update store.jobErrors job.id []
        dedupe := insert job.id store.dedupe }
    if 0 < delaySecs then
      (.created, { clean.setMeta job.id { created with reentryPosition := some delay.position } with
        delayed := store.delayed.insert job.id (now + delaySecs) })
    else
      (.created, { clean.setMeta job.id created with pending := store.pending ++ [job.id] })

/-- `try_replace_pending_data`: swap the data of a job that is neither active nor finished. -/
def Store.tryReplacePendingData (store : Store ι δ ο ε) (id : ι) (newData : δ) :
    ReplaceOutcome × Store ι δ ο ε :=
  if (store.jobData id).isNone then (.notFound, store)
  else if id ∈ store.active then (.active, store)
  else if (store.jobMeta id).finishedAt.isSome then (.finished, store)
  else (.replaced, { store with jobData := Function.update store.jobData id (some newData) })

/-- `get_job` from the data and the metadata it reads in two commands. -/
def jobOf (id : ι) (data : δ) (info : JobMeta ι) : Job ι δ where
  id := id
  data := data
  attempts := (info.attempts.bind parseU32).getD 0
  createdAt := info.createdAt.getD 0
  processedAt := info.processedAt
  finishedAt := info.finishedAt

/-- `get_job` with both reads on one store. -/
def Store.getJob (store : Store ι δ ο ε) (id : ι) : Option (Job ι δ) :=
  (store.jobData id).map fun data => jobOf id data (store.jobMeta id)

/-- `get_job_state`: terminal states first, then a live lease token, then the two hold markers. -/
def Store.getJobState (store : Store ι δ ο ε) (id : ι) : Option (JobState ο ε) :=
  let info := store.jobMeta id
  if info.exists = false then none
  else if info.finishedAt.isSome then
    match store.jobResult id with
    | some result => some (.succeeded result)
    | none => some (.failed (store.jobErrors id).head?)
  else if info.leaseToken.isSome then some .active
  else match info.deferredUntil, info.retryAt with
    | some until_, _ => some (.deferred until_)
    | none, some until_ => some (.retrying until_ (store.jobErrors id).head?)
    | none, none => some .pending

/-- `get_job_errors`: the newest `limit` records. -/
def Store.getJobErrors (store : Store ι δ ο ε) (id : ι) (limit : Nat) : List (JobErrorRecord ε) :=
  if limit = 0 then [] else Redis.lrange (store.jobErrors id) 0 ((limit : Int) - 1)

/-- The cancel script's move to the failed list. -/
def Store.cancelNow (store : Store ι δ ο ε) (now : Nat) (id : ι) : Store ι δ ο ε :=
  { store.setMeta id { store.jobMeta id with finishedAt := some now } with
    failed := id :: store.failed }

/-- `cancel_job`: a waiting job fails at once, an active one is marked for the next pop. -/
def Store.cancelJob (store : Store ι δ ο ε) (now : Nat) (id : ι) :
    CancelResult × Store ι δ ο ε :=
  if id ∈ store.pending then
    (.cancelledImmediately,
      { store with pending := store.pending.filter (· ≠ id) }.cancelNow now id)
  else if id ∈ store.delayed then
    (.cancelledImmediately, { store with delayed := store.delayed.erase id }.cancelNow now id)
  else if id ∈ store.active then
    (.cancellationPending,
      { store with pendingCancellations := store.pendingCancellations.insert id () })
  else (.notFound, store)

/-- `remove_from_dedupe_set`. -/
def Store.removeFromDedupeSet (store : Store ι δ ο ε) (id : ι) : Store ι δ ο ε :=
  { store with dedupe := store.dedupe.erase id }

/-- The TTL of a lease key running out, or the key being gone already. -/
def Store.expireLease (store : Store ι δ ο ε) (id : ι) (token : LeaseToken ι) : Store ι δ ο ε :=
  { store with leases := Function.update store.leases id ((store.leases id).erase token) }

end OpenEngine.Queue
