import OpenEngine.Queue.Operations

/-!
# The life of one job

`JobView` is everything the store holds about one id, and `JobEvent` is everything that can happen
to it. `Store.step_refines` connects the two levels: what an operation does to the keys of one id
is a run of enabled events of that id, so a property of one job that every event preserves holds in
every state of the queue. Which ids a pop takes and which entries a prune trims depends on other
jobs; at this level that choice is open.
-/

namespace OpenEngine.Queue

variable {ι δ ο ε : Type}

/-- What the store holds about one id. -/
@[ext]
structure JobView (ι δ ο ε : Type) where
  /-- Occurrences in the pending list. -/
  pending : Nat
  /-- Its score in the delayed set. -/
  delayed : Option Nat
  /-- Its entry in the active hash. -/
  active : Option Int
  /-- Occurrences in the success list. -/
  success : Nat
  /-- Occurrences in the failed list. -/
  failed : Nat
  /-- The stored data. -/
  data : Option δ
  /-- The metadata hash. -/
  info : JobMeta ι
  /-- The error records. -/
  errors : List (JobErrorRecord ε)
  /-- The stored result. -/
  result : Option ο
  /-- Membership in the dedupe set. -/
  deduped : Prop
  /-- Membership in the pending cancellations. -/
  cancelling : Prop
  /-- The tokens of its live lease keys. -/
  leases : Finset (LeaseToken ι)

/-- What can happen to one job. -/
inductive JobEvent (ι δ ο ε : Type) where
  /-- The push script creates the job. -/
  | push (now : Nat) (job : JobOptions ι δ)
  /-- The replace script swaps the data of a waiting job. -/
  | replace (data : δ)
  /-- A pop finds the lease gone and requeues the job. -/
  | requeue
  /-- A pop carries out a requested cancellation. -/
  | sweep (now : Nat)
  /-- A pop moves the due job from delayed to pending. -/
  | promote
  /-- A pop hands the job to a worker. -/
  | lease (now : Nat) (popId : String)
  /-- A pop takes the id off pending and finds no data. -/
  | drop
  /-- A completion commits under its lease. -/
  | complete (now : Nat) (job : BorrowedJob ι δ) (result : JobResult ο ε)
  /-- A lease key runs out. -/
  | expire (token : LeaseToken ι)
  /-- The success prune meets the id in the tail and leaves `kept` entries. -/
  | pruneSuccess (kept : Nat)
  /-- The failed prune meets the id in the tail and leaves `kept` entries. -/
  | pruneFailed (kept : Nat)
  /-- The cancel script fails the waiting job. -/
  | cancelNow (now : Nat)
  /-- The cancel script marks the active job. -/
  | cancelLater
  /-- The dedupe entry is removed. -/
  | release

namespace JobView

/-- The lease key the metadata names is gone, or no token is recorded. -/
def LeaseGone (view : JobView ι δ ο ε) : Prop :=
  ∀ token, view.info.leaseToken = some token → token ∉ view.leases

instance [DecidableEq ι] (view : JobView ι δ ο ε) : Decidable view.LeaseGone :=
  inferInstanceAs (Decidable (∀ token ∈ view.info.leaseToken, token ∉ view.leases))

/-- The prune scripts' test: in the active hash or in the pending list. The delayed set is asked
for too, but its reply is a string, never the number the scripts look for. -/
def isLive (view : JobView ι δ ο ε) : Bool := view.active.isSome || 0 < view.pending

/-- What both prune scripts delete. -/
def forget (view : JobView ι δ ο ε) : JobView ι δ ο ε :=
  { view with data := none, info := {}, errors := [], deduped := False }

/-- What the success prune makes of a job it meets in the tail: a live job is left alone. -/
def settleSucceeded (view : JobView ι δ ο ε) : JobView ι δ ο ε :=
  if view.isLive then view else { view.forget with result := none }

/-- What the failed prune makes of a job it meets in the tail: a live job is left alone. -/
def settleFailed (view : JobView ι δ ο ε) : JobView ι δ ο ε :=
  if view.isLive then view else view.forget

/-- The job as the push script leaves it. -/
def push (now : Nat) (job : JobOptions ι δ) (view : JobView ι δ ο ε) : JobView ι δ ο ε :=
  let delay := job.delay.getD ⟨.zero, .last⟩
  let delaySecs := delayToQueueSeconds delay.delay
  let clean := { view with data := some job.data, errors := [], result := none, deduped := True }
  if 0 < delaySecs then
    { clean with
      info :=
        { createdAt := some now, attempts := some 0, reentryPosition := some delay.position }
      delayed := some (now + delaySecs) }
  else
    { clean with
      info := { createdAt := some now, attempts := some 0 }
      pending := view.pending + 1 }

variable [DecidableEq ι]

/-- The token a pop issues for a job. -/
def nextToken (id : ι) (now : Nat) (popId : String) (info : JobMeta ι) : LeaseToken ι :=
  { now, jobId := id, attempts := info.attempts.getD 0 + 1, popId := some popId }

/-- The metadata of a job a pop has just leased. -/
def leasedInfo (id : ι) (now : Nat) (popId : String) (info : JobMeta ι) : JobMeta ι :=
  { info.incrAttempts 1 with
    processedAt := some now
    deferredUntil := none
    retryAt := none
    leaseToken := some (nextToken id now popId info) }

/-- The job as a pop leaves it when it hands it out. -/
def lease (options : QueueOptions) (id : ι) (now : Nat) (popId : String)
    (view : JobView ι δ ο ε) : JobView ι δ ο ε :=
  let token := nextToken id now popId view.info
  { view with
    pending := view.pending - 1
    active := some (view.info.attempts.getD 0 + 1)
    info := leasedInfo id now popId view.info
    leases :=
      if options.leaseDuration.secs = 0 then view.leases.erase token
      else insert token view.leases }

/-- The job without its lease and its active entry. -/
def endLease (token : LeaseToken ι) (view : JobView ι δ ο ε) : JobView ι δ ο ε :=
  { view with
    leases := view.leases.erase token
    active := none
    info := { view.info with leaseToken := none } }

/-- The job with one more error record, trimmed to the bound. -/
def addError (options : QueueOptions) (record : JobErrorRecord ε) (view : JobView ι δ ο ε) :
    JobView ι δ ο ε :=
  { view with
    errors := Redis.ltrim (record :: view.errors) 0 ((options.maxJobErrors : Int) - 1) }

/-- Whether a finished job keeps its dedupe entry. -/
def StaysDeduped (options : QueueOptions) (view : JobView ι δ ο ε) : Prop :=
  options.idempotencyMode ≠ .active ∧ view.deduped

/-- The job as a committed completion leaves it. -/
def complete (options : QueueOptions) (now : Nat) (job : BorrowedJob ι δ)
    (result : JobResult ο ε) (view : JobView ι δ ο ε) : JobView ι δ ο ε :=
  let ended := view.endLease job.leaseToken
  match result with
  | .ok output =>
    { ended with
      success := view.success + 1
      info := { ended.info with finishedAt := some now }
      result := some output
      deduped := view.StaysDeduped options }
  | .error (.nack error delay position) =>
    let nacked := ended.addError options
      { error, attempt := job.job.attempts, details := .nack delay position, createdAt := now }
    match delay with
    | some delay =>
      let delayUntil := now + delayToQueueSeconds delay
      { nacked with
        info := { ended.info with
          retryAt := some delayUntil, reentryPosition := some position }
        delayed := some delayUntil }
    | none => { nacked with pending := view.pending + 1 }
  | .error (.fail error) =>
    let failed := ended.addError options
      { error, attempt := job.job.attempts, details := .fail, createdAt := now }
    { failed with
      failed := view.failed + 1
      info := { ended.info with finishedAt := some now }
      deduped := view.StaysDeduped options }
  | .error (.defer delay position) =>
    let delayUntil := now + delayToQueueSeconds delay
    { ended with
      info := { ended.info.incrAttempts (-1) with
        deferredUntil := some delayUntil, reentryPosition := some position }
      delayed := some delayUntil }

/-- What an event makes of a job. -/
def apply (options : QueueOptions) (id : ι) (view : JobView ι δ ο ε) :
    JobEvent ι δ ο ε → JobView ι δ ο ε
  | .push now job => view.push now job
  | .replace data => { view with data := some data }
  | .requeue =>
    { view with
      pending := view.pending + 1
      active := none
      info := { view.info.incrAttempts 1 with leaseToken := none } }
  | .sweep now =>
    if 0 < view.success then { view with cancelling := False }
    else
      { view with
        cancelling := False
        failed := view.failed + 1
        info := { view.info with finishedAt := some now } }
  | .promote =>
    { view with
      pending := view.pending + 1
      delayed := none
      info := { view.info with reentryPosition := none } }
  | .lease now popId => view.lease options id now popId
  | .drop => { view with pending := view.pending - 1 }
  | .complete now job result => view.complete options now job result
  | .expire token => { view with leases := view.leases.erase token }
  | .pruneSuccess kept => { view.settleSucceeded with success := kept }
  | .pruneFailed kept => { view.settleFailed with failed := kept }
  | .cancelNow now =>
    { view with
      pending := 0
      delayed := if 0 < view.pending then view.delayed else none
      failed := view.failed + 1
      info := { view.info with finishedAt := some now } }
  | .cancelLater => { view with cancelling := True }
  | .release => { view with deduped := False }

end JobView

/-- What holds of a job when an event happens to it. -/
def JobEvent.Enabled (options : QueueOptions) (view : JobView ι δ ο ε) :
    JobEvent ι δ ο ε → Prop
  | .push _ _ => ¬view.deduped
  | .replace _ => view.data.isSome ∧ view.active = none ∧ view.info.finishedAt = none
  | .requeue => view.active.isSome ∧ view.LeaseGone
  | .sweep _ => view.cancelling ∧ view.active = none
  | .promote => view.delayed.isSome
  | .lease _ _ => 0 < view.pending ∧ view.data.isSome
  | .drop => 0 < view.pending ∧ view.data = none
  | .complete _ job _ => job.leaseToken ∈ view.leases
  | .expire _ => True
  | .pruneSuccess kept => kept ≤ view.success ∧ (0 < options.maxSuccess → kept < view.success)
  | .pruneFailed kept => kept ≤ view.failed ∧ (0 < options.maxFailed → kept < view.failed)
  | .cancelNow _ => 0 < view.pending ∨ view.delayed.isSome
  | .cancelLater => view.pending = 0 ∧ view.delayed = none ∧ view.active.isSome
  | .release => True

variable [LinearOrder ι]

/-- The keys of one id. -/
def Store.view (store : Store ι δ ο ε) (id : ι) : JobView ι δ ο ε where
  pending := store.pending.count id
  delayed := store.delayed.lookup id
  active := store.active.lookup id
  success := store.success.count id
  failed := store.failed.count id
  data := store.jobData id
  info := store.jobMeta id
  errors := store.jobErrors id
  result := store.jobResult id
  deduped := id ∈ store.dedupe
  cancelling := id ∈ store.pendingCancellations
  leases := store.leases id

end OpenEngine.Queue
