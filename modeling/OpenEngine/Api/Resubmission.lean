import OpenEngine.Core.Domain
import OpenEngine.Number.Saturating
import OpenEngine.Queue.Operations

/-!
# Requests for a keyed nonce slot

`POST /transaction` pushes the compiled transaction under its slot id; a slot that is taken goes
through `handle_resubmission`, which may replace the waiting transaction or reopen a failed slot.
Each request is a sequence of Redis commands, and `Progress` is the point a request has reached
between two of them. `Service` runs any number of requests beside the queue's workers, one command
at a time.
-/

namespace OpenEngine.Api

open OpenEngine.Core Queue

/-- One fee of a replacement: both must be set, and the new one higher by a tenth, rounded up. -/
def bumped : Option U128 → Option U128 → Bool
  | some old, some new =>
    let minIncrement := Saturating.add 128 old.toNat 9 / 10
    Saturating.add 128 old.toNat minIncrement ≤ new.toNat
  | _, _ => false

/-- `is_valid_fee_bump`. -/
def isValidFeeBump (existing incoming : FrameTransaction) : Bool :=
  bumped existing.maxFeePerGas incoming.maxFeePerGas &&
    bumped existing.maxPriorityFeePerGas incoming.maxPriorityFeePerGas

/-- The `status` word of a response. -/
inductive SlotStatus where
  | queued
  | replaced
  | duplicate
  | alreadyProcessed
  | broadcasting
deriving DecidableEq

/-- The status code, word and message of a response; the slot itself is echoed back. -/
structure TransactionResponse where
  code : Nat
  status : SlotStatus
  message : String
deriving DecidableEq

/-- `StatusCode::CONFLICT` with a status word and a message. -/
def conflict (status : SlotStatus) (message : String) : TransactionResponse :=
  { code := 409, status, message }

/-- How far a request has come. -/
inductive Progress where
  /-- `push_with_outcome` is next. -/
  | pushing
  /-- The slot is taken; the `HGET` of `get_job` is next. -/
  | lookingUp
  /-- The stored transaction was read; the `HGETALL` of `get_job` is next. -/
  | readingMeta (data : FrameTransaction)
  /-- The job is finished; `get_job_state` is next. -/
  | readingState
  /-- The job reads as failed; `remove_from_dedupe_set` is next. -/
  | releasing
  /-- The slot was released; the second `push_with_outcome` is next. -/
  | repushing
  /-- The fee bump over the transaction read is valid; `try_replace_pending_data` is next. -/
  | swapping (existing : FrameTransaction)
  /-- The request was answered. -/
  | answered (response : TransactionResponse)
deriving DecidableEq

variable {κ ι ο ε : Type} [LinearOrder ι]

/-- `get_job`'s second read and the branch on the job it returns. -/
def afterLookup (incoming : FrameTransaction) (existing : Job ι FrameTransaction) : Progress :=
  if existing.finishedAt.isSome then .readingState
  else if isValidFeeBump existing.data incoming then .swapping existing.data
  else .answered (conflict .duplicate
    ("A transaction for this keyed nonce slot is already pending; " ++
      "a replacement must raise both the fee cap and priority fee by at least 10%"))

/-- The branch on `get_job_state` for a finished job: a failed slot is reopened. -/
def afterState : Option (JobState ο ε) → Progress
  | some (.failed _) => .releasing
  | _ => .answered (conflict .alreadyProcessed "This keyed nonce slot has already been processed")

/-- The answer to `try_replace_pending_data`. -/
def afterSwap : ReplaceOutcome → TransactionResponse
  | .replaced =>
    { code := 200, status := .replaced,
      message := "Pending transaction replaced with higher-fee version" }
  | .active => conflict .broadcasting
      "The pending transaction is already being broadcast and can no longer be replaced"
  | .finished => conflict .alreadyProcessed "This keyed nonce slot has already been processed"
  | .notFound => conflict .duplicate "The pending transaction is no longer available to replace"

/-- The answer to the second push of `retry_failed_slot`. -/
def afterRepush : PushOutcome → TransactionResponse
  | .created =>
    { code := 202, status := .queued,
      message :=
        "Previous attempt for this keyed nonce slot failed without broadcasting; re-queued" }
  | .duplicate => conflict .duplicate "A transaction for this keyed nonce slot is already pending"

/-- The next Redis command of a request at `now`, and the progress it makes. -/
def Progress.step (store : Store ι FrameTransaction ο ε) (now : Nat)
    (job : JobOptions ι FrameTransaction) : Progress → Store ι FrameTransaction ο ε × Progress
  | .pushing =>
    match store.pushWithOutcome now job with
    | (.created, pushed) => (pushed, .answered
        { code := 202, status := .queued,
          message := "FrameTransaction received, compiled and queued" })
    | (.duplicate, same) => (same, .lookingUp)
  | .lookingUp =>
    match store.jobData job.id with
    | none => (store, .answered (conflict .duplicate
        "A transaction for this keyed nonce slot was already known"))
    | some data => (store, .readingMeta data)
  | .readingMeta data =>
    (store, afterLookup job.data (jobOf job.id data (store.jobMeta job.id)))
  | .readingState => (store, afterState (store.getJobState job.id))
  | .releasing => (store.removeFromDedupeSet job.id, .repushing)
  | .repushing =>
    let (outcome, pushed) := store.pushWithOutcome now job
    (pushed, .answered (afterRepush outcome))
  | .swapping _ =>
    let (outcome, swapped) := store.tryReplacePendingData job.id job.data
    (swapped, .answered (afterSwap outcome))
  | .answered response => (store, .answered response)

/-- The queue's keys and the progress of every request. -/
structure Service (κ ι ο ε : Type) where
  store : Store ι FrameTransaction ο ε
  progress : κ → Progress

/-- One command of a request, or one operation of a worker. -/
inductive Action (κ ι ο ε : Type) where
  | request (who : κ) (now : Nat)
  | worker (op : Op ι FrameTransaction ο ε)

/-- No job, and no request has sent its first command. -/
def Service.empty : Service κ ι ο ε := ⟨Store.empty, fun _ => .pushing⟩

variable [DecidableEq κ]

/-- The system after an action; `requests` gives each request's slot and compiled transaction. -/
def Service.step (requests : κ → JobOptions ι FrameTransaction) (options : QueueOptions)
    (service : Service κ ι ο ε) : Action κ ι ο ε → Service κ ι ο ε
  | .request who now =>
    let (store, progress) := (service.progress who).step service.store now (requests who)
    ⟨store, Function.update service.progress who progress⟩
  | .worker op => { service with store := service.store.step options op }

/-- The slot and the answer, when the action is the one that answers a request. -/
def Service.answer (requests : κ → JobOptions ι FrameTransaction) (service : Service κ ι ο ε) :
    Action κ ι ο ε → Option (ι × SlotStatus)
  | .request who now =>
    match service.progress who, ((service.progress who).step service.store now (requests who)).2 with
    | .answered _, _ => none
    | _, .answered response => some ((requests who).id, response.status)
    | _, _ => none
  | .worker _ => none

/-- The slot and the result, when the action is a completion that commits. -/
def Service.commit (service : Service κ ι ο ε) : Action κ ι ο ε → Option (ι × JobResult ο ε)
  | .worker (.complete _ job result) =>
    if service.store.holdsLease job then some (job.job.id, result) else none
  | _ => none

end OpenEngine.Api
