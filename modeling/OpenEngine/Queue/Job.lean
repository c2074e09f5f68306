import Mathlib.Algebra.Order.Ring.Nat

/-!
# Jobs, leases and queue options

The value types of `queue/src/job.rs` and `queue/src/queue.rs`. Job ids and the data, output and
error types of the handler stay parameters, as `DurableExecution` leaves them. Stored values are
kept as typed values: what `serde_json` writes is assumed to read back as itself. Timestamps are
epoch seconds.
-/

namespace OpenEngine.Queue

/-- `std::time::Duration`: whole seconds and the nanoseconds below one. A delay or a lease is added
to the clock in `u64` arithmetic, in Lua numbers and in Redis's milliseconds, which wraps, rounds or
is refused by `EXPIRE` for durations above the bound. -/
structure Duration where
  /-- `as_secs`. -/
  secs : Nat
  /-- `subsec_nanos`. -/
  nanos : Nat := 0
  /-- The seconds are exact as a Lua number and in range for `EXPIRE`. -/
  secs_le : secs ≤ 2 ^ 53
deriving DecidableEq

/-- `Duration::ZERO`. -/
def Duration.zero : Duration := { secs := 0, secs_le := Nat.zero_le _ }

/-- `Duration::from_secs`; the longest duration for more seconds than it has. -/
def Duration.fromSecs (secs : Nat) : Duration :=
  { secs := min secs (2 ^ 53), secs_le := Nat.min_le_right _ _ }

/-- `delay_to_queue_seconds`: a delay below one second still waits one. -/
def delayToQueueSeconds (delay : Duration) : Nat :=
  if delay = Duration.zero then 0 else if delay.secs = 0 then 1 else delay.secs

/-- Where a requeued job re-enters the pending list. -/
inductive RequeuePosition where
  | first
  | last
deriving DecidableEq

/-- A delay and the position a delayed job re-enters at. -/
structure DelayOptions where
  delay : Duration
  position : RequeuePosition
deriving DecidableEq

/-- `JobError`: how a handler run ended without a result. -/
inductive JobError (ε : Type) where
  /-- A failed attempt that is retried. -/
  | nack (error : ε) (delay : Option Duration) (position : RequeuePosition)
  /-- The terminal failure. -/
  | fail (error : ε)
  /-- A benign hold: requeued without an error record or an attempt. -/
  | defer (delay : Duration) (position : RequeuePosition)

/-- `JobResult`. -/
abbrev JobResult (ο ε : Type) := Except (JobError ε) ο

/-- The five ways a job's attempt ends: a `Nack` with a delay is requeued differently from one
without. -/
theorem JobResult.cases {ο ε : Type} {motive : JobResult ο ε → Prop}
    (ok : ∀ output, motive (.ok output))
    (retry : ∀ error delay position, motive (.error (.nack error (some delay) position)))
    (nack : ∀ error position, motive (.error (.nack error none position)))
    (fail : ∀ error, motive (.error (.fail error)))
    (defer : ∀ delay position, motive (.error (.defer delay position))) (result : JobResult ο ε) :
    motive result := by
  cases result with
  | ok output => exact ok output
  | error failure =>
    cases failure with
    | nack error delay position =>
      cases delay with
      | none => exact nack error position
      | some delay => exact retry error delay position
    | fail error => exact fail error
    | defer delay position => exact defer delay position

/-- `JobErrorType`. -/
inductive JobErrorType where
  | nack (delay : Option Duration) (position : RequeuePosition)
  | fail
deriving DecidableEq

/-- `JobErrorRecord`. -/
structure JobErrorRecord (ε : Type) where
  error : ε
  attempt : Nat
  details : JobErrorType
  createdAt : Nat

/-- `Job`. -/
structure Job (ι δ : Type) where
  id : ι
  data : δ
  attempts : Nat
  createdAt : Nat
  processedAt : Option Nat
  finishedAt : Option Nat
deriving DecidableEq

/-- The token a pop builds as `now .. '_' .. job_id .. '_' .. attempts .. '_' .. pop_id`, by its
parts. The pop id has a fixed width, so the printed token determines them for one job. A pop of
the multilane queue has no pop id. -/
structure LeaseToken (ι : Type) where
  now : Nat
  jobId : ι
  attempts : Int
  popId : Option String
deriving DecidableEq

/-- The clock and the pop id of the pop that issued a token. -/
def LeaseToken.stamp {ι : Type} (token : LeaseToken ι) : Nat × Option String :=
  (token.now, token.popId)

/-- `BorrowedJob`: a job a worker holds under a lease. -/
structure BorrowedJob (ι δ : Type) where
  job : Job ι δ
  leaseToken : LeaseToken ι
deriving DecidableEq

/-- `JobOptions`: what a caller pushes. -/
structure JobOptions (ι δ : Type) where
  data : δ
  id : ι
  delay : Option DelayOptions := none

/-- `JobState`: where a job sits in its lifecycle. -/
inductive JobState (ο ε : Type) where
  | pending
  | deferred (until_ : Nat)
  | retrying (until_ : Nat) (lastError : Option (JobErrorRecord ε))
  | active
  | succeeded (output : ο)
  | failed (lastError : Option (JobErrorRecord ε))

/-- The job reads as failed, whatever error it carries. -/
def JobState.isFailed {ο ε : Type} : JobState ο ε → Bool
  | .failed _ => true
  | _ => false

/-- `IdempotencyMode`: how long a finished id stays in the dedupe set. -/
inductive IdempotencyMode where
  | permanent
  | active
deriving DecidableEq

/-- The fields of `QueueOptions` the queue scripts read, with the source's defaults. -/
structure QueueOptions where
  maxSuccess : Nat := 1000
  maxFailed : Nat := 10000
  maxJobErrors : Nat := 50
  leaseDuration : Duration := .fromSecs 30
  idempotencyMode : IdempotencyMode := .permanent

/-- `PushOutcome`. -/
inductive PushOutcome where
  | created
  | duplicate
deriving DecidableEq

/-- `ReplaceOutcome`. -/
inductive ReplaceOutcome where
  | replaced
  | notFound
  | active
  | finished
deriving DecidableEq

/-- `CancelResult`. -/
inductive CancelResult where
  | cancelledImmediately
  | cancellationPending
  | notFound
deriving DecidableEq

/-- Reading a stored counter as `u32`; a value out of range does not parse. -/
def parseU32 (stored : Int) : Option Nat :=
  if 0 ≤ stored ∧ stored < 2 ^ 32 then some stored.toNat else none

end OpenEngine.Queue
