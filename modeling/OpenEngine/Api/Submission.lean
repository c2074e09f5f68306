import Mathlib.Data.String.Basic
import OpenEngine.Api.Resubmission
import OpenEngine.Api.SlotIdentity
import OpenEngine.Api.SpendLaw

/-!
# A request from start to end

`handle_transaction` with nothing between its commands: the rate limit, the nonce sequence, the
compilation with its reservation, and the queue. Connection errors of the queue are left out.
-/

namespace OpenEngine.Api

open OpenEngine.Core OpenEngine.Compiler Queue Redis

/-- The errors of `ApiError` that a request can end in. -/
inductive ApiError where
  | badRequest (detail : String)
  | unavailable (detail : String)
  | tooManyRequests (detail : String)
deriving DecidableEq

/-- One `POST /transaction`, with all that is outside the engine as it behaves in the meantime. -/
structure Post where
  now : Nat
  /-- What the rate limiter answers, if it refuses. -/
  limited : Option String
  /-- Why the policy store cannot be reached, if it cannot. -/
  outage : Option String
  gateway : ChainGateway
  sponsorSigner : Option Signer
  policy : SponsorPolicy Unit
  payload : FrameTransaction

/-- The compiler a request meets. -/
def Post.compiler (post : Post) (alloy : Alloy) : FrameCompiler Unit where
  alloy := alloy
  gateway := post.gateway
  sponsorSigner := post.sponsorSigner
  policy := post.policy

/-- The part of `handle_transaction` before the queue: the job to push, or the error. -/
def Post.intake (post : Post) (alloy : Alloy) (store : Option RedisPolicyStore)
    (counters : Counters String) :
    Except ApiError (JobOptions String FrameTransaction) × Counters String :=
  match post.limited with
  | some detail => (.error (.tooManyRequests detail), counters)
  | none =>
    match post.payload.nonceSeq with
    | none =>
      (.error (.badRequest ("nonce_seq is required: it is part of the signed transaction hash " ++
        "and identifies the keyed nonce slot")), counters)
    | some nonceSeq =>
      match ((post.compiler alloy).withStore store post.now post.outage).compileAndValidate counters
        post.payload with
      | (.ok compiled, later) => (.ok { data := compiled, id := jobId compiled nonceSeq }, later)
      | (.error (.unavailable detail), later) =>
        (.error (.unavailable s!"Unreachable, retry unchanged: {detail}"), later)
      | (.error other, later) => (.error (.badRequest other.text), later)

/-- A request with a sequence that is not held back and that compiles is admitted. -/
theorem Post.intake_of_compiled {post : Post} {alloy : Alloy} {store : Option RedisPolicyStore}
    {counters later : Counters String} {nonceSeq : UInt64} {compiled : FrameTransaction}
    (unlimited : post.limited = none) (sequenced : post.payload.nonceSeq = some nonceSeq)
    (compiles : ((post.compiler alloy).withStore store post.now post.outage).compileAndValidate
      counters post.payload = (.ok compiled, later)) :
    post.intake alloy store counters =
      (.ok { data := compiled, id := jobId compiled nonceSeq }, later) := by
  unfold intake
  rw [unlimited, sequenced]
  dsimp only
  rw [compiles]

/-- A request for `sponsoredTx`. -/
def sponsoredPost : Post where
  now := 1000
  limited := none
  outage := none
  gateway := (sponsoringEngine none).gateway
  sponsorSigner := (sponsoringEngine none).sponsorSigner
  policy := (sponsoringEngine none).policy
  payload := sponsoredTx ""

/-- The job of `sponsoredPost`. -/
def sponsoredJob : JobOptions String FrameTransaction where
  data := filledTx ""
  id := jobId (filledTx "") 0

/-- A request that is admitted was compiled. -/
theorem Post.compiled_of_intake {post : Post} {alloy : Alloy} {store : Option RedisPolicyStore}
    {counters later : Counters String} {job : JobOptions String FrameTransaction}
    (admitted : post.intake alloy store counters = (.ok job, later)) :
    ((post.compiler alloy).withStore store post.now post.outage).compileAndValidate counters
      post.payload = (.ok job.data, later) := by
  unfold intake at admitted
  split at admitted
  · cases congrArg Prod.fst admitted
  · split at admitted
    · cases congrArg Prod.fst admitted
    · next nonceSeq _ =>
      split at admitted
      · next compiled after isCompiled =>
        have same : ({ data := compiled, id := jobId compiled nonceSeq } :
            JobOptions String FrameTransaction) = job := Except.ok.inj (congrArg Prod.fst admitted)
        have ends : after = later := congrArg Prod.snd admitted
        rw [isCompiled, ends, ← same]
      · cases congrArg Prod.fst admitted
      · cases congrArg Prod.fst admitted

/-- A request that is refused did not reach the compiler or was refused by it. -/
theorem Post.compiled_of_refused {post : Post} {alloy : Alloy} {store : Option RedisPolicyStore}
    {counters later : Counters String} {failure : ApiError}
    (refused : post.intake alloy store counters = (.error failure, later)) :
    later = counters ∨ ∃ cause,
      ((post.compiler alloy).withStore store post.now post.outage).compileAndValidate counters
        post.payload = (.error cause, later) := by
  unfold intake at refused
  split at refused
  · exact .inl (congrArg Prod.snd refused).symm
  · split at refused
    · exact .inl (congrArg Prod.snd refused).symm
    · split at refused
      · cases congrArg Prod.fst refused
      · next detail after isRefused =>
        have ends : after = later := congrArg Prod.snd refused
        rw [ends] at isRefused
        exact .inr ⟨_, isRefused⟩
      · next cause after _ isRefused =>
        have ends : after = later := congrArg Prod.snd refused
        rw [ends] at isRefused
        exact .inr ⟨_, isRefused⟩

section Queue

variable {ι ο ε : Type} [LinearOrder ι]

/-- `retry_failed_slot`. -/
def retryFailedSlot (store : Store ι FrameTransaction ο ε) (now : Nat)
    (job : JobOptions ι FrameTransaction) : TransactionResponse × Store ι FrameTransaction ο ε :=
  let (outcome, pushed) := (store.removeFromDedupeSet job.id).pushWithOutcome now job
  (afterRepush outcome, pushed)

/-- `handle_resubmission`. -/
def handleResubmission (store : Store ι FrameTransaction ο ε) (now : Nat)
    (job : JobOptions ι FrameTransaction) : TransactionResponse × Store ι FrameTransaction ο ε :=
  match store.jobData job.id with
  | none =>
    (conflict .duplicate "A transaction for this keyed nonce slot was already known", store)
  | some data =>
    let existing := jobOf job.id data (store.jobMeta job.id)
    if existing.finishedAt.isSome then
      match store.getJobState job.id with
      | some (.failed _) => retryFailedSlot store now job
      | _ =>
        (conflict .alreadyProcessed "This keyed nonce slot has already been processed", store)
    else if isValidFeeBump existing.data job.data then
      let (outcome, swapped) := store.tryReplacePendingData job.id job.data
      (afterSwap outcome, swapped)
    else
      (conflict .duplicate
        ("A transaction for this keyed nonce slot is already pending; " ++
          "a replacement must raise both the fee cap and priority fee by at least 10%"), store)

/-- The part of `handle_transaction` from the push on. -/
def submit (store : Store ι FrameTransaction ο ε) (now : Nat)
    (job : JobOptions ι FrameTransaction) : TransactionResponse × Store ι FrameTransaction ο ε :=
  match store.pushWithOutcome now job with
  | (.created, pushed) =>
    ({ code := 202, status := .queued,
       message := "FrameTransaction received, compiled and queued" }, pushed)
  | (.duplicate, same) => handleResubmission same now job

/-- One command of a request that is alone. -/
def advance (now : Nat) (job : JobOptions ι FrameTransaction)
    (point : Store ι FrameTransaction ο ε × Progress) : Store ι FrameTransaction ο ε × Progress :=
  point.2.step point.1 now job

/-- A request that was answered sends no more commands. -/
theorem advance_answered (now : Nat) (job : JobOptions ι FrameTransaction)
    (store : Store ι FrameTransaction ο ε) (response : TransactionResponse) (count : Nat) :
    (advance now job)^[count] (store, .answered response) = (store, .answered response) :=
  Function.iterate_fixed rfl count

/-- A resubmission that is alone is answered after at most five commands. -/
theorem advance_lookingUp (now : Nat) (job : JobOptions ι FrameTransaction)
    (store : Store ι FrameTransaction ο ε) :
    (advance now job)^[5] (store, .lookingUp) =
      ((handleResubmission store now job).2, .answered (handleResubmission store now job).1) := by
  unfold handleResubmission
  rw [Function.iterate_succ_apply]
  cases found : store.jobData job.id with
  | none =>
    have looked : advance now job (store, .lookingUp) = (store, .answered
        (conflict .duplicate "A transaction for this keyed nonce slot was already known")) := by
      simp only [advance, Progress.step, found]
    rw [looked, advance_answered]
  | some data =>
    have looked : advance now job (store, .lookingUp) = (store, .readingMeta data) := by
      simp only [advance, Progress.step, found]
    rw [looked, Function.iterate_succ_apply]
    dsimp only
    have read : advance now job (store, .readingMeta data) =
        (store, afterLookup job.data (jobOf job.id data (store.jobMeta job.id))) := rfl
    rw [read]
    unfold afterLookup
    split
    · rw [Function.iterate_succ_apply]
      have state : advance now job (store, .readingState) =
          (store, afterState (store.getJobState job.id)) := rfl
      rw [state]
      cases known : store.getJobState job.id with
      | none => rfl
      | some status =>
        cases status with
        | failed lastError => rfl
        | pending => rfl
        | deferred until_ => rfl
        | retrying until_ lastError => rfl
        | active => rfl
        | succeeded output => rfl
    · split
      · rfl
      · rw [advance_answered]

/-- A request that is alone is answered after at most six commands, as `handle_transaction` does. -/
theorem advance_pushing (now : Nat) (job : JobOptions ι FrameTransaction)
    (store : Store ι FrameTransaction ο ε) :
    (advance now job)^[6] (store, .pushing) =
      ((submit store now job).2, .answered (submit store now job).1) := by
  rw [Function.iterate_succ_apply]
  unfold submit
  cases pushed : store.pushWithOutcome now job with
  | mk outcome after =>
    cases outcome with
    | created =>
      have answered : advance now job (store, .pushing) = (after, .answered
          { code := 202, status := .queued,
            message := "FrameTransaction received, compiled and queued" }) := by
        simp only [advance, Progress.step, pushed]
      rw [answered, advance_answered]
    | duplicate =>
      have taken : advance now job (store, .pushing) = (after, .lookingUp) := by
        simp only [advance, Progress.step, pushed]
      rw [taken, advance_lookingUp]

end Queue

/-- The queue's keys and the sponsor's counters. -/
structure Engine (ο ε : Type) where
  jobs : Store String FrameTransaction ο ε
  counters : Counters String

variable {ο ε : Type}

/-- `handle_transaction`. -/
def Engine.handleTransaction (engine : Engine ο ε) (alloy : Alloy)
    (store : Option RedisPolicyStore) (post : Post) :
    Except ApiError TransactionResponse × Engine ο ε :=
  match post.intake alloy store engine.counters with
  | (.error failure, counters) => (.error failure, { engine with counters })
  | (.ok job, counters) =>
    let (response, jobs) := submit engine.jobs (nowSecs post.now) job
    (.ok response, { jobs, counters })

/-- A request that is refused changes at most the counters. -/
theorem Engine.handleTransaction_of_refused {engine : Engine ο ε} {alloy : Alloy}
    {store : Option RedisPolicyStore} {post : Post} {failure : ApiError} {later : Counters String}
    (refused : post.intake alloy store engine.counters = (.error failure, later)) :
    engine.handleTransaction alloy store post =
      (.error failure, { engine with counters := later }) := by
  unfold handleTransaction
  rw [refused]

/-- A request that is admitted is submitted to the queue. -/
theorem Engine.handleTransaction_of_admitted {engine : Engine ο ε} {alloy : Alloy}
    {store : Option RedisPolicyStore} {post : Post} {job : JobOptions String FrameTransaction}
    {later : Counters String}
    (admitted : post.intake alloy store engine.counters = (.ok job, later)) :
    engine.handleTransaction alloy store post =
      (.ok (submit engine.jobs (nowSecs post.now) job).1,
        { jobs := (submit engine.jobs (nowSecs post.now) job).2, counters := later }) := by
  unfold handleTransaction
  rw [admitted]

/-- A whole request, or one operation of a worker. -/
inductive Turn (ο ε : Type) where
  | post (post : Post)
  | worker (op : Op String FrameTransaction ο ε)

/-- The engine after a turn. -/
def Engine.step (alloy : Alloy) (store : Option RedisPolicyStore) (options : QueueOptions)
    (engine : Engine ο ε) : Turn ο ε → Engine ο ε
  | .post post => (engine.handleTransaction alloy store post).2
  | .worker op => { engine with jobs := engine.jobs.step options op }

end OpenEngine.Api
