import Mathlib.Data.String.Basic
import OpenEngine.Broadcaster.Worker
import OpenEngine.Core.RoundTrip
import OpenEngine.Queue.Operations

/-!
# The status endpoint

`GET /transaction/:job_id` (`handle_get_transaction_state`) reads a job in four commands: its data,
its metadata, its lifecycle state and its error records. `finishedAt` comes from the second, the
status word from the third. The queue may take any steps between them, so a run of `StatusRead`
interleaves the reads of one request with the operations of everyone else. Redis errors are left
out.
-/

namespace OpenEngine.Api

open OpenEngine.Core OpenEngine.Broadcaster Queue

/-- `FailedAttempt`. -/
structure FailedAttempt where
  attempt : Nat
  at_ : Nat
  outcome : String
  message : String
  retryDelaySecs : Option Nat
deriving DecidableEq

/-- `FailedAttempt::from` an error record. -/
def FailedAttempt.of (record : JobErrorRecord BroadcasterError) : FailedAttempt :=
  let (outcome, retryDelaySecs) := match record.details with
    | .nack delay _ => ("retry", delay.map (·.secs))
    | .fail => ("terminal", none)
  { attempt := record.attempt
    at_ := record.createdAt
    outcome
    message := record.error.message
    retryDelaySecs }

/-- `JobStateResponse`. -/
structure JobStateResponse where
  jobId : String
  status : String
  attempts : Nat
  createdAt : Nat
  processedAt : Option Nat
  finishedAt : Option Nat
  txHash : Option String
  reason : Option String
  retryAfter : Option Nat
  failedAttempts : List FailedAttempt
deriving DecidableEq

/-- `StateView`. -/
structure StateView where
  status : String
  txHash : Option String := none
  reason : Option String := none
  retryAfter : Option Nat := none

/-- `describe_state`. -/
def describeState : JobState BroadcastOutcome BroadcasterError → StateView
  | .pending => { status := "pending" }
  | .deferred until_ =>
    { status := "waitingForNonce"
      reason := some
        "the predecessor sequence for a selected nonce key has not landed on-chain yet"
      retryAfter := some until_ }
  | .retrying until_ lastError =>
    { status := "retrying"
      reason := lastError.map (·.error.message)
      retryAfter := some until_ }
  | .active => { status := "broadcasting" }
  | .succeeded (.broadcast txHash) => { status := "broadcast", txHash := some txHash }
  | .succeeded (.superseded nonceSeq) =>
    { status := "superseded"
      reason := some (s!"a selected key advanced past nonce_seq {nonceSeq}; " ++
        "the transaction was dropped without being sent") }
  | .failed lastError =>
    { status := "failed"
      reason := some ((lastError.map (·.error.message)).getD "job was cancelled") }

/-- `MAX_REPORTED_FAILED_ATTEMPTS`. -/
def maxReportedFailedAttempts : Nat := 20

/-- The endpoint's answers: the job, or a 404. -/
inductive StatusAnswer where
  | found (response : JobStateResponse)
  | notFound (detail : String)

/-- How far the request has come. -/
inductive StatusProgress where
  /-- The `HGET` of `get_job` is next. -/
  | readingData
  /-- The data was read; the `HGETALL` of `get_job` is next. -/
  | readingMeta (data : FrameTransaction)
  /-- `get_job` returned; the script of `get_job_state` is next. -/
  | readingState (job : Option (Job String FrameTransaction))
  /-- Both reads found the job; the `LRANGE` of `get_job_errors` is next. -/
  | readingErrors (job : Job String FrameTransaction)
    (lifecycle : JobState BroadcastOutcome BroadcasterError)
  /-- The request was answered. -/
  | answered (answer : StatusAnswer)

/-- The transaction queue's keys. -/
abbrev TxStore := Store String FrameTransaction BroadcastOutcome BroadcasterError

/-- The branch on the job and its lifecycle state: both have to be there. -/
def requireBoth (jobId : String) (job : Option (Job String FrameTransaction))
    (lifecycle : Option (JobState BroadcastOutcome BroadcasterError)) : StatusProgress :=
  match job, lifecycle with
  | some job, some lifecycle => .readingErrors job lifecycle
  | _, _ => .answered (.notFound s!"Transaction job '{jobId}' not found")

/-- The response built from the four reads. -/
def stateResponse (job : Job String FrameTransaction)
    (lifecycle : JobState BroadcastOutcome BroadcasterError)
    (failedAttempts : List (JobErrorRecord BroadcasterError)) : JobStateResponse :=
  let view := describeState lifecycle
  { jobId := job.id
    status := view.status
    attempts := job.attempts
    createdAt := job.createdAt
    processedAt := job.processedAt
    finishedAt := job.finishedAt
    txHash := view.txHash
    reason := view.reason
    retryAfter := view.retryAfter
    failedAttempts := failedAttempts.map FailedAttempt.of }

/-- The next read of `handle_get_transaction_state`. -/
def StatusProgress.step (store : TxStore) (jobId : String) : StatusProgress → StatusProgress
  | .readingData =>
    match store.jobData jobId with
    | some data => .readingMeta data
    | none => .readingState none
  | .readingMeta data => .readingState (some (jobOf jobId data (store.jobMeta jobId)))
  | .readingState job => requireBoth jobId job (store.getJobState jobId)
  | .readingErrors job lifecycle =>
    .answered (.found (stateResponse job lifecycle
      (store.getJobErrors jobId maxReportedFailedAttempts)))
  | .answered answer => .answered answer

/-- The queue's keys and the progress of one status request. -/
structure StatusRead where
  store : TxStore
  progress : StatusProgress

/-- One read of the request, or one operation of anyone else. -/
inductive StatusTurn where
  | read
  | queue (op : Op String FrameTransaction BroadcastOutcome BroadcasterError)

/-- A request before its first read. -/
def StatusRead.start (store : TxStore) : StatusRead := ⟨store, .readingData⟩

/-- The system after a turn. -/
def StatusRead.step (options : QueueOptions) (jobId : String) (system : StatusRead) :
    StatusTurn → StatusRead
  | .read => { system with progress := system.progress.step system.store jobId }
  | .queue op => { system with store := system.store.step options op }

/-- The statuses no later status follows in one run of a job. -/
def terminalStatuses : List String := ["broadcast", "superseded", "failed"]

/-- The response reports a finish time exactly if its status is terminal. -/
def JobStateResponse.Untorn (response : JobStateResponse) : Prop :=
  response.finishedAt.isSome ↔ response.status ∈ terminalStatuses

instance (response : JobStateResponse) : Decidable response.Untorn :=
  inferInstanceAs (Decidable (_ ↔ _))

/-- Whether the job has a finish time, as the store says when the metadata is read and when the
state is. -/
def StatusRead.finishedSeen (jobId : String) (system : StatusRead) : StatusTurn → List Bool
  | .read =>
    match system.progress with
    | .readingMeta _ | .readingState _ => [(system.store.jobMeta jobId).finishedAt.isSome]
    | _ => []
  | .queue _ => []

/-- A job that has ended, well or not. -/
def isTerminal {ο ε : Type} : JobState ο ε → Bool
  | .succeeded _ | .failed _ => true
  | _ => false

/-- The status word is terminal exactly if the lifecycle state is. -/
theorem describeState_terminal (lifecycle : JobState BroadcastOutcome BroadcasterError) :
    (describeState lifecycle).status ∈ terminalStatuses ↔ isTerminal lifecycle := by
  cases lifecycle with
  | succeeded outcome => cases outcome <;> simp [describeState, terminalStatuses, isTerminal]
  | _ => simp [describeState, terminalStatuses, isTerminal]

/-- The state script answers with a terminal state exactly if the finish time is there. -/
theorem isTerminal_getJobState {store : TxStore} {jobId : String}
    {lifecycle : JobState BroadcastOutcome BroadcasterError}
    (read : store.getJobState jobId = some lifecycle) :
    isTerminal lifecycle = (store.jobMeta jobId).finishedAt.isSome := by
  unfold Store.getJobState at read
  dsimp only at read
  split at read
  · contradiction
  split at read
  · next finished =>
    rw [finished]
    split at read <;> (obtain rfl := Option.some.inj read; rfl)
  · next unfinished =>
    rw [Bool.eq_false_iff.mpr unfinished]
    split at read
    · obtain rfl := Option.some.inj read
      rfl
    · split at read <;> (obtain rfl := Option.some.inj read; rfl)

/-- What the request holds is what the reads so far saw. -/
def StatusProgress.Holds (seen : List Bool) : StatusProgress → Prop
  | .readingData | .readingMeta _ | .readingState none => seen = []
  | .readingState (some job) => seen = [job.finishedAt.isSome]
  | .readingErrors job lifecycle => seen = [job.finishedAt.isSome, isTerminal lifecycle]
  | .answered (.found response) =>
    seen = [response.finishedAt.isSome, decide (response.status ∈ terminalStatuses)]
  | .answered (.notFound _) => True

/-- Every turn keeps what the request holds in step with what its reads saw. -/
theorem StatusRead.holds_step (options : QueueOptions) (jobId : String) (system : StatusRead)
    (turn : StatusTurn) (seen : List Bool) (holds : system.progress.Holds seen) :
    (system.step options jobId turn).progress.Holds (seen ++ system.finishedSeen jobId turn) := by
  obtain ⟨store, progress⟩ := system
  cases turn with
  | queue op => simpa [StatusRead.step, StatusRead.finishedSeen] using holds
  | read =>
    simp only [StatusRead.step, StatusRead.finishedSeen]
    cases progress with
    | readingData =>
      simp only [StatusProgress.step, List.append_nil]
      split <;> exact holds
    | readingMeta data =>
      have none : seen = [] := holds
      rw [none]
      rfl
    | readingState job =>
      cases found : store.getJobState jobId with
      | none => cases job <;> simp [StatusProgress.step, requireBoth, found, StatusProgress.Holds]
      | some lifecycle =>
        cases job with
        | none => simp [StatusProgress.step, requireBoth, StatusProgress.Holds]
        | some job =>
          have first : seen = [job.finishedAt.isSome] := holds
          simp [StatusProgress.step, requireBoth, found, StatusProgress.Holds, first,
            isTerminal_getJobState found]
    | readingErrors job lifecycle =>
      have both : seen = [job.finishedAt.isSome, isTerminal lifecycle] := holds
      simp [StatusProgress.step, StatusProgress.Holds, both, stateResponse, describeState_terminal]
    | answered answer => simpa [StatusProgress.step] using holds

/-- In every interleaving of a status request with the queue, a 200 response is untorn exactly if
the job's finish time was there at the read of its state as it was at the read of its metadata. -/
theorem status_untorn_iff (options : QueueOptions) (jobId : String) (store : TxStore)
    (turns : List StatusTurn) (response : JobStateResponse)
    (answered : (Transition.run (StatusRead.step options jobId) (StatusRead.start store)
      turns).progress = .answered (.found response)) :
    response.Untorn ↔ ∃ there, Transition.trace (StatusRead.step options jobId)
      (StatusRead.finishedSeen jobId) (StatusRead.start store) turns = [there, there] := by
  have holds := Transition.run_traced (StatusRead.finishedSeen jobId)
    (fun system seen => system.progress.Holds seen)
    (fun system turn seen holds _ => system.holds_step options jobId turn seen holds)
    (StatusRead.start store) turns [] rfl (Transition.along_true _ turns)
  rw [answered, List.nil_append] at holds
  simp only [StatusProgress.Holds] at holds
  have same : response.Untorn ↔
      response.finishedAt.isSome = decide (response.status ∈ terminalStatuses) := by
    exact (Bool.eq_iff_iff.trans (iff_congr Iff.rfl decide_eq_true_iff)).symm
  rw [holds, same]
  constructor
  · intro equal
    exact ⟨response.finishedAt.isSome, by rw [← equal]⟩
  · rintro ⟨there, seen⟩
    obtain ⟨first, second, -⟩ : _ ∧ _ ∧ True := by simpa using seen
    rw [first, second]

/-- A worker holds the job of a transaction under its first lease. -/
def borrowedSlot (id : String) : BorrowedJob String FrameTransaction where
  job :=
    { id, data := testTx, attempts := 1, createdAt := 0, processedAt := some 1, finishedAt := none }
  leaseToken := { now := 1, jobId := id, attempts := 1, popId := some "a" }

/-- A slot's transaction is queued and popped. -/
def queuedAndPopped (id : String) : List StatusTurn :=
  [.queue (.push 0 { data := testTx, id }), .queue (.pop 1 "a" 1)]

/-- The worker broadcasts the transaction of the slot. -/
def broadcastDone (id : String) : StatusTurn :=
  .queue (.complete 2 (borrowedSlot id) (.ok (.broadcast "0xabc")))

/-- Reads that all come after the broadcast report it with its finish time. -/
theorem status_untorn_afterBroadcast :
    ∃ response : JobStateResponse, response.status = "broadcast" ∧ response.finishedAt = some 2 ∧
      (response.Untorn ↔ ∃ there, Transition.trace (StatusRead.step {} "s:0:7")
        (StatusRead.finishedSeen "s:0:7") (StatusRead.start Store.empty)
        (queuedAndPopped "s:0:7" ++ [broadcastDone "s:0:7", .read, .read, .read, .read]) =
          [there, there]) := by
  refine ⟨_, ?_, ?_, status_untorn_iff {} "s:0:7" Store.empty _ _ rfl⟩
  · rfl
  · rfl

/-- The worker's completion falls between the reads of the metadata and of the state: the response
says `broadcast` and reports no finish time. -/
theorem status_torn_byCompletion :
    ∃ response : JobStateResponse,
      (Transition.run (StatusRead.step {} "s:0:7") (StatusRead.start Store.empty)
        (queuedAndPopped "s:0:7" ++ [.read, .read, broadcastDone "s:0:7", .read, .read])).progress =
          .answered (.found response) ∧
        response.status = "broadcast" ∧ response.finishedAt = none ∧ ¬response.Untorn := by
  refine ⟨_, rfl, ?_, ?_, ?_⟩
  · rfl
  · rfl
  · decide +kernel

end OpenEngine.Api
