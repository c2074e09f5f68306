import OpenEngine.Core.Encoding
import OpenEngine.Core.Gateway
import OpenEngine.Queue.Job

/-!
# The mempool broadcaster

`MempoolBroadcaster::process` of `broadcaster/src/worker.rs`, the handler of the transaction queue:
it reads the current sequence of every nonce key, holds, drops or broadcasts the transaction, and
says what becomes of the job. Each call has a gateway of its own, so a node may answer differently
every time. Log lines are left out.
-/

namespace OpenEngine.Broadcaster

open OpenEngine.Core Queue

/-- `NONCE_HOLD_RETRY_SECS`. -/
def nonceHoldRetrySecs : Nat := 6

/-- `MAX_NONCE_HOLD_SECS`. -/
def maxNonceHoldSecs : Nat := 300

/-- `BROADCAST_RETRY_SECS`. -/
def broadcastRetrySecs : Nat := 5

/-- `MAX_BROADCAST_ATTEMPTS`. -/
def maxBroadcastAttempts : Nat := 24

/-- `BroadcasterError`. -/
structure BroadcasterError where
  message : String
deriving DecidableEq

/-- `BroadcastOutcome`. -/
inductive BroadcastOutcome where
  | broadcast (txHash : String)
  | superseded (nonceSeq : UInt64)
deriving DecidableEq

/-- `ChainGateway`, as far as the broadcaster asks it. -/
structure BroadcastGateway extends ChainGateway where
  sendRawTransaction : Bytes → Except GatewayError B256

/-- `SeqState`. -/
inductive SeqState where
  | executable
  | future
  | superseded
deriving DecidableEq

/-- The loop of `resolve_seq_state` with its two flags. -/
def resolveKeys (gateway : ChainGateway) (sender : Address) (seq : UInt64)
    (superseded allReady : Bool) : List U256 → Except BroadcasterError SeqState
  | [] => .ok (if superseded then .superseded else if allReady then .executable else .future)
  | key :: rest =>
    match gateway.getKeyedNonceSeq sender key with
    | .error e =>
      let reason := e.text
      .error ⟨s!"Failed to fetch keyed nonce from RPC: {reason}"⟩
    | .ok current =>
      resolveKeys gateway sender seq (superseded || seq < current) (allReady && seq = current) rest

/-- `resolve_seq_state`. -/
def resolveSeqState (gateway : ChainGateway) (sender : Address) (tx : FrameTransaction)
    (seq : UInt64) : Except BroadcasterError SeqState :=
  resolveKeys gateway sender seq false true tx.effectiveNonceKeys

variable {ι : Type}

/-- The `SeqState::Future` branch: wait for the predecessor, up to a deadline. -/
def holdFuture (now : Nat) (job : BorrowedJob ι FrameTransaction) (seq : UInt64) :
    JobResult BroadcastOutcome BroadcasterError :=
  let waited := now - job.job.createdAt
  let stated := seq.toNat
  if maxNonceHoldSecs ≤ waited then
    .error (.fail ⟨s!"Predecessor sequence not reached: nonce_seq {stated} still ahead of the " ++
      s!"current keyed sequence after {waited}s"⟩)
  else .error (.defer (.fromSecs nonceHoldRetrySecs) .first)

/-- What the job error says about a rejected broadcast. -/
def rejectionDetail (gateway : ChainGateway) (tx : FrameTransaction) : String :=
  let diagnosis := match gateway.simulateFrameTransaction tx with
    | .ok sim => sim.rejectionReason
    | .error _ => none
  match diagnosis with
  | some reason => s!" (simulation: {reason})"
  | none => ""

/-- The network broadcast of an executable transaction. -/
def broadcast (alloy : Alloy) (gateway : BroadcastGateway) (job : BorrowedJob ι FrameTransaction) :
    JobResult BroadcastOutcome BroadcasterError :=
  let tx := job.job.data
  match tx.validateWireFormat alloy with
  | .error e =>
    let reason := e.message
    .error (.fail ⟨s!"Unencodable frame transaction: {reason}"⟩)
  | .ok _ =>
    match gateway.sendRawTransaction (tx.encodeTransaction alloy) with
    | .ok hash => .ok (.broadcast ("0x" ++ alloy.hexEncode hash.val))
    | .error e =>
      let reason := e.text
      if e.isTransient then
        let attempts := job.job.attempts
        if maxBroadcastAttempts ≤ attempts then
          .error (.fail ⟨s!"Node unreachable after {attempts} attempts: {reason}"⟩)
        else
          .error (.nack ⟨s!"Broadcast unreachable: {reason}"⟩ (some (.fromSecs broadcastRetrySecs))
            .first)
      else
        let detail := rejectionDetail gateway.toChainGateway tx
        .error (.fail ⟨s!"Broadcast failed: {reason}{detail}"⟩)

/-- `MempoolBroadcaster::process`. -/
def process (alloy : Alloy) (gateway : BroadcastGateway) (now : Nat)
    (job : BorrowedJob ι FrameTransaction) : JobResult BroadcastOutcome BroadcasterError :=
  match alloy.parseAddress job.job.data.sender with
  | none => .error (.fail ⟨"Invalid sender address"⟩)
  | some sender =>
    match job.job.data.nonceSeq with
    | none =>
      .error (.fail ⟨"Transaction nonce_seq is missing and must be resolved before signing"⟩)
    | some seq =>
      match resolveSeqState gateway.toChainGateway sender job.job.data seq with
      | .error e => .error (.nack e (some (.fromSecs 5)) .first)
      | .ok .superseded => .ok (.superseded seq)
      | .ok .future => holdFuture now job seq
      | .ok .executable => broadcast alloy gateway job

end OpenEngine.Broadcaster
