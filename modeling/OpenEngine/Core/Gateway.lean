import OpenEngine.Core.Text

/-!
# The outside world

The parties the compiler talks to: the node behind a `ChainGateway` and the sponsor's `Signer`.
Their answers are arbitrary functions of the question. What a node reports for logs only is left
out.
-/

namespace OpenEngine.Core

/-- `GatewayError`. -/
inductive GatewayError where
  | rpcError (message : String)
  | transport (message : String)
  | unsupportedMethod (method : String)
deriving DecidableEq

/-- `GatewayError::to_string`. -/
def GatewayError.text : GatewayError → String
  | .rpcError message => s!"RPC error: {message}"
  | .transport message => s!"transport failure reaching the node: {message}"
  | .unsupportedMethod method => s!"RPC method not supported by the node: {method}"

/-- `GatewayError::is_transient`. -/
def GatewayError.isTransient : GatewayError → Bool
  | .transport _ => true
  | .rpcError _ | .unsupportedMethod _ => false

/-- `GatewayError::is_non_answer`. -/
def GatewayError.isNonAnswer : GatewayError → Bool
  | .transport _ | .unsupportedMethod _ => true
  | .rpcError _ => false

/-- `PrefixOutcome`. -/
inductive PrefixOutcome where
  | passed
  | violated (violation : String)
  | declined (reason : String)
deriving DecidableEq

/-- `PrefixOutcome::is_answer`. -/
def PrefixOutcome.isAnswer : PrefixOutcome → Bool
  | .declined _ => false
  | .passed | .violated _ => true

/-- `Execution`. -/
inductive Execution where
  | succeeded
  | reverted (failedFrames : List Nat)
  | errored (error : String)
  | unrecognized (status : String)
deriving DecidableEq

/-- `Simulation`, as far as it is judged. -/
structure Simulation where
  outcome : PrefixOutcome
  execution : Option Execution
deriving DecidableEq

/-- `Simulation::rejection_reason`. -/
def Simulation.rejectionReason (sim : Simulation) : Option String :=
  match sim.outcome, sim.execution with
  | .violated reason, _ => some reason
  | _, some (.errored reason) => some reason
  | _, _ => none

/-- `ChainGateway`, as far as the compiler asks it. -/
structure ChainGateway where
  getKeyedNonceSeq : Address → U256 → Except GatewayError UInt64
  simulateFrameTransaction : FrameTransaction → Except GatewayError Simulation

/-- `SignerError`. -/
inductive SignerError where
  | signError (message : String)
  | initError (message : String)
  | refused (detail : String)
  | unavailable (detail : String)
deriving DecidableEq

/-- `SignerError::to_string`. -/
def SignerError.text : SignerError → String
  | .signError message => s!"Failed to sign payload: {message}"
  | .initError message => s!"Failed to initialize signer: {message}"
  | .refused detail => s!"Sponsor declined to sign: {detail}"
  | .unavailable detail => s!"Sponsor authority unreachable: {detail}"

/-- `Signer`, as far as the compiler asks it. -/
structure Signer where
  address : Address
  signSponsorFrame : FrameTransaction → B256 → Except SignerError Bytes

end OpenEngine.Core
