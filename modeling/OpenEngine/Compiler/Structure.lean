import Mathlib.Data.List.Chain
import OpenEngine.Core.Cost

/-!
# Structural validation

`validate_structure` of `compiler/src/lib.rs`, check by check in the source's order. The gas of the
validation prefix is summed in `u64`, whose plain additions wrap in a release build.
-/

namespace OpenEngine.Compiler

open OpenEngine.Core

/-- `CompilerError`. -/
inductive CompilerError where
  | validation (detail : String)
  | simulation (detail : String)
  | unavailable (detail : String)
  | signing (detail : String)
  | policy (detail : String)
  | payerIntent (detail : String)
deriving DecidableEq

/-- `CompilerError::to_string`. -/
def CompilerError.text : CompilerError → String
  | .validation detail => s!"Invalid transaction format: {detail}"
  | .simulation detail => s!"Simulation failed: {detail}"
  | .unavailable detail => s!"Node unreachable: {detail}"
  | .signing detail => s!"Failed to sign frame: {detail}"
  | .policy detail => s!"Sponsor policy rejected the transaction: {detail}"
  | .payerIntent detail => s!"Payer intent mismatch: {detail}"

/-- The fee checks. -/
def validateFees (tx : FrameTransaction) : Except CompilerError Unit :=
  match tx.maxFeePerGas, tx.maxPriorityFeePerGas with
  | some maxFee, some priorityFee =>
    let fee := maxFee.toNat
    let tip := priorityFee.toNat
    Check.refuseIf (maxFee < priorityFee)
      (.validation s!"max_priority_fee_per_gas {tip} exceeds max_fee_per_gas {fee}")
  | _, _ =>
    .error (.validation ("max_fee_per_gas and max_priority_fee_per_gas are required: they are " ++
      "part of the signed transaction hash and cannot be set after signing"))

/-- The frame count checks. -/
def validateFrameCount (tx : FrameTransaction) : Except CompilerError Unit := do
  Check.refuseIf (tx.frames = []) (.validation "Transaction must have at least one frame")
  Check.refuseIf (frameTxMaxFrames < tx.frames.length)
    (.validation s!"Transaction exceeds MAX_FRAMES limit of {frameTxMaxFrames}")

/-- The keyed nonce checks. -/
def validateNonce (tx : FrameTransaction) : Except CompilerError Unit := do
  let nonceKeys := tx.effectiveNonceKeys
  let count := nonceKeys.length
  Check.refuseIf (frameTxMaxNonceKeys < count)
    (.validation s!"nonce_keys count {count} exceeds MAX_NONCE_KEYS {frameTxMaxNonceKeys}")
  Check.refuseIf (¬ nonceKeys.IsChain (· < ·))
    (.validation "nonce_keys must be strictly increasing")
  Check.refuseIf (1 < count ∧ nonceKeys.head? = some 0)
    (.validation "nonce key 0 (legacy account nonce) is only valid as the sole key")
  Check.refuseIf (tx.nonceSeq = some (UInt64.ofNat (2 ^ 64 - 1)))
    (.validation "nonce_seq must be < 2**64 - 1")

/-- The recent-root reference check. -/
def validateReferences (tx : FrameTransaction) : Except CompilerError Unit :=
  let count := tx.recentRootReferences.length
  Check.refuseIf (frameTxMaxRecentRootReferences < count)
    (.validation (s!"recent_root_references count {count} exceeds " ++
      s!"MAX_RECENT_ROOT_REFERENCES {frameTxMaxRecentRootReferences}"))

/-- The scheme check of one signature. -/
def validateScheme (_ : Nat) (sig : FrameSignature) : Except CompilerError Unit :=
  let scheme := sig.scheme.toNat
  Check.refuseIf (sig.scheme ≠ frameSigSchemeArbitrary ∧ sig.scheme ≠ frameSigSchemeSecp256k1 ∧
      sig.scheme ≠ frameSigSchemeP256)
    (.validation s!"Invalid signature scheme: {scheme}")

/-- The `data_len` of an expiry frame, from the length of its string. -/
def expiryDataLen (frame : Frame) : Nat :=
  if (stripPrefix "0x" frame.data).isSome then (frame.data.utf8ByteSize - 2) / 2
  else frame.data.utf8ByteSize / 2

/-- The checks of one frame, wherever it stands. -/
def validateFrame (count i : Nat) (frame : Frame) : Except CompilerError Unit := do
  Check.refuseIf (frame.mode ≠ .sender ∧
      ¬ (frame.value = "0" ∨ frame.value = "0x0" ∨ frame.value = ""))
    (.validation "Value must be 0 for VERIFY and DEFAULT frames")
  Check.refuseIf (frame.flags &&& 0x04 ≠ 0 ∧ i + 1 = count)
    (.validation "ATOMIC_BATCH_FLAG cannot be set on the last frame")
  Check.refuseIf (frame.isExpiryFrame ∧ frame.flags ≠ 0)
    (.validation "Expiry verifier frame must have flags=0")
  Check.refuseIf (frame.isExpiryFrame ∧ expiryDataLen frame ≠ 8)
    (.validation "Expiry verifier frame data length must be exactly 8 bytes")

/-- The loop that collects the validation prefix: gas so far, the prefix, and whether it approves
payment. -/
def collectPrefix (gas : UInt64) : List Frame → UInt64 × List Frame × Bool
  | [] => (gas, [], false)
  | frame :: rest =>
    if frame.isExpiryFrame then collectPrefix gas rest
    else if frame.mode = .verify ∧ frame.flags &&& 0x01 ≠ 0 then
      (gas + frame.gasLimit, [frame], true)
    else
      let (total, collected, approved) := collectPrefix (gas + frame.gasLimit) rest
      (total, frame :: collected, approved)

/-- The initial `verify_gas_limit`. -/
def baseVerifyGas (alloy : Alloy) (tx : FrameTransaction) : UInt64 :=
  UInt64.ofNat frameTxIntrinsicCost +
    UInt64.ofNat tx.frames.length * UInt64.ofNat frameTxPerFrameCost +
    UInt64.ofNat (calldataCost (encodeSignatures alloy tx.signatures)) +
    UInt64.ofNat (calldataCost (encodeFrames alloy tx.frames)) +
    UInt64.ofNat tx.signatureVerificationCost

/-- `is_sender_target`. -/
def isSenderTarget (tx : FrameTransaction) (frame : Frame) : Bool :=
  let target := frame.target.getD ""
  target = "" ∨ toLowercase target = toLowercase tx.sender

/-- `is_deploy`. -/
def isDeploy (frame : Frame) : Bool := frame.mode = .default

/-- `is_self_verify`. -/
def isSelfVerify (tx : FrameTransaction) (frame : Frame) : Bool :=
  frame.mode = .verify ∧ isSenderTarget tx frame ∧ frame.flags &&& 0x03 = 0x03

/-- `is_only_verify`. -/
def isOnlyVerify (tx : FrameTransaction) (frame : Frame) : Bool :=
  frame.mode = .verify ∧ isSenderTarget tx frame ∧ frame.flags &&& 0x03 = 0x02

/-- `is_pay`. -/
def isPay (frame : Frame) : Bool := frame.mode = .verify ∧ frame.flags &&& 0x03 = 0x01

/-- `valid_prefix`: one of the four shapes. -/
def validPrefix (tx : FrameTransaction) : List Frame → Bool
  | [f1] => isSelfVerify tx f1
  | [f1, f2] => (isDeploy f1 && isSelfVerify tx f2) || (isOnlyVerify tx f1 && isPay f2)
  | [f1, f2, f3] => isDeploy f1 && isOnlyVerify tx f2 && isPay f3
  | _ => false

/-- The checks of the collected prefix. -/
def validatePrefix (alloy : Alloy) (tx : FrameTransaction) : Except CompilerError Unit := do
  let (verifyGasLimit, validationPrefix, payerApproved) :=
    collectPrefix (baseVerifyGas alloy tx) tx.frames
  let gas := verifyGasLimit.toNat
  Check.refuseIf (payerApproved = false)
    (.validation "Transaction validation prefix did not approve payment")
  Check.refuseIf (maxVerifyGas < gas)
    (.validation s!"Validation prefix gas limit {gas} exceeds MAX_VERIFY_GAS {maxVerifyGas}")
  Check.refuseIf (∃ frame ∈ validationPrefix, frame.flags &&& 0x04 ≠ 0)
    (.validation "ATOMIC_BATCH_FLAG is not allowed in the validation prefix")
  Check.refuseIf (validPrefix tx validationPrefix = false)
    (.validation "Validation prefix does not match any allowed public mempool structure")

/-- `validate_structure`. -/
def validateStructure (alloy : Alloy) (tx : FrameTransaction) : Except CompilerError Unit := do
  match tx.validateWireFormat alloy with
  | .error e => .error (.validation e.message)
  | .ok _ => do
    validateFees tx
    validateFrameCount tx
    validateNonce tx
    validateReferences tx
    Check.each validateScheme 0 tx.signatures
    Check.each (validateFrame tx.frames.length) 0 tx.frames
    validatePrefix alloy tx

end OpenEngine.Compiler
