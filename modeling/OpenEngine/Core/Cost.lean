import OpenEngine.Number.Saturating
import OpenEngine.Core.Encoding

/-!
# Who pays and how much

The payer scan and the cost formulas of `core/src/domain.rs`. Gas is a `u64` and cost a `U256`; both
saturate.
-/

namespace OpenEngine.Core

/-- Whether the target is the expiry verifier's address. -/
def Frame.targetsExpiryVerifier (frame : Frame) : Bool :=
  toLowercase (frame.target.getD "") = toLowercase expiryVerifierAddress

/-- A `VERIFY` frame for the expiry verifier, skipped wherever the prefix is inspected. -/
def Frame.isExpiryFrame (frame : Frame) : Bool :=
  frame.targetsExpiryVerifier ∧ frame.mode = .verify

/-- The loop of `pay_frame` from an index on. -/
def payFrameFrom : Nat → List Frame → Option (Nat × Frame)
  | _, [] => none
  | index, frame :: rest =>
    if frame.isExpiryFrame then payFrameFrom (index + 1) rest
    else if frame.mode ≠ .verify ∨ frame.flags &&& 0x01 = 0 then payFrameFrom (index + 1) rest
    else if frame.flags &&& 0x03 = 0x01 then some (index, frame)
    else none

/-- `pay_frame`. -/
def FrameTransaction.payFrame (tx : FrameTransaction) : Option (Nat × Frame) :=
  payFrameFrom 0 tx.frames

/-- Verification gas of one scheme; unknown schemes contribute nothing. -/
def signatureCost (scheme : UInt8) : Nat :=
  if scheme = frameSigSchemeArbitrary then frameSigCostArbitrary
  else if scheme = frameSigSchemeSecp256k1 then frameSigCostSecp256k1
  else if scheme = frameSigSchemeP256 then frameSigCostP256
  else 0

/-- `signature_verification_cost`. -/
def FrameTransaction.signatureVerificationCost (tx : FrameTransaction) : Nat :=
  (tx.signatures.map fun sig => signatureCost sig.scheme).foldl (Saturating.add 64) 0

/-- The calldata gas of `total_gas_limit`. -/
def FrameTransaction.calldataGas (alloy : Alloy) (tx : FrameTransaction) : Nat :=
  let calldataGas := Saturating.add 64 (calldataCost (encodeFrames alloy tx.frames))
    (calldataCost (encodeSignatures alloy tx.signatures))
  if tx.recentRootReferences.isEmpty then calldataGas
  else
    Saturating.add 64 calldataGas
      (calldataCost (encodeRecentRootReferences tx.recentRootReferences))

/-- The recent-root gas of `total_gas_limit`. -/
def FrameTransaction.recentRootGas (tx : FrameTransaction) : Nat :=
  if tx.recentRootReferences.isEmpty then 0
  else
    Saturating.add 64 frameTxRecentRootReferenceAddressGas
      (Saturating.mul 64 tx.recentRootReferences.length frameTxRecentRootReferenceGas)

/-- The sum of the frame gas limits. -/
def FrameTransaction.frameGas (tx : FrameTransaction) : Nat :=
  (tx.frames.map fun frame => frame.gasLimit.toNat).foldl (Saturating.add 64) 0

/-- `total_gas_limit`. -/
def FrameTransaction.totalGasLimit (alloy : Alloy) (tx : FrameTransaction) : Nat :=
  let total := Saturating.add 64 frameTxIntrinsicCost
    (Saturating.mul 64 tx.frames.length frameTxPerFrameCost)
  let total := Saturating.add 64 total (tx.calldataGas alloy)
  let total := Saturating.add 64 total tx.signatureVerificationCost
  let total := Saturating.add 64 total tx.frameGas
  Saturating.add 64 total tx.recentRootGas

/-- The blob part of `max_cost`. -/
def FrameTransaction.blobCost (tx : FrameTransaction) : Nat :=
  Saturating.mul 256 (Saturating.mul 256 tx.blobVersionedHashes.length 131072)
    (tx.maxFeePerBlobGas.getD 0).toNat

/-- `max_cost`. -/
def FrameTransaction.maxCost (alloy : Alloy) (tx : FrameTransaction) : U256 :=
  let gasCost := Saturating.mul 256 (tx.maxFeePerGas.getD 0).toNat (tx.totalGasLimit alloy)
  BitVec.ofNat 256 (Saturating.add 256 gasCost tx.blobCost)

end OpenEngine.Core
