import OpenEngine.Core.Cost
import OpenEngine.Core.RoundTrip

/-!
# The cost, summed exactly

The gas total and the cost are built of saturating steps at two widths. Each comes to the exact sum,
cut off at the top of its width: a step that saturates on the way leaves a sum that is above the top
anyway. So a higher fee never lowers the cost.
-/

namespace OpenEngine.Core

/-- The exact calldata gas of some bytes. -/
def dataGas (data : Bytes) : Nat := (data.map fun byte => if byte = 0 then 4 else 16).sum

/-- A byte costs at most 16 gas. -/
theorem dataGas_le (data : Bytes) : dataGas data ≤ 16 * data.length := by
  induction data with
  | nil => exact Nat.le_refl 0
  | cons byte data ih =>
    have one : (if byte = 0 then 4 else 16) ≤ 16 := by
      split <;> decide
    unfold dataGas at ih ⊢
    rw [List.map_cons, List.sum_cons, List.length_cons]
    omega

/-- The calldata gas of fewer than 2^59 bytes fits a `u64`. -/
theorem calldataCost_of_short {data : Bytes} (short : data.length < 2 ^ 59) :
    calldataCost data = dataGas data := by
  have most := dataGas_le data
  exact Nat.mod_eq_of_lt (by change dataGas data < 2 ^ 64; omega)

namespace FrameTransaction

/-- The gas that does not depend on signature bytes, summed exactly. -/
def otherGas (alloy : Alloy) (tx : FrameTransaction) : Nat :=
  frameTxIntrinsicCost + Saturating.mul 64 tx.frames.length frameTxPerFrameCost +
    calldataCost (encodeFrames alloy tx.frames) +
    (if tx.recentRootReferences.isEmpty then 0
      else calldataCost (encodeRecentRootReferences tx.recentRootReferences)) +
    tx.signatureVerificationCost + tx.frameGas + tx.recentRootGas

/-- The calldata gas of the signature list. -/
def signatureGas (alloy : Alloy) (tx : FrameTransaction) : Nat :=
  calldataCost (encodeSignatures alloy tx.signatures)

/-- The calldata gas is its exact sum, cut off at the top. -/
theorem calldataGas_eq (alloy : Alloy) (tx : FrameTransaction) :
    tx.calldataGas alloy = min
      (calldataCost (encodeFrames alloy tx.frames) + tx.signatureGas alloy +
        (if tx.recentRootReferences.isEmpty then 0
          else calldataCost (encodeRecentRootReferences tx.recentRootReferences)))
      (Saturating.top 64) := by
  unfold calldataGas signatureGas
  dsimp only
  split
  · rw [Nat.add_zero]
    rfl
  · exact Saturating.add_min_left

/-- The total gas is the exact sum, cut off at the top. -/
theorem totalGasLimit_eq (alloy : Alloy) (tx : FrameTransaction) :
    tx.totalGasLimit alloy =
      min (tx.otherGas alloy + tx.signatureGas alloy) (Saturating.top 64) := by
  unfold totalGasLimit otherGas
  dsimp only
  rw [calldataGas_eq, Saturating.add_min_right, Saturating.add_min_left, Saturating.add_min_left,
    Saturating.add_min_left]
  generalize (if tx.recentRootReferences.isEmpty then 0
    else calldataCost (encodeRecentRootReferences tx.recentRootReferences)) = references
  unfold Saturating.add
  omega

/-- The cost is the exact sum, cut off at the top. -/
theorem toNat_maxCost (alloy : Alloy) (tx : FrameTransaction) :
    (tx.maxCost alloy).toNat =
      min ((tx.maxFeePerGas.getD 0).toNat * tx.totalGasLimit alloy + tx.blobCost)
        (Saturating.top 256) := by
  unfold maxCost
  dsimp only
  rw [show Saturating.mul 256 (tx.maxFeePerGas.getD 0).toNat (tx.totalGasLimit alloy) =
    min ((tx.maxFeePerGas.getD 0).toNat * tx.totalGasLimit alloy) (Saturating.top 256) from rfl,
    Saturating.add_min_left]
  have below : Saturating.top 256 < 2 ^ 256 := by decide +kernel
  rw [BitVec.toNat_ofNat, Nat.mod_eq_of_lt]
  omega

/-- The exact gas total. -/
def exactGas (alloy : Alloy) (tx : FrameTransaction) : Nat :=
  frameTxIntrinsicCost + tx.frames.length * frameTxPerFrameCost +
    (dataGas (encodeFrames alloy tx.frames) + dataGas (encodeSignatures alloy tx.signatures) +
      if tx.recentRootReferences.isEmpty then 0
      else dataGas (encodeRecentRootReferences tx.recentRootReferences)) +
    (tx.signatures.map fun sig => signatureCost sig.scheme).sum +
    (tx.frames.map fun frame => frame.gasLimit.toNat).sum +
    if tx.recentRootReferences.isEmpty then 0
    else frameTxRecentRootReferenceAddressGas +
      tx.recentRootReferences.length * frameTxRecentRootReferenceGas

/-- The exact cost of a gas total. -/
def exactCost (alloy : Alloy) (tx : FrameTransaction) : Nat :=
  (tx.maxFeePerGas.getD 0).toNat * tx.totalGasLimit alloy +
    tx.blobVersionedHashes.length * 131072 * (tx.maxFeePerBlobGas.getD 0).toNat

/-- Verification gas is the exact sum, cut off at the top. -/
theorem signatureVerificationCost_eq (tx : FrameTransaction) :
    tx.signatureVerificationCost =
      min (tx.signatures.map fun sig => signatureCost sig.scheme).sum (Saturating.top 64) := by
  rw [signatureVerificationCost, Saturating.foldl_add _ 0 (Nat.zero_le _), Nat.zero_add]

/-- Frame gas is the exact sum, cut off at the top. -/
theorem frameGas_eq (tx : FrameTransaction) :
    tx.frameGas =
      min (tx.frames.map fun frame => frame.gasLimit.toNat).sum (Saturating.top 64) := by
  rw [frameGas, Saturating.foldl_add _ 0 (Nat.zero_le _), Nat.zero_add]

/-- Recent-root gas is the exact sum, cut off at the top, and nothing without references. -/
theorem recentRootGas_eq (tx : FrameTransaction) :
    tx.recentRootGas = min (if tx.recentRootReferences.isEmpty then 0
      else frameTxRecentRootReferenceAddressGas +
        tx.recentRootReferences.length * frameTxRecentRootReferenceGas) (Saturating.top 64) := by
  unfold recentRootGas
  split
  · exact (Nat.zero_min _).symm
  · exact Saturating.add_min_right

/-- The gas total is the exact one, cut off at the top. -/
theorem totalGasLimit_eq_exactGas {alloy : Alloy} {tx : FrameTransaction}
    (frames : (encodeFrames alloy tx.frames).length < 2 ^ 59)
    (signatures : (encodeSignatures alloy tx.signatures).length < 2 ^ 59)
    (references : (encodeRecentRootReferences tx.recentRootReferences).length < 2 ^ 59) :
    tx.totalGasLimit alloy = min (tx.exactGas alloy) (Saturating.top 64) := by
  have perFrame : Saturating.mul 64 tx.frames.length frameTxPerFrameCost =
      min (tx.frames.length * frameTxPerFrameCost) (Saturating.top 64) := rfl
  rw [totalGasLimit_eq, otherGas, signatureGas, exactGas, calldataCost_of_short frames,
    calldataCost_of_short signatures, calldataCost_of_short references,
    signatureVerificationCost_eq, frameGas_eq, recentRootGas_eq, perFrame]
  omega

/-- The blob cost is the exact product, cut off at the top. -/
theorem blobCost_eq (tx : FrameTransaction) :
    tx.blobCost = min (tx.blobVersionedHashes.length * 131072 * (tx.maxFeePerBlobGas.getD 0).toNat)
      (Saturating.top 256) :=
  Saturating.mul_min_left

/-- The cost is the exact one, cut off at the top. -/
theorem maxCost_eq_exactCost (alloy : Alloy) (tx : FrameTransaction) :
    (tx.maxCost alloy).toNat = min (tx.exactCost alloy) (Saturating.top 256) := by
  rw [toNat_maxCost, blobCost_eq, exactCost]
  omega

/-- A higher fee cap does not lower the cost. -/
theorem maxCost_mono_fee (alloy : Alloy) (tx : FrameTransaction) {fee : Option U128}
    (higher : tx.maxFeePerGas.getD 0 ≤ fee.getD 0) :
    tx.maxCost alloy ≤ ({ tx with maxFeePerGas := fee } : FrameTransaction).maxCost alloy := by
  rw [BitVec.le_def] at higher ⊢
  rw [toNat_maxCost, toNat_maxCost]
  have gas := Nat.mul_le_mul_right (tx.totalGasLimit alloy) higher
  have same : ({ tx with maxFeePerGas := fee } : FrameTransaction).blobCost = tx.blobCost := rfl
  have total : ({ tx with maxFeePerGas := fee } : FrameTransaction).totalGasLimit alloy =
      tx.totalGasLimit alloy := rfl
  rw [same, total]
  exact min_le_min_right _ (Nat.add_le_add_right gas _)

/-- A higher blob fee does not lower the cost. -/
theorem maxCost_mono_blobFee (alloy : Alloy) (tx : FrameTransaction) {fee : Option U256}
    (higher : tx.maxFeePerBlobGas.getD 0 ≤ fee.getD 0) :
    tx.maxCost alloy ≤ ({ tx with maxFeePerBlobGas := fee } : FrameTransaction).maxCost alloy := by
  rw [BitVec.le_def] at higher ⊢
  rw [toNat_maxCost, toNat_maxCost, blobCost_eq, blobCost_eq]
  have blobs := Nat.mul_le_mul_left (tx.blobVersionedHashes.length * 131072) higher
  have total : ({ tx with maxFeePerBlobGas := fee } : FrameTransaction).totalGasLimit alloy =
      tx.totalGasLimit alloy := rfl
  rw [total]
  exact min_le_min_right _ (Nat.add_le_add_left (min_le_min_right _ blobs) _)

/-- The gas total and the cost of a transaction are the exact sums, cut off at the top of their
widths, and a higher fee of either kind does not lower the cost. A value of more than 32 bytes is
read by its low 256 bits here; the source panics on it. -/
theorem cost_saturates_exactly {alloy : Alloy} {tx : FrameTransaction}
    (frames : (encodeFrames alloy tx.frames).length < 2 ^ 59)
    (signatures : (encodeSignatures alloy tx.signatures).length < 2 ^ 59)
    (references : (encodeRecentRootReferences tx.recentRootReferences).length < 2 ^ 59) :
    tx.totalGasLimit alloy = min (2 ^ 64 - 1) (tx.exactGas alloy) ∧
    (tx.maxCost alloy).toNat = min (2 ^ 256 - 1) (tx.exactCost alloy) ∧
    (∀ fee : Option U128, tx.maxFeePerGas.getD 0 ≤ fee.getD 0 →
      tx.maxCost alloy ≤ ({ tx with maxFeePerGas := fee } : FrameTransaction).maxCost alloy) ∧
    ∀ fee : Option U256, tx.maxFeePerBlobGas.getD 0 ≤ fee.getD 0 →
      tx.maxCost alloy ≤
        ({ tx with maxFeePerBlobGas := fee } : FrameTransaction).maxCost alloy := by
  refine ⟨?_, ?_, fun _ => maxCost_mono_fee alloy tx, fun _ => maxCost_mono_blobFee alloy tx⟩
  · rw [totalGasLimit_eq_exactGas frames signatures references, Nat.min_comm]
    rfl
  · rw [maxCost_eq_exactCost, Nat.min_comm]
    rfl

/-- The total of the encoder's test transaction is exact. -/
theorem cost_saturates_exactly_testTx :
    testTx.totalGasLimit testAlloy = min (2 ^ 64 - 1) (testTx.exactGas testAlloy) :=
  (cost_saturates_exactly (by decide +kernel) (by decide +kernel) (by decide +kernel)).1

end FrameTransaction

end OpenEngine.Core
