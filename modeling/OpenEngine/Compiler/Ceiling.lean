import OpenEngine.Compiler.Pipeline
import OpenEngine.Core.RoundTrip
import OpenEngine.Core.ExactCost

/-!
# The spend ceiling

The ceiling is checked against the cost of the transaction as submitted, with the sponsor's
placeholder still unfilled. The signature that is then written costs calldata gas of its own, so the
transaction that is returned stays under the ceiling exactly when the ceiling leaves room for it.
-/

namespace OpenEngine.Core.FrameTransaction

/-- The cost from the parts of its sum. -/
theorem maxCost_of_parts {alloy : Alloy} {tx : FrameTransaction} {fee other signatures blobs : Nat}
    (fees : (tx.maxFeePerGas.getD 0).toNat = fee) (others : tx.otherGas alloy = other)
    (signed : tx.signatureGas alloy = signatures) (blobbed : tx.blobCost = blobs) :
    (tx.maxCost alloy).toNat =
      min (fee * min (other + signatures) (Saturating.top 64) + blobs) (Saturating.top 256) := by
  rw [toNat_maxCost, totalGasLimit_eq, fees, others, signed, blobbed]

/-- The gas that new signatures add to a total, as far as the total can still grow. -/
def addedGas (alloy : Alloy) (tx : FrameTransaction) (signatures : List FrameSignature) : Nat :=
  min (calldataCost (encodeSignatures alloy signatures) - tx.signatureGas alloy)
    (Saturating.top 64 - tx.totalGasLimit alloy)

/-- Replacing signature bytes changes the total by the gas they add, or lowers it. -/
theorem totalGasLimit_fill {alloy : Alloy} {tx : FrameTransaction}
    {signatures : List FrameSignature}
    (schemes : signatures.map (fun sig => signatureCost sig.scheme) =
      tx.signatures.map (fun sig => signatureCost sig.scheme)) :
    ({ tx with signatures := signatures } : FrameTransaction).totalGasLimit alloy -
      tx.totalGasLimit alloy = tx.addedGas alloy signatures := by
  have other : ({ tx with signatures := signatures } : FrameTransaction).otherGas alloy =
      tx.otherGas alloy := by
    unfold otherGas signatureVerificationCost
    rw [schemes]
    rfl
  unfold addedGas
  rw [totalGasLimit_eq, totalGasLimit_eq, other]
  unfold signatureGas
  dsimp only
  omega

/-- A saturated cost stays under a bound exactly when the bound is the top or leaves room for what
the larger gas adds. -/
theorem cost_le_iff {fee gas later blobs ceiling : Nat} (bounded : ceiling ≤ Saturating.top 256)
    (under : min (fee * gas + blobs) (Saturating.top 256) ≤ ceiling) :
    min (fee * later + blobs) (Saturating.top 256) ≤ ceiling ↔
      ceiling = Saturating.top 256 ∨
        fee * (later - gas) ≤ ceiling - min (fee * gas + blobs) (Saturating.top 256) := by
  rcases Nat.le_total gas later with grows | shrinks
  · obtain ⟨added, rfl⟩ := Nat.exists_eq_add_of_le grows
    rw [Nat.mul_add, Nat.add_sub_cancel_left]
    omega
  · have cheaper : fee * later ≤ fee * gas := Nat.mul_le_mul_left fee shrinks
    rw [Nat.sub_eq_zero_of_le shrinks, Nat.mul_zero]
    omega

/-- A transaction under a ceiling stays under it with new signatures exactly when the ceiling is the
top or leaves room for the gas they add. -/
theorem maxCost_fill_le_iff {alloy : Alloy} {tx : FrameTransaction}
    {signatures : List FrameSignature} {ceiling : U256}
    (schemes : signatures.map (fun sig => signatureCost sig.scheme) =
      tx.signatures.map (fun sig => signatureCost sig.scheme))
    (under : tx.maxCost alloy ≤ ceiling) :
    ({ tx with signatures := signatures } : FrameTransaction).maxCost alloy ≤ ceiling ↔
      ceiling.toNat = Saturating.top 256 ∨
        (tx.maxFeePerGas.getD 0).toNat * tx.addedGas alloy signatures ≤
          ceiling.toNat - (tx.maxCost alloy).toNat := by
  have bounded : ceiling.toNat ≤ Saturating.top 256 := Nat.le_sub_one_of_lt ceiling.isLt
  rw [BitVec.le_def, toNat_maxCost] at under
  rw [BitVec.le_def, toNat_maxCost, toNat_maxCost, ← totalGasLimit_fill schemes]
  exact cost_le_iff bounded under

end OpenEngine.Core.FrameTransaction

namespace OpenEngine.Compiler

open OpenEngine.Core

namespace FrameCompiler

variable {σ : Type}

/-- The ceiling is the top, or the gap between it and the cost as submitted pays for the calldata
gas that the signer's signature adds. -/
def RoomForSignature (compiler : FrameCompiler σ) (tx : FrameTransaction) (ceiling : U256) : Prop :=
  ceiling.toNat = Saturating.top 256 ∨
    ∃ signer signature signatures, compiler.sponsorSigner = some signer ∧
      signer.signSponsorFrame tx (tx.computeSigHash compiler.alloy) = .ok signature ∧
      fillSignature (compiler.alloy.lowerHex signer.address) (compiler.alloy.hexEncode signature)
        tx.signatures = some signatures ∧
      (tx.maxFeePerGas.getD 0).toNat * tx.addedGas compiler.alloy signatures ≤
        ceiling.toNat - (tx.maxCost compiler.alloy).toNat

/-- Filling an entry keeps every scheme. -/
theorem schemes_fillSignature {sponsorAddress signature : String}
    {signatures filled : List FrameSignature}
    (fills : fillSignature sponsorAddress signature signatures = some filled) :
    filled.map (fun sig => signatureCost sig.scheme) =
      signatures.map (fun sig => signatureCost sig.scheme) := by
  obtain ⟨before, entry, after, parts, filledParts, _⟩ := fillSignature_eq_some fills
  rw [parts, filledParts, List.map_append, List.map_append, List.map_cons, List.map_cons]

/-- A transaction that passes the guards costs at most the ceiling. -/
theorem maxCost_le_of_guarded {policy : SponsorPolicy σ} {alloy : Alloy} {tx : FrameTransaction}
    {ceiling : U256} (limited : policy.maxCostWei = some ceiling)
    (guarded : policy.checkStateless alloy tx = .ok ()) : tx.maxCost alloy ≤ ceiling := by
  obtain ⟨_, _, rest⟩ := Check.bind_eq_ok.mp guarded
  obtain ⟨_, _, checked⟩ := Check.bind_eq_ok.mp rest
  rw [SponsorPolicy.checkCeiling, limited] at checked
  dsimp only at checked
  split at checked
  · cases checked
  · next under => exact BitVec.not_lt.mp under

/-- The signed transaction that is returned costs at most the ceiling exactly when the ceiling left
room for the signature. -/
theorem ceiling_kept_iff (compiler : FrameCompiler σ) (state later : σ)
    (tx returned : FrameTransaction) (ceiling : U256)
    (limited : compiler.policy.maxCostWei = some ceiling)
    (compiled : compiler.compileAndValidate state tx = (.ok returned, later))
    (sponsored : compiler.resolvePayer tx = .sponsor) :
    returned.maxCost compiler.alloy ≤ ceiling ↔ compiler.RoomForSignature tx ceiling := by
  obtain ⟨signer, signature, signatures, injected⟩ :=
    compileAndValidate_sponsored compiled sponsored
  have under := maxCost_le_of_guarded limited injected.guarded
  have room : compiler.RoomForSignature tx ceiling ↔ ceiling.toNat = Saturating.top 256 ∨
      (tx.maxFeePerGas.getD 0).toNat * tx.addedGas compiler.alloy signatures ≤
        ceiling.toNat - (tx.maxCost compiler.alloy).toNat := by
    unfold RoomForSignature
    simp only [injected.held, Option.some.injEq, exists_and_left, exists_eq_left',
      injected.signed, Except.ok.injEq, injected.fills]
  rw [room, injected.whole]
  exact FrameTransaction.maxCost_fill_le_iff (schemes_fillSignature injected.fills) under

end FrameCompiler

/-- The entry that `sponsoringEngine` fills, as it is written. -/
theorem filledTx_signatures (digest : B256) :
    (filledTx "").signatures.map (FrameSignature.wire (Alloy.reference digest) false) =
      [{ scheme := frameSigSchemeSecp256k1
         signer := List.replicate 20 0x22
         msg := []
         signature := 0x00 :: List.replicate 64 0x11 }] := by
  have unmarked : stripPrefix "0x" "0x2222222222222222222222222222222222222222" =
      some "2222222222222222222222222222222222222222" := by
    decide +kernel
  have decoded : (Alloy.reference digest).hexDecode "2222222222222222222222222222222222222222" =
      .ok (List.replicate 20 0x22) := by
    change Hex.decode _ = _
    decide +kernel
  have signer : (Alloy.reference digest).decodeHexBytes
      "0x2222222222222222222222222222222222222222" = List.replicate 20 0x22 := by
    rw [Alloy.decodeHexBytes, unmarked, Option.getD_some, if_neg (by decide), decoded]
    rfl
  have msg : (Alloy.reference digest).decodeHexBytes "" = [] :=
    (Alloy.reads_blank (by decide)).decodeHexBytes
  have signature : (Alloy.reference digest).decodeHexBytes
      (Hex.encode (0x00 :: List.replicate 64 0x11)) = 0x00 :: List.replicate 64 0x11 :=
    ((Alloy.reference digest).reads_hexEncode _).decodeHexBytes
  simp only [filledTx, List.map_cons, List.map_nil, FrameSignature.wire, FrameSignature.sigBytes,
    signer, msg, signature, Bool.false_eq_true, false_and, if_false]

/-- The calldata gas of the filled entry. -/
theorem filledTx_signatureGas (digest : B256) :
    (filledTx "").signatureGas (Alloy.reference digest) = 1492 := by
  have items := congrArg (List.map WireSignature.item) (filledTx_signatures digest)
  rw [List.map_map] at items
  rw [FrameTransaction.signatureGas, encodeSignatures_eq]
  change calldataCost (Rlp.Item.list (List.map (WireSignature.item ∘ _) _)).encode = _
  rw [items]
  decide +kernel

/-- What `sponsoredTx` costs as submitted. -/
theorem sponsoredTx_maxCost :
    (sponsoredTx "").maxCost (sponsoringEngine none).alloy = 2395800 := by
  decide +kernel

/-- What `sponsoredTx` costs once it is signed. -/
theorem filledTx_maxCost : (filledTx "").maxCost (sponsoringEngine none).alloy = 2417320 := by
  have others : (filledTx "").otherGas (sponsoringEngine none).alloy = 119374 := by decide +kernel
  have cost := FrameTransaction.maxCost_of_parts rfl others
    (filledTx_signatureGas sponsoredDigest) rfl
  exact BitVec.eq_of_toNat_eq (cost.trans (by decide))

namespace FrameCompiler

/-- `sponsoredTx` is returned under every ceiling that its submitted cost is within. -/
theorem sponsoredTx_limited {ceiling : U256} (within : 2395800 ≤ ceiling) :
    (sponsoringEngine (some ceiling)).compileAndValidate () (sponsoredTx "") =
      (.ok (filledTx ""), ()) := by
  rw [← sponsoredTx_maxCost] at within
  have same := @prepare_limited Unit (sponsoringEngine none).alloy (sponsoringEngine none).gateway
    (sponsoringEngine none).sponsorSigner (sponsoringEngine none).policy (sponsoredTx "") ceiling
    rfl within
  exact compile_of_reserved (same.trans sponsoredTx_prepared) rfl

/-- Under a ceiling with room to spare the signed transaction stays under it. -/
theorem ceiling_kept_spare :
    (filledTx "").maxCost (sponsoringEngine (some 2417320)).alloy ≤ 2417320 ↔
      (sponsoringEngine (some 2417320)).RoomForSignature (sponsoredTx "") 2417320 :=
  ceiling_kept_iff (sponsoringEngine (some 2417320)) () () (sponsoredTx "") (filledTx "") 2417320
    rfl (sponsoredTx_limited (by decide)) sponsoredTx_sponsored

/-- A ceiling of exactly the submitted cost is passed by a transaction whose signed form exceeds
it. -/
theorem ceiling_exceeded :
    (sponsoringEngine (some 2395800)).policy.maxCostWei = some 2395800 ∧
      (sponsoringEngine (some 2395800)).compileAndValidate () (sponsoredTx "") =
        (.ok (filledTx ""), ()) ∧
      (sponsoringEngine (some 2395800)).resolvePayer (sponsoredTx "") = .sponsor ∧
      ¬ (filledTx "").maxCost (sponsoringEngine (some 2395800)).alloy ≤ 2395800 := by
  have cost : (filledTx "").maxCost (sponsoringEngine (some 2395800)).alloy = 2417320 :=
    filledTx_maxCost
  refine ⟨rfl, sponsoredTx_limited (by decide), sponsoredTx_sponsored, ?_⟩
  rw [cost]
  decide

end FrameCompiler

end OpenEngine.Compiler
