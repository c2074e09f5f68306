import OpenEngine.Compiler.Ceiling
import OpenEngine.Compiler.Grammar

/-!
# The validator and the filled placeholder

The structure is validated before the sponsor's signature is written. Every check but one gives the
same answer afterwards; the gas of validation counts the calldata of the signature list, so it grows
by what the signature costs.
-/

namespace OpenEngine.Compiler

open OpenEngine.Core

/-- The `verify_gas_limit` that `validate_structure` compares with `MAX_VERIFY_GAS`. -/
def verifyGasLimit (alloy : Alloy) (tx : FrameTransaction) : Nat :=
  (collectPrefix (baseVerifyGas alloy tx) tx.frames).1.toNat

section Validator

variable {alloy : Alloy} {tx : FrameTransaction} {signatures : List FrameSignature}

/-- What the scan collects does not depend on the gas it starts with. -/
theorem collectPrefix_snd (gas other : UInt64) (frames : List Frame) :
    (collectPrefix gas frames).2 = (collectPrefix other frames).2 := by
  induction frames generalizing gas other with
  | nil => rfl
  | cons frame rest ih =>
    unfold collectPrefix
    split
    · exact ih gas other
    · split
      · rfl
      · have same := ih (gas + frame.gasLimit) (other + frame.gasLimit)
        rw [Prod.ext_iff] at same ⊢
        exact ⟨congrArg (frame :: ·) same.1, same.2⟩

/-- The prefix checks pass exactly if the scan found a prefix of an allowed shape within the gas. -/
theorem validatePrefix_eq_ok : validatePrefix alloy tx = .ok () ↔
    verifyGasLimit alloy tx ≤ maxVerifyGas ∧
      (collectPrefix 0 tx.frames).2.2 = true ∧
      (∀ frame ∈ (collectPrefix 0 tx.frames).2.1, frame.flags &&& 0x04 = 0) ∧
      validPrefix tx (collectPrefix 0 tx.frames).2.1 := by
  rw [collectPrefix_snd 0 (baseVerifyGas alloy tx) tx.frames]
  unfold validatePrefix verifyGasLimit
  rcases collectPrefix (baseVerifyGas alloy tx) tx.frames with ⟨total, collected, approved⟩
  simp only [Check.seq_eq_ok, Check.refuseIf_eq_ok, Bool.not_eq_false, Nat.not_lt, not_exists,
    not_and, not_not]
  exact and_left_comm

/-- The gas the scan ends with, as one sum in `u64`. -/
theorem verifyGasLimit_eq : verifyGasLimit alloy tx =
    (frameTxIntrinsicCost + tx.frames.length * frameTxPerFrameCost +
      calldataCost (encodeSignatures alloy tx.signatures) +
      calldataCost (encodeFrames alloy tx.frames) + tx.signatureVerificationCost +
      ((collectPrefix 0 tx.frames).2.1.map fun frame => frame.gasLimit.toNat).sum) % 2 ^ 64 := by
  rw [verifyGasLimit, collectPrefix_gas, collectPrefix_snd _ 0, toNat_foldl_gas, baseVerifyGas]
  simp only [UInt64.toNat_add, UInt64.toNat_mul, UInt64.toNat_ofNat', Nat.mod_add_mod,
    Nat.add_mod_mod, Nat.mod_mul_mod, Nat.mul_mod_mod]

/-- The gas with other signatures of the same schemes: their calldata is exchanged, in `u64`. -/
theorem verifyGasLimit_fill
    (schemes : signatures.map (fun sig => signatureCost sig.scheme) =
      tx.signatures.map (fun sig => signatureCost sig.scheme)) :
    verifyGasLimit alloy { tx with signatures := signatures } =
      (verifyGasLimit alloy tx + (2 ^ 64 - calldataCost (encodeSignatures alloy tx.signatures)) +
        calldataCost (encodeSignatures alloy signatures)) % 2 ^ 64 := by
  have cost : ({ tx with signatures := signatures } : FrameTransaction).signatureVerificationCost =
      tx.signatureVerificationCost := by
    unfold FrameTransaction.signatureVerificationCost
    rw [schemes]
  have below : calldataCost (encodeSignatures alloy tx.signatures) < 2 ^ 64 :=
    Nat.mod_lt _ (by decide)
  rw [verifyGasLimit_eq, verifyGasLimit_eq, cost]
  dsimp only
  generalize calldataCost (encodeSignatures alloy tx.signatures) = submitted at below ⊢
  generalize calldataCost (encodeSignatures alloy signatures) = filled
  generalize tx.frames.length * frameTxPerFrameCost = perFrame
  generalize calldataCost (encodeFrames alloy tx.frames) = frames
  generalize tx.signatureVerificationCost = verification
  generalize ((collectPrefix 0 tx.frames).2.1.map fun frame => frame.gasLimit.toNat).sum = scanned
  omega

/-- The gas from its two parts: the signature list and the rest. -/
theorem verifyGasLimit_of_parts {other signed : Nat}
    (others : frameTxIntrinsicCost + tx.frames.length * frameTxPerFrameCost +
      calldataCost (encodeFrames alloy tx.frames) + tx.signatureVerificationCost +
      ((collectPrefix 0 tx.frames).2.1.map fun frame => frame.gasLimit.toNat).sum = other)
    (signatures : tx.signatureGas alloy = signed) :
    verifyGasLimit alloy tx = (other + signed) % 2 ^ 64 := by
  unfold FrameTransaction.signatureGas at signatures
  rw [verifyGasLimit_eq, signatures, ← others]
  congr 1
  omega

end Validator

namespace FrameCompiler

variable {σ : Type} {compiler : FrameCompiler σ} {tx returned : FrameTransaction}

/-- An entry that is filled stays valid on the wire. -/
theorem validateWireFormat_fill {alloy : Alloy} {index : Nat} {entry : FrameSignature}
    (valid : entry.validateWireFormat alloy index = .ok ()) (signature : Bytes) :
    ({ entry with signature := alloy.hexEncode signature } : FrameSignature).validateWireFormat
      alloy index = .ok () := by
  obtain ⟨_, signer, rest⟩ := Check.bind_eq_ok.mp valid
  obtain ⟨_, msg, -⟩ := Check.bind_eq_ok.mp rest
  have signerSame : ({ entry with signature := alloy.hexEncode signature } :
      FrameSignature).validateSigner alloy index = .ok () := signer
  unfold FrameSignature.validateWireFormat
  rw [signerSame, msg, (alloy.reads_hexEncode signature).expect]
  rfl

/-- A valid transaction whose placeholder is filled is valid again exactly if its gas still fits. -/
theorem validateStructure_fill_iff {signer : Signer} {signature : Bytes}
    {signatures : List FrameSignature}
    (injected : compiler.Injected tx returned signer signature signatures)
    (valid : validateStructure compiler.alloy tx = .ok ()) :
    validateStructure compiler.alloy returned = .ok () ↔
      verifyGasLimit compiler.alloy returned ≤ maxVerifyGas := by
  obtain ⟨before, entry, after, parts, filled, -⟩ := fillSignature_eq_some injected.fills
  obtain ⟨wire, fees, count, nonce, references, schemes, frames, found⟩ :=
    validateStructure_eq_ok.mp valid
  obtain ⟨_, sender, rest⟩ := Check.bind_eq_ok.mp wire
  obtain ⟨framesWire, signaturesWire⟩ := Check.seq_eq_ok.mp rest
  rw [parts] at schemes signaturesWire
  have schemesKept : Check.each validateScheme 0 signatures = .ok () := by
    rw [filled]
    exact Check.each_replace schemes fun _ known => known
  have signaturesKept :
      Check.each (FrameSignature.validateWireFormat compiler.alloy) 0 signatures = .ok () := by
    rw [filled]
    exact Check.each_replace signaturesWire fun _ entryValid =>
      validateWireFormat_fill entryValid signature
  have wireKept : returned.validateWireFormat compiler.alloy = .ok () := by
    rw [injected.whole]
    unfold FrameTransaction.validateWireFormat
    rw [sender, framesWire, signaturesKept]
    rfl
  rw [validateStructure_eq_ok, validatePrefix_eq_ok]
  rw [validatePrefix_eq_ok] at found
  constructor
  · rintro ⟨-, -, -, -, -, -, -, affordable, -⟩
    exact affordable
  · intro affordable
    refine ⟨wireKept, ?_⟩
    rw [injected.whole] at affordable ⊢
    exact ⟨fees, count, nonce, references, schemesKept, frames, affordable, found.2⟩

/-- The gas as submitted, with the calldata of the signature list exchanged for that of the filled
list, is within `MAX_VERIFY_GAS`. -/
def GasForSignature (compiler : FrameCompiler σ) (tx : FrameTransaction) : Prop :=
  ∃ signer signature signatures, compiler.sponsorSigner = some signer ∧
    signer.signSponsorFrame tx (tx.computeSigHash compiler.alloy) = .ok signature ∧
    fillSignature (compiler.alloy.lowerHex signer.address) (compiler.alloy.hexEncode signature)
      tx.signatures = some signatures ∧
    (verifyGasLimit compiler.alloy tx +
      (2 ^ 64 - calldataCost (encodeSignatures compiler.alloy tx.signatures)) +
      calldataCost (encodeSignatures compiler.alloy signatures)) % 2 ^ 64 ≤ maxVerifyGas

/-- What the compiler returns passes its validator exactly if it is not sponsored, or the gas left
room for the sponsor's signature. -/
theorem returned_valid_iff (compiler : FrameCompiler σ) (state later : σ)
    (tx returned : FrameTransaction)
    (compiled : compiler.compileAndValidate state tx = (.ok returned, later)) :
    validateStructure compiler.alloy returned = .ok () ↔
      (compiler.resolvePayer tx = .sponsor → compiler.GasForSignature tx) := by
  obtain ⟨flag, prepared⟩ := prepare_of_compile compiled
  have valid := (prepare_eq_ok.mp prepared).1
  by_cases sponsored : compiler.resolvePayer tx = .sponsor
  · obtain ⟨signer, signature, signatures, injected⟩ :=
      compileAndValidate_sponsored compiled sponsored
    have room : compiler.GasForSignature tx ↔
        verifyGasLimit compiler.alloy returned ≤ maxVerifyGas := by
      rw [injected.whole, verifyGasLimit_fill (schemes_fillSignature injected.fills)]
      unfold GasForSignature
      simp only [injected.held, Option.some.injEq, exists_and_left, exists_eq_left',
        injected.signed, Except.ok.injEq, injected.fills]
    rw [validateStructure_fill_iff injected valid, room]
    exact ⟨fun affordable _ => affordable, fun affordable => affordable sponsored⟩
  · rw [compileAndValidate_unsponsored compiled sponsored]
    exact ⟨fun _ claimed => absurd claimed sponsored, fun _ => valid⟩

/-- Under a gas limit with room to spare the signed transaction passes the validator again. -/
theorem returned_valid_spare :
    validateStructure (sponsoringEngine none).alloy (filledTx "") = .ok () ↔
      ((sponsoringEngine none).resolvePayer (sponsoredTx "") = .sponsor →
        (sponsoringEngine none).GasForSignature (sponsoredTx "")) :=
  returned_valid_iff (sponsoringEngine none) () () (sponsoredTx "") (filledTx "")
    sponsoredTx_compiled

end FrameCompiler

/-- The frames of `sponsoredTx` with so much gas that the validator's sum is `MAX_VERIFY_GAS`. -/
def costlyFrames : List Frame :=
  [{ mode := .verify
     flags := 0x02
     target := none
     gasLimit := 50000
     value := "0"
     data := "0x" },
    { mode := .verify
      flags := 0x01
      target := some "0x2222222222222222222222222222222222222222"
      gasLimit := 430194
      value := "0"
      data := "0x" }]

/-- The Keccak-256 hash of the signature preimage of `sponsoredTx` with these frames. -/
def costlyDigest : B256 :=
  ⟨[0x65, 0x35, 0x2e, 0x3d, 0xaf, 0xd4, 0x96, 0x22, 0xd1, 0x5a, 0x47, 0x58, 0x81, 0x9f, 0x9c, 0x7b,
    0x93, 0x45, 0x3d, 0x43, 0xa9, 0xa8, 0x87, 0x25, 0x86, 0xa8, 0xc6, 0x2f, 0xf0, 0xcb, 0xd1, 0xb1],
    rfl⟩

/-- `sponsoringEngine` where the hash asked for is that of the costly transaction. -/
def costlyEngine : FrameCompiler Unit :=
  { sponsoringEngine none with alloy := Alloy.reference costlyDigest }

/-- The costly transaction is compiled, and what is returned does not pass the validator. -/
theorem FrameCompiler.returned_invalid :
    costlyEngine.compileAndValidate () { sponsoredTx "" with frames := costlyFrames } =
        (.ok { filledTx "" with frames := costlyFrames }, ()) ∧
      validateStructure costlyEngine.alloy { filledTx "" with frames := costlyFrames } ≠
        .ok () := by
  have prepared : costlyEngine.prepare { sponsoredTx "" with frames := costlyFrames } =
      .ok ({ filledTx "" with frames := costlyFrames }, true) := by
    decide +kernel
  refine ⟨FrameCompiler.compile_of_reserved prepared rfl, fun valid => ?_⟩
  have affordable := (validatePrefix_eq_ok.mp (validateStructure_eq_ok.mp valid).2.2.2.2.2.2.2).1
  have gas := @verifyGasLimit_of_parts costlyEngine.alloy
    { filledTx "" with frames := costlyFrames } 499584 1492 (by decide +kernel)
    (filledTx_signatureGas costlyDigest)
  rw [gas] at affordable
  exact absurd affordable (by decide)

end OpenEngine.Compiler
