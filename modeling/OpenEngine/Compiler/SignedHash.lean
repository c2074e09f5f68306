import OpenEngine.Compiler.Pipeline
import OpenEngine.Core.SigHash

/-!
# The hash the sponsor signed

The sponsor signs the hash of the transaction as submitted, and the signature is then written into
an entry of that transaction. The canonical hash leaves out the signature bytes of an entry only
when its `msg` is the empty string, while validation also accepts `0x` and an explicit digest there.
The hash survives exactly when the filled entry is elided or already held the signature.
-/

namespace OpenEngine.Compiler.FrameCompiler

open OpenEngine.Core

variable {σ : Type} {compiler : FrameCompiler σ}

/-- The entry that is filled has an empty `msg`, or its submitted signature already decodes to the
bytes the signer returns. -/
def HashKept (compiler : FrameCompiler σ) (tx : FrameTransaction) : Prop :=
  ∃ signer entry, compiler.sponsorSigner = some signer ∧ compiler.sponsorEntry tx = some entry ∧
    (entry.msg = "" ∨ signer.signSponsorFrame tx (tx.computeSigHash compiler.alloy) =
      .ok (compiler.alloy.decodeHexBytes entry.signature))

/-- An entry keeps its elided form exactly when it is elided or its bytes do not change. -/
theorem elided_fill_iff (alloy : Alloy) (entry : FrameSignature) (signature : Bytes) :
    ({ entry with signature := alloy.hexEncode signature } : FrameSignature).wire alloy true =
      entry.wire alloy true ↔
    entry.msg = "" ∨ signature = alloy.decodeHexBytes entry.signature := by
  unfold FrameSignature.wire FrameSignature.sigBytes
  by_cases elided : entry.msg = ""
  · simp [elided]
  · simp [elided, (alloy.reads_hexEncode signature).decodeHexBytes]

/-- The sponsor is handed the hash of the preimage of the transaction as submitted, and the
transaction that is returned has that preimage exactly when the filled entry is elided or already
held the signature. Preimages are counted by a `usize`. -/
theorem signed_hash_kept_iff (compiler : FrameCompiler σ) (state later : σ)
    (tx returned : FrameTransaction)
    (compiled : compiler.compileAndValidate state tx = (.ok returned, later))
    (sponsored : compiler.resolvePayer tx = .sponsor)
    (fits : (tx.sigHashPreimage compiler.alloy).length < 2 ^ 64) :
    (∃ signer signature, compiler.sponsorSigner = some signer ∧
      signer.signSponsorFrame tx (compiler.alloy.keccak256 (tx.sigHashPreimage compiler.alloy)) =
        .ok signature) ∧
    (returned.sigHashPreimage compiler.alloy = tx.sigHashPreimage compiler.alloy ↔
      compiler.HashKept tx) := by
  obtain ⟨signer, signature, signatures, injected⟩ :=
    compileAndValidate_sponsored compiled sponsored
  obtain ⟨before, entry, after, parts, filled, first⟩ := fillSignature_eq_some injected.fills
  have found : compiler.sponsorEntry tx = some entry := by
    rw [sponsorEntry, sponsorAddress_of_held injected.held]
    simpa only [Option.some.injEq] using first
  have whole := injected.whole
  rw [filled] at whole
  have kept : compiler.HashKept tx ↔
      entry.msg = "" ∨ signature = compiler.alloy.decodeHexBytes entry.signature := by
    unfold HashKept
    simp only [injected.held, found, Option.some.injEq, exists_and_left, exists_eq_left',
      injected.signed, Except.ok.injEq]
  refine ⟨⟨signer, signature, injected.held, injected.signed⟩, ?_⟩
  rw [kept, ← elided_fill_iff]
  constructor
  · intro same
    have wires := FrameTransaction.wire_of_preimage fits same.symm
    have signatures := congrArg WireTransaction.signatures wires
    rw [whole] at signatures
    simp only [FrameTransaction.wire, parts, List.map_append, List.map_cons] at signatures
    exact (List.cons.inj (List.append_cancel_left signatures)).1.symm
  · intro entrySame
    have signatures : returned.signatures.map (FrameSignature.wire compiler.alloy true) =
        tx.signatures.map (FrameSignature.wire compiler.alloy true) := by
      rw [whole, parts]
      simp only [List.map_append, List.map_cons, entrySame]
    have wires : returned.wire compiler.alloy true = tx.wire compiler.alloy true := by
      rw [FrameTransaction.wire, signatures, whole]
      rfl
    rw [FrameTransaction.sigHashPreimage, FrameTransaction.sigHashPreimage,
      FrameTransaction.encodePayload_eq, FrameTransaction.encodePayload_eq, wires]

/-- The preimage of `sponsoredTx` is short. -/
theorem sponsoredTx_preimage_length :
    ((sponsoredTx "").sigHashPreimage (sponsoringEngine none).alloy).length < 2 ^ 64 := by
  decide +kernel

/-- With an empty `msg` the filled transaction has the hash that was signed. -/
theorem signed_hash_kept_emptyMsg :
    (filledTx "").sigHashPreimage (sponsoringEngine none).alloy =
        (sponsoredTx "").sigHashPreimage (sponsoringEngine none).alloy ↔
      (sponsoringEngine none).HashKept (sponsoredTx "") :=
  (signed_hash_kept_iff (sponsoringEngine none) () () (sponsoredTx "") (filledTx "")
    sponsoredTx_compiled sponsoredTx_sponsored sponsoredTx_preimage_length).2

/-- Both spellings of a blank `msg` have one preimage as long as the entry is unsigned. -/
theorem sponsoredTx_preimage_blank (alloy : Alloy) :
    (sponsoredTx "0x").sigHashPreimage alloy = (sponsoredTx "").sigHashPreimage alloy := by
  have blank : alloy.decodeHexBytes "" = [] := (Alloy.reads_blank (by decide)).decodeHexBytes
  have marked : alloy.decodeHexBytes "0x" = [] := (Alloy.reads_blank (by decide)).decodeHexBytes
  have wires : (sponsoredTx "0x").wire alloy true = (sponsoredTx "").wire alloy true := by
    simp only [FrameTransaction.wire, sponsoredTx, List.map_cons, List.map_nil,
      FrameSignature.wire, FrameSignature.sigBytes, blank, marked, ite_self]
    rfl
  rw [FrameTransaction.sigHashPreimage, FrameTransaction.sigHashPreimage,
    FrameTransaction.encodePayload_eq, FrameTransaction.encodePayload_eq, wires]

/-- With `msg` spelled `0x` the sponsored transaction is compiled, but its hash is no longer the one
that was signed. -/
theorem signed_hash_lost :
    (sponsoringEngine none).compileAndValidate () (sponsoredTx "0x") = (.ok (filledTx "0x"), ()) ∧
      (sponsoringEngine none).resolvePayer (sponsoredTx "0x") = .sponsor ∧
      (filledTx "0x").sigHashPreimage (sponsoringEngine none).alloy ≠
        (sponsoredTx "0x").sigHashPreimage (sponsoringEngine none).alloy := by
  have prepared : (sponsoringEngine none).prepare (sponsoredTx "0x") =
      .ok (filledTx "0x", true) := by
    decide +kernel
  refine ⟨compile_of_reserved prepared rfl, (prepare_sponsored prepared).mp rfl, fun same => ?_⟩
  have short := sponsoredTx_preimage_length
  rw [← sponsoredTx_preimage_blank] at short
  have wires := FrameTransaction.wire_of_preimage short same.symm
  have signatures := congrArg (fun wire => wire.signatures.map WireSignature.signature) wires
  have filled : (sponsoringEngine none).alloy.decodeHexBytes
      (Hex.encode (0x00 :: List.replicate 64 0x11)) = 0x00 :: List.replicate 64 0x11 :=
    ((sponsoringEngine none).alloy.reads_hexEncode _).decodeHexBytes
  have blank : (sponsoringEngine none).alloy.decodeHexBytes "" = [] :=
    (Alloy.reads_blank (by decide)).decodeHexBytes
  simp only [FrameTransaction.wire, filledTx, sponsoredTx, List.map_cons, List.map_nil,
    FrameSignature.wire, FrameSignature.sigBytes, filled, blank] at signatures
  exact absurd signatures (by decide)

end OpenEngine.Compiler.FrameCompiler
