import OpenEngine.Core.Wire

/-!
# The wire round trip

A transaction that passes `validate_wire_format` is read by the lenient parsers exactly as by the
strict ones: no fallback to empty bytes or zero is taken and no conversion panics. What it encodes
to therefore decodes to the strict reading of every field.
-/

namespace OpenEngine.Core

/-- The digits behind an optional marker decode to these bytes. -/
def Alloy.Reads (alloy : Alloy) (value : String) (bytes : Bytes) : Prop :=
  alloy.hexDecode ((stripPrefix "0x" value).getD value) = .ok bytes

/-- `decode_hex_bytes` takes no fallback. -/
def Alloy.HexOk (alloy : Alloy) (value : String) : Prop := ∃ bytes, alloy.Reads value bytes

/-- `parse_u256_value` takes no fallback, and its hex digits fit `U256::from_be_slice`. -/
def Alloy.NumberOk (alloy : Alloy) (value : String) : Prop :=
  trim value = "" ∨
    (match stripPrefix "0x" (trim value) with
    | some hex => ∃ bytes, alloy.hexDecode hex = .ok bytes ∧ bytes.length ≤ 32
    | none => ∃ number, alloy.parseU256 (trim value) = .ok number)

/-- No string field of the transaction makes an encoder fall back or panic. -/
structure FrameTransaction.Faithful (alloy : Alloy) (tx : FrameTransaction) : Prop where
  sender : alloy.HexOk tx.sender
  frames : ∀ frame ∈ tx.frames, (∀ target ∈ frame.target, alloy.HexOk target) ∧
    alloy.HexOk frame.data ∧ alloy.NumberOk frame.value
  signatures : ∀ sig ∈ tx.signatures,
    alloy.HexOk sig.signer ∧ alloy.HexOk sig.msg ∧ alloy.HexOk sig.signature

/-- The strict reading of a frame. -/
def Frame.strictWire (alloy : Alloy) (i : Nat) (frame : Frame) :
    Except WireFormatError WireFrame := do
  let target ← alloy.expectHexBytes s!"frames[{i}].target" (frame.target.getD "") none
  let data ← alloy.expectHexBytes s!"frames[{i}].data" frame.data none
  let value ← alloy.expectU256 s!"frames[{i}].value" frame.value
  return {
    mode := frame.mode
    flags := frame.flags
    target := target
    gasLimit := frame.gasLimit
    value := value
    data := data }

/-- The strict reading of a signature. -/
def FrameSignature.strictWire (alloy : Alloy) (i : Nat) (sig : FrameSignature) :
    Except WireFormatError WireSignature := do
  let signer ← alloy.expectHexBytes s!"signatures[{i}].signer" sig.signer none
  let msg ← alloy.expectHexBytes s!"signatures[{i}].msg" sig.msg none
  let signature ← alloy.expectHexBytes s!"signatures[{i}].signature" sig.signature none
  return {
    scheme := sig.scheme
    signer := signer
    msg := msg
    signature := signature }

/-- The strict reading of a transaction: effective nonce keys, absent numbers as zero, and every
string by the strict parsers. -/
def FrameTransaction.strictWire (alloy : Alloy) (tx : FrameTransaction) :
    Except WireFormatError WireTransaction := do
  let sender ← alloy.expectHexBytes "sender" tx.sender (some 20)
  let frames ← Check.mapEach (Frame.strictWire alloy) 0 tx.frames
  let signatures ← Check.mapEach (FrameSignature.strictWire alloy) 0 tx.signatures
  return {
    chainId := tx.chainId
    nonceKeys := tx.effectiveNonceKeys
    nonceSeq := tx.nonceSeq.getD 0
    sender := sender
    frames := frames
    signatures := signatures
    maxPriorityFeePerGas := tx.maxPriorityFeePerGas.getD 0
    maxFeePerGas := tx.maxFeePerGas.getD 0
    maxFeePerBlobGas := tx.maxFeePerBlobGas.getD 0
    blobVersionedHashes := tx.blobVersionedHashes
    recentRootReferences := tx.recentRootReferences }

variable {alloy : Alloy} {field value : String} {bytes : Bytes}

/-- What the strict parser accepts is read. -/
theorem Alloy.reads_of_expect {expectedLen : Option Nat}
    (accepted : alloy.expectHexBytes field value expectedLen = .ok bytes) :
    alloy.Reads value bytes := by
  unfold Alloy.expectHexBytes at accepted
  dsimp only at accepted
  split at accepted
  · cases accepted
  · next decoded read =>
    have same : decoded = bytes := by
      split at accepted
      · split at accepted
        · cases accepted
        · exact Except.ok.inj accepted
      · exact Except.ok.inj accepted
    rw [Alloy.Reads, read, same]

/-- The strict parser accepts the expected width only. -/
theorem Alloy.width_of_expect {expected : Nat}
    (accepted : alloy.expectHexBytes field value (some expected) = .ok bytes) :
    bytes.length = expected := by
  unfold Alloy.expectHexBytes at accepted
  dsimp only at accepted
  split at accepted
  · cases accepted
  · split at accepted
    · cases accepted
    · next exact =>
      rw [← Except.ok.inj accepted]
      exact Decidable.not_not.mp exact

/-- The empty string and a bare marker read as no bytes. -/
theorem Alloy.reads_blank (blank : ¬ (value ≠ "" ∧ value ≠ "0x")) : alloy.Reads value [] := by
  have spelled : value = "" ∨ value = "0x" := by
    by_cases empty : value = ""
    · exact .inl empty
    · exact .inr (Decidable.not_not.mp fun other => blank ⟨empty, other⟩)
  have digits : (stripPrefix "0x" value).getD value = "" := by
    rcases spelled with rfl | rfl
    · decide +kernel
    · decide +kernel
  rw [Alloy.Reads, digits]
  exact alloy.hexDecode_empty

/-- A field that may be blank is read once it passes. -/
theorem Alloy.hexOk_of_expectUnlessBlank {expectedLen : Nat}
    (accepted : alloy.expectUnlessBlank field value expectedLen = .ok ()) : alloy.HexOk value := by
  unfold Alloy.expectUnlessBlank at accepted
  split at accepted
  · obtain ⟨bytes, strict, _⟩ := Check.bind_eq_ok.mp accepted
    exact ⟨bytes, Alloy.reads_of_expect strict⟩
  · next blank => exact ⟨[], Alloy.reads_blank blank⟩

/-- The lenient parser returns what is read. -/
theorem Alloy.Reads.decodeHexBytes (reads : alloy.Reads value bytes) :
    alloy.decodeHexBytes value = bytes := by
  unfold Alloy.decodeHexBytes
  dsimp only
  unfold Alloy.Reads at reads
  split
  · next empty =>
    rw [empty, alloy.hexDecode_empty] at reads
    exact Except.ok.inj reads
  · rw [reads]
    rfl

/-- The strict parser without a width returns what is read. -/
theorem Alloy.Reads.expect (reads : alloy.Reads value bytes) :
    alloy.expectHexBytes field value none = .ok bytes := by
  unfold Alloy.expectHexBytes
  dsimp only
  rw [show alloy.hexDecode ((stripPrefix "0x" value).getD value) = .ok bytes from reads]

/-- Hex the engine wrote itself reads as the bytes it was written from. -/
theorem Alloy.reads_hexEncode (alloy : Alloy) (bytes : Bytes) :
    alloy.Reads (alloy.hexEncode bytes) bytes := by
  rw [Alloy.Reads, stripPrefix_of_digits (alloy.hexEncode_digits bytes), Option.getD_none]
  exact alloy.hexDecode_hexEncode bytes

/-- A string without a fallback is read alike by both parsers. -/
theorem Alloy.HexOk.expect (ok : alloy.HexOk value) (field : String) :
    alloy.expectHexBytes field value none = .ok (alloy.decodeHexBytes value) := by
  obtain ⟨bytes, reads⟩ := ok
  rw [reads.expect, reads.decodeHexBytes]

/-- A number the strict parser accepts is parsed alike, without fallback or panic. -/
theorem Alloy.parse_of_expectU256 {number : U256}
    (accepted : alloy.expectU256 field value = .ok number) :
    alloy.parseU256Value value = number ∧ alloy.NumberOk value := by
  unfold Alloy.expectU256 at accepted
  unfold Alloy.parseU256Value Alloy.NumberOk
  dsimp only at accepted ⊢
  by_cases empty : trim value = ""
  · rw [if_pos (.inl empty)] at accepted
    rw [if_pos empty]
    exact ⟨Except.ok.inj accepted, .inl empty⟩
  rw [if_neg empty]
  by_cases marker : trim value = "0x"
  · rw [if_pos (.inr marker)] at accepted
    have stripped : stripPrefix "0x" "0x" = some "" := by decide +kernel
    rw [marker, stripped]
    dsimp only
    rw [alloy.hexDecode_empty]
    exact ⟨Except.ok.inj accepted, .inr ⟨[], rfl, Nat.zero_le _⟩⟩
  rw [if_neg (not_or.mpr ⟨empty, marker⟩)] at accepted
  cases digits : stripPrefix "0x" (trim value) with
  | some hex =>
    rw [digits] at accepted
    dsimp only at accepted ⊢
    cases decoded : alloy.hexDecode hex with
    | error failure =>
      rw [decoded] at accepted
      cases accepted
    | ok bytes =>
      rw [decoded] at accepted
      dsimp only at accepted
      split at accepted
      · cases accepted
      · next short => exact ⟨Except.ok.inj accepted, .inr ⟨bytes, rfl, Nat.not_lt.mp short⟩⟩
  | none =>
    rw [digits] at accepted
    dsimp only at accepted ⊢
    cases parsed : alloy.parseU256 (trim value) with
    | error failure =>
      rw [parsed] at accepted
      cases accepted
    | ok decimal =>
      rw [parsed] at accepted
      exact ⟨Except.ok.inj accepted, .inr ⟨decimal, rfl⟩⟩

/-- A validated frame takes no fallback. -/
theorem Frame.faithful_of_valid {i : Nat} {frame : Frame}
    (valid : frame.validateWireFormat alloy i = .ok ()) :
    (∀ target ∈ frame.target, alloy.HexOk target) ∧ alloy.HexOk frame.data ∧
      alloy.NumberOk frame.value := by
  obtain ⟨_, target, rest⟩ := Check.bind_eq_ok.mp valid
  obtain ⟨data, dataRead, rest⟩ := Check.bind_eq_ok.mp rest
  obtain ⟨number, valueRead, _⟩ := Check.bind_eq_ok.mp rest
  refine ⟨?_, ⟨data, Alloy.reads_of_expect dataRead⟩, (Alloy.parse_of_expectU256 valueRead).2⟩
  intro named isNamed
  rw [Frame.validateTarget, Option.mem_def.mp isNamed] at target
  exact Alloy.hexOk_of_expectUnlessBlank target

/-- The strict reading of a validated frame is what the encoder writes. -/
theorem Frame.strictWire_of_valid {i : Nat} {frame : Frame}
    (valid : frame.validateWireFormat alloy i = .ok ()) :
    frame.strictWire alloy i = .ok (frame.wire alloy) := by
  obtain ⟨targets, dataOk, _⟩ := Frame.faithful_of_valid valid
  obtain ⟨_, _, rest⟩ := Check.bind_eq_ok.mp valid
  obtain ⟨_, _, rest⟩ := Check.bind_eq_ok.mp rest
  obtain ⟨number, valueRead, _⟩ := Check.bind_eq_ok.mp rest
  have target : alloy.expectHexBytes s!"frames[{i}].target" (frame.target.getD "") none =
      .ok (frame.targetBytes alloy) := by
    unfold Frame.targetBytes
    cases named : frame.target with
    | none => exact (Alloy.reads_blank (fun present => present.1 rfl)).expect
    | some value => exact (targets value named).expect _
  unfold Frame.strictWire
  rw [target, dataOk.expect, valueRead, ← (Alloy.parse_of_expectU256 valueRead).1]
  rfl

/-- A validated signature takes no fallback. -/
theorem FrameSignature.faithful_of_valid {i : Nat} {sig : FrameSignature}
    (valid : sig.validateWireFormat alloy i = .ok ()) :
    alloy.HexOk sig.signer ∧ alloy.HexOk sig.msg ∧ alloy.HexOk sig.signature := by
  obtain ⟨_, signer, rest⟩ := Check.bind_eq_ok.mp valid
  obtain ⟨_, msg, rest⟩ := Check.bind_eq_ok.mp rest
  obtain ⟨signature, signatureRead, _⟩ := Check.bind_eq_ok.mp rest
  have signerOk : alloy.HexOk sig.signer := by
    unfold FrameSignature.validateSigner at signer
    split at signer
    · split at signer
      · cases signer
      · next blank => exact ⟨[], Alloy.reads_blank blank⟩
    · obtain ⟨bytes, strict, _⟩ := Check.bind_eq_ok.mp signer
      exact ⟨bytes, Alloy.reads_of_expect strict⟩
  have msgOk := Alloy.hexOk_of_expectUnlessBlank msg
  exact ⟨signerOk, msgOk, signature, Alloy.reads_of_expect signatureRead⟩

/-- The strict reading of a validated signature is what the encoder writes unelided. -/
theorem FrameSignature.strictWire_of_valid {i : Nat} {sig : FrameSignature}
    (valid : sig.validateWireFormat alloy i = .ok ()) :
    sig.strictWire alloy i = .ok (sig.wire alloy false) := by
  obtain ⟨signer, msg, signature⟩ := FrameSignature.faithful_of_valid valid
  unfold FrameSignature.strictWire
  rw [signer.expect, msg.expect, signature.expect]
  rfl

/-- The strict reading of a validated transaction is what the encoder writes. -/
theorem FrameTransaction.strictWire_of_valid {tx : FrameTransaction}
    (valid : tx.validateWireFormat alloy = .ok ()) :
    tx.strictWire alloy = .ok (tx.wire alloy false) := by
  obtain ⟨sender, senderRead, rest⟩ := Check.bind_eq_ok.mp valid
  obtain ⟨_, frames, signatures⟩ := Check.bind_eq_ok.mp rest
  have frameImages : Check.mapEach (Frame.strictWire alloy) 0 tx.frames =
      .ok (tx.frames.map (Frame.wire alloy)) :=
    Check.mapEach_of_each (fun _ _ => Frame.strictWire_of_valid) frames
  have signatureImages : Check.mapEach (FrameSignature.strictWire alloy) 0 tx.signatures =
      .ok (tx.signatures.map (FrameSignature.wire alloy false)) :=
    Check.mapEach_of_each (fun _ _ => FrameSignature.strictWire_of_valid) signatures
  have senderBytes := (Alloy.reads_of_expect senderRead).decodeHexBytes
  unfold FrameTransaction.strictWire
  rw [senderRead, frameImages, signatureImages, ← senderBytes]
  rfl

/-- A validated transaction takes no fallback anywhere. -/
theorem FrameTransaction.faithful_of_valid {tx : FrameTransaction}
    (valid : tx.validateWireFormat alloy = .ok ()) : tx.Faithful alloy := by
  obtain ⟨sender, senderRead, rest⟩ := Check.bind_eq_ok.mp valid
  obtain ⟨_, frames, signatures⟩ := Check.bind_eq_ok.mp rest
  constructor
  · exact ⟨sender, Alloy.reads_of_expect senderRead⟩
  · intro frame frameMem
    obtain ⟨_, frameValid⟩ := Check.each_mem frames frameMem
    exact Frame.faithful_of_valid frameValid
  · intro sig sigMem
    obtain ⟨_, sigValid⟩ := Check.each_mem signatures sigMem
    exact FrameSignature.faithful_of_valid sigValid

/-- The bytes of a validated transaction decode, to the last one, to its strict reading, and no
fallback was taken in writing them. The bytes are counted by a `usize`. -/
theorem FrameTransaction.wire_round_trip (alloy : Alloy) (tx : FrameTransaction)
    (valid : tx.validateWireFormat alloy = .ok ())
    (fits : (tx.encodeTransaction alloy).length < 2 ^ 64) :
    ∃ image, tx.strictWire alloy = .ok image ∧
      WireTransaction.decode (tx.encodeTransaction alloy) = some image ∧ tx.Faithful alloy := by
  refine ⟨tx.wire alloy false, tx.strictWire_of_valid valid, ?_, tx.faithful_of_valid valid⟩
  unfold FrameTransaction.encodeTransaction at fits ⊢
  rw [FrameTransaction.encodePayload_eq] at fits ⊢
  rw [List.length_cons] at fits
  exact WireTransaction.decode_encode (by omega)

/-- The transaction of the encoder's own tests. -/
def testTx : FrameTransaction where
  chainId := 1
  nonceKeys := [0]
  nonceSeq := some 10
  sender := "0x1111111111111111111111111111111111111111"
  maxPriorityFeePerGas := some 10
  maxFeePerGas := some 20
  maxFeePerBlobGas := some 0
  blobVersionedHashes := []
  recentRootReferences := []
  frames := [
    { mode := .verify
      flags := 0x03
      target := some "0x1111111111111111111111111111111111111111"
      gasLimit := 100000
      value := "0x"
      data := "0xdeadbeef" }]
  signatures := [
    { scheme := frameSigSchemeSecp256k1
      signer := "0x1111111111111111111111111111111111111111"
      msg := ""
      signature := "0x1234" }]
  payer := none

/-- The encoder's test transaction survives the wire. -/
theorem FrameTransaction.wire_round_trip_testTx :
    ∃ image, testTx.strictWire (Alloy.reference ⟨List.replicate 32 0, rfl⟩) = .ok image ∧
      WireTransaction.decode
          (testTx.encodeTransaction (Alloy.reference ⟨List.replicate 32 0, rfl⟩)) =
        some image ∧
      testTx.Faithful (Alloy.reference ⟨List.replicate 32 0, rfl⟩) :=
  FrameTransaction.wire_round_trip _ testTx (by decide +kernel) (by decide +kernel)

/-- Hex and decimal as the later examples read them, with a fixed digest. -/
def testAlloy : Alloy := Alloy.reference ⟨List.replicate 32 0x07, rfl⟩

example : (testTx.strictWire testAlloy).toOption.map WireTransaction.sender =
    some (List.replicate 20 0x11) := by
  decide +kernel

/-- The test transaction is valid. -/
theorem testTx_valid : testTx.validateWireFormat testAlloy = .ok () := by decide +kernel

/-- The signed bytes of the test transaction are few. -/
theorem testTx_preimage_length : (testTx.sigHashPreimage testAlloy).length < 2 ^ 64 := by
  decide +kernel

end OpenEngine.Core
