import OpenEngine.Check
import OpenEngine.Core.Text
import OpenEngine.Rlp.Encodable

/-!
# The wire encoder

`core/src/encoding.rs`: the lenient string parsers of the infallible encoders, their strict
counterparts, the encoders with their hand-counted lengths, and the validator that runs before
anything is encoded.
-/

namespace OpenEngine.Core

/-- `WireFormatError`. -/
structure WireFormatError where
  message : String
deriving DecidableEq

/-- `U256::from_be_slice`. The source panics past 32 bytes; `Alloy.NumberOk` excludes those. -/
def fromBeSlice (bytes : Bytes) : U256 := BitVec.ofNat 256 (Rlp.ofBigEndian bytes)

/-- `Result::unwrap_or_default` on bytes. -/
def unwrapOrDefault {α : Type} (default : α) : Except String α → α
  | .ok value => value
  | .error _ => default

/-- `decode_hex_bytes`. -/
def Alloy.decodeHexBytes (alloy : Alloy) (value : String) : Bytes :=
  let value := (stripPrefix "0x" value).getD value
  if value = "" then []
  else unwrapOrDefault [] (alloy.hexDecode value)

/-- `parse_u256_value`. -/
def Alloy.parseU256Value (alloy : Alloy) (value : String) : U256 :=
  let value := trim value
  if value = "" then 0
  else
    match stripPrefix "0x" value with
    | some hex => fromBeSlice (unwrapOrDefault [] (alloy.hexDecode hex))
    | none => unwrapOrDefault 0 (alloy.parseU256 value)

/-- `expect_hex_bytes`. -/
def Alloy.expectHexBytes (alloy : Alloy) (field value : String) (expectedLen : Option Nat) :
    Except WireFormatError Bytes :=
  let stripped := (stripPrefix "0x" value).getD value
  match alloy.hexDecode stripped with
  | .error e => .error ⟨s!"{field} is not valid hex: {e}"⟩
  | .ok bytes =>
    match expectedLen with
    | some expected =>
      if bytes.length ≠ expected then
        .error ⟨s!"{field} must be {expected} bytes, got {bytes.length}"⟩
      else .ok bytes
    | none => .ok bytes

/-- `expect_u256`. -/
def Alloy.expectU256 (alloy : Alloy) (field value : String) : Except WireFormatError U256 :=
  let value := trim value
  if value = "" ∨ value = "0x" then .ok 0
  else
    match stripPrefix "0x" value with
    | some hex =>
      match alloy.hexDecode hex with
      | .error e => .error ⟨s!"{field} is not valid hex: {e}"⟩
      | .ok bytes =>
        if 32 < bytes.length then .error ⟨s!"{field} exceeds 32 bytes ({bytes.length} bytes)"⟩
        else .ok (fromBeSlice bytes)
    | none =>
      match alloy.parseU256 value with
      | .error e => .error ⟨s!"{field} is not a valid decimal value: {e}"⟩
      | .ok number => .ok number

/-- `FRAME_MODE_DEFAULT`, `FRAME_MODE_VERIFY` and `FRAME_MODE_SENDER`. -/
def FrameMode.modeVal : FrameMode → UInt8
  | .default => 0
  | .verify => 1
  | .sender => 2

/-- `FRAME_TX_TYPE`. -/
def frameTxType : UInt8 := 0x06

/-- The `target_bytes` of a frame. -/
def Frame.targetBytes (alloy : Alloy) (frame : Frame) : Bytes :=
  match frame.target with
  | some target => alloy.decodeHexBytes target
  | none => []

/-- `Encodable for Frame`. -/
def Frame.encodable (alloy : Alloy) : Rlp.Encodable Frame where
  length frame :=
    let payloadLength :=
      Rlp.uint.length frame.mode.modeVal.toNat +
      Rlp.uint.length frame.flags.toNat +
      Rlp.bytes.length (frame.targetBytes alloy) +
      Rlp.uint.length frame.gasLimit.toNat +
      Rlp.uint.length (alloy.parseU256Value frame.value).toNat +
      Rlp.bytes.length (alloy.decodeHexBytes frame.data)
    Rlp.lengthOfLength payloadLength + payloadLength
  encode frame :=
    let payloadLength :=
      Rlp.uint.length frame.mode.modeVal.toNat +
      Rlp.uint.length frame.flags.toNat +
      Rlp.bytes.length (frame.targetBytes alloy) +
      Rlp.uint.length frame.gasLimit.toNat +
      Rlp.uint.length (alloy.parseU256Value frame.value).toNat +
      Rlp.bytes.length (alloy.decodeHexBytes frame.data)
    Rlp.header Rlp.listOffset payloadLength ++
      (Rlp.uint.encode frame.mode.modeVal.toNat ++
      Rlp.uint.encode frame.flags.toNat ++
      Rlp.bytes.encode (frame.targetBytes alloy) ++
      Rlp.uint.encode frame.gasLimit.toNat ++
      Rlp.uint.encode (alloy.parseU256Value frame.value).toNat ++
      Rlp.bytes.encode (alloy.decodeHexBytes frame.data))

/-- `Encodable for RecentRootReference`. -/
def RecentRootReference.encodable : Rlp.Encodable RecentRootReference where
  length reference :=
    let payloadLength :=
      Rlp.bytes.length reference.sourceId.val +
      Rlp.uint.length reference.slot.toNat +
      Rlp.bytes.length reference.root.val
    Rlp.lengthOfLength payloadLength + payloadLength
  encode reference :=
    let payloadLength :=
      Rlp.bytes.length reference.sourceId.val +
      Rlp.uint.length reference.slot.toNat +
      Rlp.bytes.length reference.root.val
    Rlp.header Rlp.listOffset payloadLength ++
      (Rlp.bytes.encode reference.sourceId.val ++
      Rlp.uint.encode reference.slot.toNat ++
      Rlp.bytes.encode reference.root.val)

/-- The `sig_bytes` of a signature: elision only looks at an empty `msg` string. -/
def FrameSignature.sigBytes (alloy : Alloy) (elideSignature : Bool) (sig : FrameSignature) :
    Bytes :=
  if elideSignature ∧ sig.msg = "" then [] else alloy.decodeHexBytes sig.signature

/-- `Encodable for EncodableSignature`. -/
def FrameSignature.encodable (alloy : Alloy) (elideSignature : Bool) :
    Rlp.Encodable FrameSignature where
  length sig :=
    let payloadLength :=
      Rlp.uint.length sig.scheme.toNat +
      Rlp.bytes.length (alloy.decodeHexBytes sig.signer) +
      Rlp.bytes.length (alloy.decodeHexBytes sig.msg) +
      Rlp.bytes.length (sig.sigBytes alloy elideSignature)
    Rlp.lengthOfLength payloadLength + payloadLength
  encode sig :=
    let payloadLength :=
      Rlp.uint.length sig.scheme.toNat +
      Rlp.bytes.length (alloy.decodeHexBytes sig.signer) +
      Rlp.bytes.length (alloy.decodeHexBytes sig.msg) +
      Rlp.bytes.length (sig.sigBytes alloy elideSignature)
    Rlp.header Rlp.listOffset payloadLength ++
      (Rlp.uint.encode sig.scheme.toNat ++
      Rlp.bytes.encode (alloy.decodeHexBytes sig.signer) ++
      Rlp.bytes.encode (alloy.decodeHexBytes sig.msg) ++
      Rlp.bytes.encode (sig.sigBytes alloy elideSignature))

/-- `encode_frames`. -/
def encodeFrames (alloy : Alloy) (frames : List Frame) : Bytes :=
  (Rlp.list (Frame.encodable alloy)).encode frames

/-- `encode_recent_root_references`. -/
def encodeRecentRootReferences (refs : List RecentRootReference) : Bytes :=
  (Rlp.list RecentRootReference.encodable).encode refs

/-- `encode_signatures`. -/
def encodeSignatures (alloy : Alloy) (signatures : List FrameSignature) : Bytes :=
  (Rlp.list (FrameSignature.encodable alloy false)).encode signatures

/-- `U256` keys as integers. -/
def nonceKeyEncodable : Rlp.Encodable U256 where
  length key := Rlp.uint.length key.toNat
  encode key := Rlp.uint.encode key.toNat

/-- `B256` hashes as byte strings. -/
def hashEncodable : Rlp.Encodable B256 where
  length hash := Rlp.bytes.length hash.val
  encode hash := Rlp.bytes.encode hash.val

/-- `encode_payload`: every length is counted before the first byte is written. -/
def FrameTransaction.encodePayload (alloy : Alloy) (elideSignatures : Bool)
    (tx : FrameTransaction) : Bytes :=
  let nonceKeys := tx.effectiveNonceKeys
  let nonceSeqVal := tx.nonceSeq.getD 0
  let senderBytes := alloy.decodeHexBytes tx.sender
  let maxPriorityFeePerGasVal := tx.maxPriorityFeePerGas.getD 0
  let maxFeePerGasVal := tx.maxFeePerGas.getD 0
  let maxFeePerBlobGasVal := tx.maxFeePerBlobGas.getD 0
  let payloadLength :=
    Rlp.uint.length tx.chainId.toNat +
    (Rlp.list nonceKeyEncodable).length nonceKeys +
    Rlp.uint.length nonceSeqVal.toNat +
    Rlp.bytes.length senderBytes +
    Rlp.uint.length maxPriorityFeePerGasVal.toNat +
    Rlp.uint.length maxFeePerGasVal.toNat +
    Rlp.uint.length maxFeePerBlobGasVal.toNat +
    (Rlp.list hashEncodable).length tx.blobVersionedHashes +
    (Rlp.list RecentRootReference.encodable).length tx.recentRootReferences +
    (Rlp.list (Frame.encodable alloy)).length tx.frames +
    (Rlp.list (FrameSignature.encodable alloy elideSignatures)).length tx.signatures
  Rlp.header Rlp.listOffset payloadLength ++
    (Rlp.uint.encode tx.chainId.toNat ++
    (Rlp.list nonceKeyEncodable).encode nonceKeys ++
    Rlp.uint.encode nonceSeqVal.toNat ++
    Rlp.bytes.encode senderBytes ++
    (Rlp.list (Frame.encodable alloy)).encode tx.frames ++
    (Rlp.list (FrameSignature.encodable alloy elideSignatures)).encode tx.signatures ++
    Rlp.uint.encode maxPriorityFeePerGasVal.toNat ++
    Rlp.uint.encode maxFeePerGasVal.toNat ++
    Rlp.uint.encode maxFeePerBlobGasVal.toNat ++
    (Rlp.list hashEncodable).encode tx.blobVersionedHashes ++
    (Rlp.list RecentRootReference.encodable).encode tx.recentRootReferences)

/-- `encode_transaction`. -/
def FrameTransaction.encodeTransaction (alloy : Alloy) (tx : FrameTransaction) : Bytes :=
  frameTxType :: tx.encodePayload alloy false

/-- The `hash_payload` of `compute_sig_hash`: the type byte and the elided payload. -/
def FrameTransaction.sigHashPreimage (alloy : Alloy) (tx : FrameTransaction) : Bytes :=
  frameTxType :: tx.encodePayload alloy true

/-- `compute_sig_hash`. -/
def FrameTransaction.computeSigHash (alloy : Alloy) (tx : FrameTransaction) : B256 :=
  alloy.keccak256 (tx.sigHashPreimage alloy)

/-- `calldata_cost`, summed in `u64`. -/
def calldataCost (data : Bytes) : Nat :=
  (data.map fun byte => if byte = 0 then 4 else 16).sum % 2 ^ 64

/-- A field that may be left blank, as the empty string or a bare `0x`. -/
def Alloy.expectUnlessBlank (alloy : Alloy) (field value : String) (expectedLen : Nat) :
    Except WireFormatError Unit :=
  if value ≠ "" ∧ value ≠ "0x" then do
    let _ ← alloy.expectHexBytes field value (some expectedLen)
  else .ok ()

/-- An absent target is a blank one. -/
def Frame.validateTarget (alloy : Alloy) (i : Nat) (frame : Frame) : Except WireFormatError Unit :=
  match frame.target with
  | some target => alloy.expectUnlessBlank s!"frames[{i}].target" target 20
  | none => .ok ()

/-- The frame checks of `validate_wire_format`. -/
def Frame.validateWireFormat (alloy : Alloy) (i : Nat) (frame : Frame) :
    Except WireFormatError Unit := do
  frame.validateTarget alloy i
  let _ ← alloy.expectHexBytes s!"frames[{i}].data" frame.data none
  let _ ← alloy.expectU256 s!"frames[{i}].value" frame.value

/-- An `ARBITRARY` entry names no signer; every other scheme names one. -/
def FrameSignature.validateSigner (alloy : Alloy) (i : Nat) (sig : FrameSignature) :
    Except WireFormatError Unit :=
  if sig.scheme = frameSigSchemeArbitrary then
    if sig.signer ≠ "" ∧ sig.signer ≠ "0x" then
      .error ⟨s!"signatures[{i}]: ARBITRARY signatures must not name a signer"⟩
    else .ok ()
  else do
    let _ ← alloy.expectHexBytes s!"signatures[{i}].signer" sig.signer (some 20)

/-- The signature checks of `validate_wire_format`. -/
def FrameSignature.validateWireFormat (alloy : Alloy) (i : Nat) (sig : FrameSignature) :
    Except WireFormatError Unit := do
  sig.validateSigner alloy i
  alloy.expectUnlessBlank s!"signatures[{i}].msg" sig.msg 32
  let _ ← alloy.expectHexBytes s!"signatures[{i}].signature" sig.signature none

/-- `validate_wire_format`. -/
def FrameTransaction.validateWireFormat (alloy : Alloy) (tx : FrameTransaction) :
    Except WireFormatError Unit := do
  let _ ← alloy.expectHexBytes "sender" tx.sender (some 20)
  Check.each (Frame.validateWireFormat alloy) 0 tx.frames
  Check.each (FrameSignature.validateWireFormat alloy) 0 tx.signatures

end OpenEngine.Core
