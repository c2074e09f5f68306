import OpenEngine.Core.Encoding

/-!
# What is on the wire

The values a reader of the standard grammar finds behind the type byte, independent of how the
strings of a transaction spell them. The encoder writes exactly the item of its lenient reading,
and for a validated transaction the lenient reading is the strict one.
-/

namespace OpenEngine.Core

/-- A frame on the wire. -/
structure WireFrame where
  mode : FrameMode
  flags : UInt8
  target : Bytes
  gasLimit : UInt64
  value : U256
  data : Bytes
deriving DecidableEq

/-- A signature on the wire. -/
structure WireSignature where
  scheme : UInt8
  signer : Bytes
  msg : Bytes
  signature : Bytes
deriving DecidableEq

/-- The eleven fields of a frame transaction on the wire. -/
structure WireTransaction where
  chainId : UInt64
  nonceKeys : List U256
  nonceSeq : UInt64
  sender : Bytes
  frames : List WireFrame
  signatures : List WireSignature
  maxPriorityFeePerGas : U128
  maxFeePerGas : U128
  maxFeePerBlobGas : U256
  blobVersionedHashes : List B256
  recentRootReferences : List RecentRootReference
deriving DecidableEq

open Rlp (Item)

/-- The item of a frame. -/
def WireFrame.item (frame : WireFrame) : Item :=
  .list [.ofNat frame.mode.modeVal.toNat, .ofNat frame.flags.toNat, .bytes frame.target,
    .ofNat frame.gasLimit.toNat, .ofNat frame.value.toNat, .bytes frame.data]

/-- The item of a signature. -/
def WireSignature.item (sig : WireSignature) : Item :=
  .list [.ofNat sig.scheme.toNat, .bytes sig.signer, .bytes sig.msg, .bytes sig.signature]

/-- The item of a recent-root reference. -/
def RecentRootReference.item (reference : RecentRootReference) : Item :=
  .list [.bytes reference.sourceId.val, .ofNat reference.slot.toNat, .bytes reference.root.val]

/-- The item of a transaction. -/
def WireTransaction.item (tx : WireTransaction) : Item :=
  .list [.ofNat tx.chainId.toNat, .list (tx.nonceKeys.map fun key => .ofNat key.toNat),
    .ofNat tx.nonceSeq.toNat, .bytes tx.sender, .list (tx.frames.map WireFrame.item),
    .list (tx.signatures.map WireSignature.item), .ofNat tx.maxPriorityFeePerGas.toNat,
    .ofNat tx.maxFeePerGas.toNat, .ofNat tx.maxFeePerBlobGas.toNat,
    .list (tx.blobVersionedHashes.map fun hash => .bytes hash.val),
    .list (tx.recentRootReferences.map RecentRootReference.item)]

/-- A mode byte names one of the three modes. -/
def FrameMode.ofVal (value : Nat) : Option FrameMode :=
  match value with
  | 0 => some .default
  | 1 => some .verify
  | 2 => some .sender
  | _ => none

/-- Thirty-two bytes of an item. -/
def readHash (item : Item) : Option B256 := do
  let content ← item.asBytes
  if width : content.length = 32 then some ⟨content, width⟩ else none

/-- An integer of a bit width that is a whole number of bytes. -/
def readWord (width : Nat) (item : Item) : Option (BitVec (8 * width)) :=
  (item.asNat width).map (BitVec.ofNat (8 * width))

/-- The elements of a list item, each read in turn. -/
def readList {α : Type} (read : Item → Option α) (item : Item) : Option (List α) := do
  (← item.asList).mapM read

/-- Reads a frame: six fields. -/
def WireFrame.ofItem (item : Item) : Option WireFrame := do
  match ← item.asList with
  | [mode, flags, target, gasLimit, value, data] =>
    some
      { mode := ← FrameMode.ofVal (← mode.asNat 1)
        flags := ⟨← readWord 1 flags⟩
        target := ← target.asBytes
        gasLimit := ⟨← readWord 8 gasLimit⟩
        value := ← readWord 32 value
        data := ← data.asBytes }
  | _ => none

/-- Reads a signature: four fields. -/
def WireSignature.ofItem (item : Item) : Option WireSignature := do
  match ← item.asList with
  | [scheme, signer, msg, signature] =>
    some
      { scheme := ⟨← readWord 1 scheme⟩
        signer := ← signer.asBytes
        msg := ← msg.asBytes
        signature := ← signature.asBytes }
  | _ => none

/-- Reads a recent-root reference: three fields. -/
def RecentRootReference.ofItem (item : Item) : Option RecentRootReference := do
  match ← item.asList with
  | [sourceId, slot, root] =>
    some
      { sourceId := ← readHash sourceId
        slot := ⟨← readWord 8 slot⟩
        root := ← readHash root }
  | _ => none

/-- Reads a transaction: eleven fields. -/
def WireTransaction.ofItem (item : Item) : Option WireTransaction := do
  match ← item.asList with
  | [chainId, nonceKeys, nonceSeq, sender, frames, signatures, maxPriorityFeePerGas, maxFeePerGas,
      maxFeePerBlobGas, blobVersionedHashes, recentRootReferences] =>
    some
      { chainId := ⟨← readWord 8 chainId⟩
        nonceKeys := ← readList (readWord 32) nonceKeys
        nonceSeq := ⟨← readWord 8 nonceSeq⟩
        sender := ← sender.asBytes
        frames := ← readList WireFrame.ofItem frames
        signatures := ← readList WireSignature.ofItem signatures
        maxPriorityFeePerGas := ← readWord 16 maxPriorityFeePerGas
        maxFeePerGas := ← readWord 16 maxFeePerGas
        maxFeePerBlobGas := ← readWord 32 maxFeePerBlobGas
        blobVersionedHashes := ← readList readHash blobVersionedHashes
        recentRootReferences := ← readList RecentRootReference.ofItem recentRootReferences }
  | _ => none

/-- Reads the type byte and one list; bytes after the list are refused. -/
def WireTransaction.decode : Bytes → Option WireTransaction
  | [] => none
  | type :: input => do
    if type ≠ frameTxType then none
    else
      let (item, rest) ← Rlp.decode input
      if rest ≠ [] then none else WireTransaction.ofItem item

/-- An integer of a whole number of bytes reads back. -/
theorem readWord_ofNat {width : Nat} (word : BitVec (8 * width)) :
    readWord width (.ofNat word.toNat) = some word := by
  have below : word.toNat < 256 ^ width := by
    have bound := word.isLt
    rwa [Nat.pow_mul] at bound
  rw [readWord, Item.asNat_ofNat below, Option.map_some, BitVec.ofNat_toNat, BitVec.setWidth_eq]

/-- A byte reads back. -/
theorem readWord_byte (word : UInt8) : readWord 1 (.ofNat word.toNat) = some word.toBitVec :=
  @readWord_ofNat 1 word.toBitVec

/-- A `u64` reads back. -/
theorem readWord_u64 (word : UInt64) : readWord 8 (.ofNat word.toNat) = some word.toBitVec :=
  @readWord_ofNat 8 word.toBitVec

/-- A `u128` reads back. -/
theorem readWord_u128 (word : U128) : readWord 16 (.ofNat word.toNat) = some word :=
  @readWord_ofNat 16 word

/-- A `U256` reads back. -/
theorem readWord_u256 (word : U256) : readWord 32 (.ofNat word.toNat) = some word :=
  @readWord_ofNat 32 word

/-- A mode reads back. -/
theorem ofVal_modeVal (mode : FrameMode) : FrameMode.ofVal mode.modeVal.toNat = some mode := by
  cases mode with
  | verify => rfl
  | sender => rfl
  | default => rfl

/-- A hash reads back. -/
theorem readHash_bytes (hash : B256) : readHash (.bytes hash.val) = some hash := by
  simp [readHash, hash.property]

/-- Elements that read back make a list that reads back. -/
theorem readList_item {α : Type} {read : Item → Option α} {item : α → Item}
    (inverse : ∀ value, read (item value) = some value) (values : List α) :
    readList read (.list (values.map item)) = some values := by
  show (values.map item).mapM read = some values
  induction values with
  | nil => rfl
  | cons value values ih => simp [List.mapM_cons, inverse, ih]

/-- A frame reads back. -/
theorem WireFrame.ofItem_item (frame : WireFrame) : WireFrame.ofItem frame.item = some frame := by
  have mode : (Item.ofNat frame.mode.modeVal.toNat).asNat 1 = some frame.mode.modeVal.toNat :=
    Item.asNat_ofNat frame.mode.modeVal.toNat_lt
  simp [WireFrame.ofItem, WireFrame.item, mode, ofVal_modeVal, readWord_byte, readWord_u64,
    readWord_u256]

/-- A signature reads back. -/
theorem WireSignature.ofItem_item (sig : WireSignature) :
    WireSignature.ofItem sig.item = some sig := by
  simp [WireSignature.ofItem, WireSignature.item, readWord_byte]

/-- A recent-root reference reads back. -/
theorem RecentRootReference.ofItem_item (reference : RecentRootReference) :
    RecentRootReference.ofItem reference.item = some reference := by
  simp [RecentRootReference.ofItem, RecentRootReference.item, readHash_bytes, readWord_u64]

/-- A transaction reads back. -/
theorem WireTransaction.ofItem_item (tx : WireTransaction) :
    WireTransaction.ofItem tx.item = some tx := by
  unfold WireTransaction.ofItem WireTransaction.item
  rw [Item.asList_list]
  dsimp only [Option.bind_eq_bind, Option.bind_some]
  rw [readWord_u64, Option.bind_some, readList_item readWord_u256, Option.bind_some, readWord_u64,
    Option.bind_some, Item.asBytes_bytes, Option.bind_some, readList_item WireFrame.ofItem_item,
    Option.bind_some, readList_item WireSignature.ofItem_item, Option.bind_some, readWord_u128,
    Option.bind_some, readWord_u128, Option.bind_some, readWord_u256, Option.bind_some,
    readList_item readHash_bytes, Option.bind_some,
    readList_item RecentRootReference.ofItem_item, Option.bind_some]

/-- The encoding of a transaction's item behind the type byte decodes to the transaction. -/
theorem WireTransaction.decode_encode {tx : WireTransaction}
    (fits : tx.item.encode.length < 2 ^ 64) :
    WireTransaction.decode (frameTxType :: tx.item.encode) = some tx := by
  have whole := Rlp.decode_encode fits []
  rw [List.append_nil] at whole
  simp [WireTransaction.decode, whole, WireTransaction.ofItem_item]

/-- What the encoder writes for a frame. -/
def Frame.wire (alloy : Alloy) (frame : Frame) : WireFrame where
  mode := frame.mode
  flags := frame.flags
  target := frame.targetBytes alloy
  gasLimit := frame.gasLimit
  value := alloy.parseU256Value frame.value
  data := alloy.decodeHexBytes frame.data

/-- What the encoder writes for a signature. -/
def FrameSignature.wire (alloy : Alloy) (elideSignature : Bool) (sig : FrameSignature) :
    WireSignature where
  scheme := sig.scheme
  signer := alloy.decodeHexBytes sig.signer
  msg := alloy.decodeHexBytes sig.msg
  signature := sig.sigBytes alloy elideSignature

/-- What the encoder writes for a transaction. -/
def FrameTransaction.wire (alloy : Alloy) (elideSignatures : Bool) (tx : FrameTransaction) :
    WireTransaction where
  chainId := tx.chainId
  nonceKeys := tx.effectiveNonceKeys
  nonceSeq := tx.nonceSeq.getD 0
  sender := alloy.decodeHexBytes tx.sender
  frames := tx.frames.map (Frame.wire alloy)
  signatures := tx.signatures.map (FrameSignature.wire alloy elideSignatures)
  maxPriorityFeePerGas := tx.maxPriorityFeePerGas.getD 0
  maxFeePerGas := tx.maxFeePerGas.getD 0
  maxFeePerBlobGas := tx.maxFeePerBlobGas.getD 0
  blobVersionedHashes := tx.blobVersionedHashes
  recentRootReferences := tx.recentRootReferences

/-- The hand-counted frame encoder writes the frame's item. -/
theorem Frame.encodable_writes (alloy : Alloy) (frame : Frame) :
    (Frame.encodable alloy).Writes frame (frame.wire alloy).item := by
  apply Rlp.header_writes
  · simp only [Rlp.encodeAll, Frame.wire, (Rlp.uint_writes _).1, (Rlp.bytes_writes _).1,
      List.append_assoc, List.append_nil]
  · simp only [Rlp.encodeAll, Frame.wire, (Rlp.uint_writes _).2, (Rlp.bytes_writes _).2,
      List.length_append, List.length_nil, Nat.add_assoc, Nat.add_zero]

/-- The hand-counted signature encoder writes the signature's item. -/
theorem FrameSignature.encodable_writes (alloy : Alloy) (elideSignature : Bool)
    (sig : FrameSignature) :
    (FrameSignature.encodable alloy elideSignature).Writes sig
      (sig.wire alloy elideSignature).item := by
  apply Rlp.header_writes
  · simp only [Rlp.encodeAll, FrameSignature.wire, (Rlp.uint_writes _).1, (Rlp.bytes_writes _).1,
      List.append_assoc, List.append_nil]
  · simp only [Rlp.encodeAll, FrameSignature.wire, (Rlp.uint_writes _).2, (Rlp.bytes_writes _).2,
      List.length_append, List.length_nil, Nat.add_assoc, Nat.add_zero]

/-- The hand-counted reference encoder writes the reference's item. -/
theorem RecentRootReference.encodable_writes (reference : RecentRootReference) :
    RecentRootReference.encodable.Writes reference reference.item := by
  apply Rlp.header_writes
  · simp only [Rlp.encodeAll, (Rlp.uint_writes _).1, (Rlp.bytes_writes _).1,
      List.append_assoc, List.append_nil]
  · simp only [Rlp.encodeAll, (Rlp.uint_writes _).2, (Rlp.bytes_writes _).2,
      List.length_append, List.length_nil, Nat.add_assoc, Nat.add_zero]

/-- The signature list alone is the encoding of its items. -/
theorem encodeSignatures_eq (alloy : Alloy) (signatures : List FrameSignature) :
    encodeSignatures alloy signatures =
      (Item.list (signatures.map fun sig => (sig.wire alloy false).item)).encode :=
  (Rlp.list_writes fun sig _ => sig.encodable_writes alloy false).1

/-- The frame list alone is the encoding of its items. -/
theorem encodeFrames_eq (alloy : Alloy) (frames : List Frame) :
    encodeFrames alloy frames =
      (Item.list (frames.map fun frame => (frame.wire alloy).item)).encode :=
  (Rlp.list_writes fun frame _ => frame.encodable_writes alloy).1

/-- The payload is the encoding of the item of what the encoder writes. -/
theorem FrameTransaction.encodePayload_eq (alloy : Alloy) (elideSignatures : Bool)
    (tx : FrameTransaction) :
    tx.encodePayload alloy elideSignatures = (tx.wire alloy elideSignatures).item.encode := by
  have keys : (Rlp.list nonceKeyEncodable).Writes tx.effectiveNonceKeys
      (.list (tx.effectiveNonceKeys.map fun key => .ofNat key.toNat)) :=
    Rlp.list_writes fun key _ => Rlp.uint_writes key.toNat
  have hashes : (Rlp.list hashEncodable).Writes tx.blobVersionedHashes
      (.list (tx.blobVersionedHashes.map fun hash => .bytes hash.val)) :=
    Rlp.list_writes fun hash _ => Rlp.bytes_writes hash.val
  have references : (Rlp.list RecentRootReference.encodable).Writes tx.recentRootReferences
      (.list (tx.recentRootReferences.map RecentRootReference.item)) :=
    Rlp.list_writes fun reference _ => reference.encodable_writes
  have frames : (Rlp.list (Frame.encodable alloy)).Writes tx.frames
      (.list (tx.frames.map fun frame => (frame.wire alloy).item)) :=
    Rlp.list_writes fun frame _ => frame.encodable_writes alloy
  have signatures : (Rlp.list (FrameSignature.encodable alloy elideSignatures)).Writes tx.signatures
      (.list (tx.signatures.map fun sig => (sig.wire alloy elideSignatures).item)) :=
    Rlp.list_writes fun sig _ => sig.encodable_writes alloy elideSignatures
  refine (Rlp.header_writes ?_ ?_).1
  · simp only [Rlp.encodeAll, FrameTransaction.wire, List.map_map, Function.comp_def, keys.1,
      hashes.1, references.1, frames.1, signatures.1, (Rlp.uint_writes _).1, (Rlp.bytes_writes _).1,
      List.append_assoc, List.append_nil]
  · simp only [Rlp.encodeAll, FrameTransaction.wire, List.map_map, Function.comp_def, keys.2,
      hashes.2, references.2, frames.2, signatures.2, (Rlp.uint_writes _).2, (Rlp.bytes_writes _).2,
      List.length_append, List.length_nil]
    omega

end OpenEngine.Core
