import Mathlib.Data.List.Forall2
import OpenEngine.Core.RoundTrip

/-!
# What the canonical signature hash covers

The hash is taken over the payload in which the signature bytes of some entries are left out. The
signed bytes determine every other field of the transaction on the wire. They are not quite a
function of the bytes that are sent: an entry is elided when its `msg` is the empty string, and the
wire does not show whether it was.
-/

namespace OpenEngine.Core

variable {alloy : Alloy} {left right : FrameTransaction}

/-- Equal payloads of either kind are payloads of one transaction on the wire. -/
theorem FrameTransaction.wire_of_payload {elideSignatures : Bool}
    (fits : (left.encodePayload alloy elideSignatures).length < 2 ^ 64)
    (same : left.encodePayload alloy elideSignatures =
      right.encodePayload alloy elideSignatures) :
    left.wire alloy elideSignatures = right.wire alloy elideSignatures := by
  rw [FrameTransaction.encodePayload_eq] at fits
  rw [FrameTransaction.encodePayload_eq, FrameTransaction.encodePayload_eq] at same
  have items := Rlp.encode_inj fits same
  have read := WireTransaction.ofItem_item (left.wire alloy elideSignatures)
  rw [items, WireTransaction.ofItem_item] at read
  exact (Option.some.inj read).symm

/-- The signed bytes of a transaction determine the elided transaction on the wire. -/
theorem FrameTransaction.wire_of_preimage (fits : (left.sigHashPreimage alloy).length < 2 ^ 64)
    (same : left.sigHashPreimage alloy = right.sigHashPreimage alloy) :
    left.wire alloy true = right.wire alloy true := by
  rw [FrameTransaction.sigHashPreimage, List.length_cons] at fits
  exact FrameTransaction.wire_of_payload (by omega) (List.tail_eq_of_cons_eq same)

/-- The bytes that are sent determine the transaction on the wire. -/
theorem FrameTransaction.wire_of_transaction
    (fits : (left.encodeTransaction alloy).length < 2 ^ 64)
    (same : left.encodeTransaction alloy = right.encodeTransaction alloy) :
    left.wire alloy false = right.wire alloy false := by
  rw [FrameTransaction.encodeTransaction, List.length_cons] at fits
  exact FrameTransaction.wire_of_payload (by omega) (List.tail_eq_of_cons_eq same)

/-- The transaction on the wire determines the bytes that are sent. -/
theorem FrameTransaction.encodeTransaction_of_wire
    (wires : left.wire alloy false = right.wire alloy false) :
    left.encodeTransaction alloy = right.encodeTransaction alloy := by
  rw [FrameTransaction.encodeTransaction, FrameTransaction.encodeTransaction,
    FrameTransaction.encodePayload_eq, FrameTransaction.encodePayload_eq, wires]

/-- The elided transaction on the wire determines the signed bytes. -/
theorem FrameTransaction.sigHashPreimage_of_wire
    (wires : left.wire alloy true = right.wire alloy true) :
    left.sigHashPreimage alloy = right.sigHashPreimage alloy := by
  rw [FrameTransaction.sigHashPreimage, FrameTransaction.sigHashPreimage,
    FrameTransaction.encodePayload_eq, FrameTransaction.encodePayload_eq, wires]

/-- Equal images of two lists are equal images of their elements in turn. -/
theorem forall₂_of_map_eq {α β : Type} {image : α → β} {first second : List α}
    (same : first.map image = second.map image) :
    List.Forall₂ (fun one other => image one = image other) first second := by
  have images : List.Forall₂ Eq (first.map image) (second.map image) := by
    rw [same]
    exact List.forall₂_refl _
  rwa [List.forall₂_map_left_iff, List.forall₂_map_right_iff] at images

/-- Signatures alike in everything the hash covers: scheme, signer, digest, and the signature bytes
of an entry over an explicit digest. -/
def WireSignature.SignedAlike (one other : WireSignature) : Prop :=
  one.scheme = other.scheme ∧ one.signer = other.signer ∧ one.msg = other.msg ∧
    (one.msg ≠ [] → one.signature = other.signature)

/-- Entries with the same elided form are signed alike. -/
theorem FrameSignature.signedAlike {one other : FrameSignature}
    (same : one.wire alloy true = other.wire alloy true) :
    (one.wire alloy false).SignedAlike (other.wire alloy false) := by
  have scheme := congrArg WireSignature.scheme same
  have signer := congrArg WireSignature.signer same
  have msg := congrArg WireSignature.msg same
  have signature := congrArg WireSignature.signature same
  refine ⟨scheme, signer, msg, ?_⟩
  intro explicit
  have spelled (sig : FrameSignature) (digest : alloy.decodeHexBytes sig.msg ≠ []) :
      sig.msg ≠ "" := by
    intro blank
    rw [blank] at digest
    exact digest (Alloy.reads_blank (by simp)).decodeHexBytes
  have oneSpelled := spelled one explicit
  have otherSpelled := spelled other fun empty => explicit (msg.trans empty)
  simpa [FrameSignature.wire, FrameSignature.sigBytes, oneSpelled, otherSpelled] using signature

/-- Valid transactions with the same signed bytes have strict readings that agree on every field but
the signatures, and on everything of every signature that the hash covers. -/
theorem FrameTransaction.preimage_binds (alloy : Alloy) (left right : FrameTransaction)
    (leftValid : left.validateWireFormat alloy = .ok ())
    (rightValid : right.validateWireFormat alloy = .ok ())
    (fits : (left.sigHashPreimage alloy).length < 2 ^ 64)
    (same : left.sigHashPreimage alloy = right.sigHashPreimage alloy) :
    ∃ leftImage rightImage, left.strictWire alloy = .ok leftImage ∧
      right.strictWire alloy = .ok rightImage ∧
      { leftImage with signatures := [] } = { rightImage with signatures := [] } ∧
      List.Forall₂ WireSignature.SignedAlike leftImage.signatures rightImage.signatures := by
  have wires := FrameTransaction.wire_of_preimage fits same
  refine ⟨left.wire alloy false, right.wire alloy false, left.strictWire_of_valid leftValid,
    right.strictWire_of_valid rightValid, ?_, ?_⟩
  · exact congrArg (fun image : WireTransaction => { image with signatures := [] }) wires
  · have signatures := forall₂_of_map_eq (congrArg WireTransaction.signatures wires)
    simp only [FrameTransaction.wire, List.forall₂_map_left_iff, List.forall₂_map_right_iff]
    exact signatures.imp fun _ _ elided => FrameSignature.signedAlike elided

/-- The test transaction with another signature in its elided entry. -/
def resignedTx : FrameTransaction :=
  { testTx with signatures := testTx.signatures.map fun sig => { sig with signature := "0x5678" } }

/-- The test transaction binds the same fields under both signatures. -/
theorem FrameTransaction.preimage_binds_testTx :
    ∃ leftImage rightImage, testTx.strictWire testAlloy = .ok leftImage ∧
      resignedTx.strictWire testAlloy = .ok rightImage ∧
      { leftImage with signatures := [] } = { rightImage with signatures := [] } ∧
      List.Forall₂ WireSignature.SignedAlike leftImage.signatures rightImage.signatures := by
  have wires : testTx.wire testAlloy true = resignedTx.wire testAlloy true := by
    simp only [FrameTransaction.wire, resignedTx, testTx, List.map_cons, List.map_nil,
      FrameSignature.wire, FrameSignature.sigBytes, FrameTransaction.effectiveNonceKeys, and_self,
      ↓reduceIte]
    rfl
  have same := FrameTransaction.sigHashPreimage_of_wire wires
  exact FrameTransaction.preimage_binds testAlloy testTx resignedTx testTx_valid
    (by decide +kernel) testTx_preimage_length same

example : (testTx.wire testAlloy true).signatures.map WireSignature.signature = [[]] := by
  decide +kernel

/-- The elision leaves both entries or neither without signature bytes. -/
def FrameSignature.ElidedAlike (alloy : Alloy) (one other : FrameSignature) : Prop :=
  (one.msg = "" ↔ other.msg = "") ∨ alloy.decodeHexBytes one.signature = []

/-- Of two transactions, every entry and its counterpart are elided alike. -/
def FrameTransaction.ElidedAlike (alloy : Alloy) (left right : FrameTransaction) : Prop :=
  List.Forall₂ (FrameSignature.ElidedAlike alloy) left.signatures right.signatures

/-- Entries that are sent alike have one elided form exactly if they are elided alike. -/
theorem FrameSignature.elided_iff {one other : FrameSignature}
    (sent : one.wire alloy false = other.wire alloy false) :
    one.wire alloy true = other.wire alloy true ↔ one.ElidedAlike alloy other := by
  have scheme : one.scheme = other.scheme := congrArg WireSignature.scheme sent
  have signer : alloy.decodeHexBytes one.signer = alloy.decodeHexBytes other.signer :=
    congrArg WireSignature.signer sent
  have msg : alloy.decodeHexBytes one.msg = alloy.decodeHexBytes other.msg :=
    congrArg WireSignature.msg sent
  have signature : alloy.decodeHexBytes one.signature = alloy.decodeHexBytes other.signature := by
    simpa [FrameSignature.wire, FrameSignature.sigBytes] using
      congrArg WireSignature.signature sent
  simp only [FrameSignature.wire, FrameSignature.sigBytes, FrameSignature.ElidedAlike, scheme,
    signer, msg, signature, WireSignature.mk.injEq, true_and]
  by_cases oneBlank : one.msg = ""
  · by_cases otherBlank : other.msg = ""
    · simp [oneBlank, otherBlank]
    · simp only [oneBlank, otherBlank, ↓reduceIte, true_iff, false_or]
      exact eq_comm
  · by_cases otherBlank : other.msg = ""
    · simp [oneBlank, otherBlank]
    · simp [oneBlank, otherBlank]

/-- Lists of entries that are sent alike have one elided form exactly if they are elided alike. -/
theorem elided_list_iff {first second : List FrameSignature}
    (sent : List.Forall₂ (fun one other : FrameSignature =>
      one.wire alloy false = other.wire alloy false) first second) :
    first.map (FrameSignature.wire alloy true) = second.map (FrameSignature.wire alloy true) ↔
      List.Forall₂ (FrameSignature.ElidedAlike alloy) first second := by
  induction sent with
  | nil => simp
  | cons same rest ih =>
    rw [List.map_cons, List.map_cons, List.cons.injEq, List.forall₂_cons,
      FrameSignature.elided_iff same, ih]

/-- The elided transaction differs from the one that is sent in its signatures only. -/
theorem FrameTransaction.wire_elided (alloy : Alloy) (tx : FrameTransaction) :
    tx.wire alloy true = { tx.wire alloy false with
      signatures := tx.signatures.map (FrameSignature.wire alloy true) } := rfl

/-- Transactions with the same bytes on the wire have the same signed bytes exactly if their entries
are elided alike. Both byte strings are counted by a `usize`. A value of more than 32 bytes is read
by its low 256 bits here; the source panics on it. -/
theorem FrameTransaction.preimage_eq_iff_elidedAlike (alloy : Alloy)
    (left right : FrameTransaction) (fits : (left.encodeTransaction alloy).length < 2 ^ 64)
    (hashFits : (left.sigHashPreimage alloy).length < 2 ^ 64)
    (sent : left.encodeTransaction alloy = right.encodeTransaction alloy) :
    left.sigHashPreimage alloy = right.sigHashPreimage alloy ↔ left.ElidedAlike alloy right := by
  have wires := FrameTransaction.wire_of_transaction fits sent
  have entries := forall₂_of_map_eq (congrArg WireTransaction.signatures wires)
  rw [FrameTransaction.ElidedAlike, ← elided_list_iff entries]
  constructor
  · intro same
    exact congrArg WireTransaction.signatures (FrameTransaction.wire_of_preimage hashFits same)
  · intro elided
    have covered : left.wire alloy true = right.wire alloy true := by
      rw [FrameTransaction.wire_elided, FrameTransaction.wire_elided, wires, elided]
    exact FrameTransaction.sigHashPreimage_of_wire covered

/-- The test transaction with its signature spelled without the marker. -/
def unmarkedSigTx : FrameTransaction :=
  { testTx with signatures := testTx.signatures.map fun sig => { sig with signature := "1234" } }

/-- The other spelling of its signature leaves the test transaction as it was on the wire. -/
theorem unmarkedSigTx_wire (elideSignatures : Bool) :
    testTx.wire testAlloy elideSignatures = unmarkedSigTx.wire testAlloy elideSignatures := by
  have spelled : testAlloy.decodeHexBytes "0x1234" = testAlloy.decodeHexBytes "1234" := by
    decide +kernel
  simp only [FrameTransaction.wire, unmarkedSigTx, testTx, List.map_cons, List.map_nil,
    FrameSignature.wire, FrameSignature.sigBytes, FrameTransaction.effectiveNonceKeys, spelled]
  rfl

/-- With either spelling of its signature the test transaction is sent alike, elided alike and
signed alike. -/
theorem FrameTransaction.preimage_eq_iff_elidedAlike_testTx :
    testTx.ElidedAlike testAlloy unmarkedSigTx ∧
      testTx.sigHashPreimage testAlloy = unmarkedSigTx.sigHashPreimage testAlloy := by
  have sent := FrameTransaction.encodeTransaction_of_wire (unmarkedSigTx_wire false)
  have alike : testTx.ElidedAlike testAlloy unmarkedSigTx :=
    .cons (.inl Iff.rfl) .nil
  exact ⟨alike, (FrameTransaction.preimage_eq_iff_elidedAlike testAlloy testTx unmarkedSigTx
    (by decide +kernel) testTx_preimage_length sent).mpr alike⟩

/-- The test transaction with its blank `msg` spelled as a bare marker. -/
def markedMsgTx : FrameTransaction :=
  { testTx with signatures := testTx.signatures.map fun sig => { sig with msg := "0x" } }

/-- With the other spelling of its blank `msg` the test transaction is sent alike and signed
otherwise. -/
theorem FrameTransaction.preimage_ne_of_marked_msg :
    testTx.validateWireFormat testAlloy = .ok () ∧
      markedMsgTx.validateWireFormat testAlloy = .ok () ∧
      testTx.encodeTransaction testAlloy = markedMsgTx.encodeTransaction testAlloy ∧
      testTx.sigHashPreimage testAlloy ≠ markedMsgTx.sigHashPreimage testAlloy := by
  refine ⟨testTx_valid, by decide +kernel, ?_, ?_⟩
  · have blank : testAlloy.decodeHexBytes "" = testAlloy.decodeHexBytes "0x" := by decide +kernel
    have wires : testTx.wire testAlloy false = markedMsgTx.wire testAlloy false := by
      simp only [FrameTransaction.wire, markedMsgTx, testTx, List.map_cons, List.map_nil,
        FrameSignature.wire, FrameSignature.sigBytes, FrameTransaction.effectiveNonceKeys, blank]
      rfl
    exact FrameTransaction.encodeTransaction_of_wire wires
  · intro same
    have wires := FrameTransaction.wire_of_preimage testTx_preimage_length same
    have signatures := congrArg
      (fun image : WireTransaction => image.signatures.map WireSignature.signature) wires
    have signed : testAlloy.decodeHexBytes "0x1234" ≠ [] := by decide +kernel
    simp [FrameTransaction.wire, markedMsgTx, testTx, FrameSignature.wire,
      FrameSignature.sigBytes] at signatures
    exact signed signatures

end OpenEngine.Core
