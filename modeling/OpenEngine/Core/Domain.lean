import Mathlib.Data.List.Basic
import Mathlib.Algebra.Order.Ring.Nat

/-!
# Frame transactions

The value types of `core/src/domain.rs`. Strings stay strings: hex and decimal fields are parsed by
the encoder, not here.
-/

namespace OpenEngine

/-- `u128`. -/
abbrev U128 := BitVec 128

/-- `U256`. -/
abbrev U256 := BitVec 256

/-- A byte string. -/
abbrev Bytes := List UInt8

/-- `B256`: exactly 32 bytes. -/
abbrev B256 := { bytes : Bytes // bytes.length = 32 }

namespace Core

/-- `FRAME_TX_INTRINSIC_COST`. -/
def frameTxIntrinsicCost : Nat := 15000

/-- `FRAME_TX_PER_FRAME_COST`. -/
def frameTxPerFrameCost : Nat := 475

/-- `MAX_VERIFY_GAS`. -/
def maxVerifyGas : Nat := 500000

/-- `FRAME_TX_MAX_FRAMES`. -/
def frameTxMaxFrames : Nat := 64

/-- `EXPIRY_VERIFIER_ADDRESS`. -/
def expiryVerifierAddress : String := "0x0000000000000000000000000000000000008141"

/-- `FRAME_TX_MAX_NONCE_KEYS`. -/
def frameTxMaxNonceKeys : Nat := 16

/-- `FRAME_TX_MAX_RECENT_ROOT_REFERENCES`. -/
def frameTxMaxRecentRootReferences : Nat := 16

/-- `FRAME_TX_RECENT_ROOT_REFERENCE_ADDRESS_GAS`. -/
def frameTxRecentRootReferenceAddressGas : Nat := 3000

/-- `FRAME_TX_RECENT_ROOT_REFERENCE_GAS`. -/
def frameTxRecentRootReferenceGas : Nat := 3000 + 2 * 30 + 7 * 6

/-- `FRAME_SIG_SCHEME_ARBITRARY`. -/
def frameSigSchemeArbitrary : UInt8 := 0

/-- `FRAME_SIG_SCHEME_SECP256K1`. -/
def frameSigSchemeSecp256k1 : UInt8 := 1

/-- `FRAME_SIG_SCHEME_P256`. -/
def frameSigSchemeP256 : UInt8 := 2

/-- `FRAME_SIG_COST_ARBITRARY`. -/
def frameSigCostArbitrary : Nat := 100

/-- `FRAME_SIG_COST_SECP256K1`. -/
def frameSigCostSecp256k1 : Nat := 2800

/-- `FRAME_SIG_COST_P256`. -/
def frameSigCostP256 : Nat := 6700

/-- `FrameMode`. -/
inductive FrameMode where
  | verify
  | sender
  | default
deriving DecidableEq

/-- `Frame`. -/
structure Frame where
  mode : FrameMode
  flags : UInt8
  /-- Hex address; absent or empty stands for the sender. -/
  target : Option String
  gasLimit : UInt64
  /-- Decimal or hex amount in wei. -/
  value : String
  /-- Hex calldata. -/
  data : String
deriving DecidableEq

/-- `RecentRootReference`. -/
structure RecentRootReference where
  sourceId : B256
  slot : UInt64
  root : B256
deriving DecidableEq

/-- `FrameSignature`. -/
structure FrameSignature where
  scheme : UInt8
  /-- Hex address of the signer. -/
  signer : String
  /-- Hex digest, or empty to sign the canonical hash. -/
  msg : String
  /-- Hex signature bytes. -/
  signature : String
deriving DecidableEq

/-- `PayerIntent`. -/
inductive PayerIntent where
  | selfPaid
  | sponsor
  | external
deriving DecidableEq

/-- `PayerIntent::as_str`. -/
def PayerIntent.asStr : PayerIntent → String
  | .selfPaid => "self"
  | .sponsor => "sponsor"
  | .external => "external"

/-- `FrameTransaction`. -/
structure FrameTransaction where
  chainId : UInt64
  nonceKeys : List U256
  nonceSeq : Option UInt64
  /-- Hex address. -/
  sender : String
  maxPriorityFeePerGas : Option U128
  maxFeePerGas : Option U128
  maxFeePerBlobGas : Option U256
  blobVersionedHashes : List B256
  recentRootReferences : List RecentRootReference
  frames : List Frame
  signatures : List FrameSignature
  payer : Option PayerIntent
deriving DecidableEq

/-- `effective_nonce_keys`: an empty list stands for the legacy domain. -/
def FrameTransaction.effectiveNonceKeys (tx : FrameTransaction) : List U256 :=
  if tx.nonceKeys.isEmpty then [0] else tx.nonceKeys

end Core

end OpenEngine
