import OpenEngine.Compiler.Structure
import OpenEngine.Core.ExactCost
import OpenEngine.Core.Spelling

/-!
# The grammar of accepted transactions

`Rules` states what a transaction has to look like: bounds on its lists, the spelling of its fields,
and a prefix of one of four shapes among its frames without the expiry frames, within the gas of
validation. `validate_structure` finds that prefix by a scan. It accepts exactly the transactions
that meet the rules and whose expiry frames have 8 bytes of data by the length of their string,
which miscounts data with a second `0x` marker.
-/

namespace OpenEngine.Compiler

open OpenEngine.Core

/-- The frames the prefix is matched against. -/
def visibleFrames (tx : FrameTransaction) : List Frame :=
  tx.frames.filter fun frame => !frame.isExpiryFrame

/-- A `VERIFY` frame that approves payment. -/
def approvesPayment (frame : Frame) : Bool := frame.mode = .verify ∧ frame.flags &&& 0x01 ≠ 0

/-- The last frame approves payment, and no frame before it does. -/
def endsAtPayment : List Frame → Bool
  | [] => false
  | frame :: rest => if approvesPayment frame then rest.isEmpty else endsAtPayment rest

/-- The four shapes of a validation prefix. -/
inductive PrefixForm (tx : FrameTransaction) : List Frame → Prop where
  | selfRelay {verify : Frame} (self : isSelfVerify tx verify) : PrefixForm tx [verify]
  | deploySelfRelay {deploy verify : Frame} (first : isDeploy deploy)
      (self : isSelfVerify tx verify) : PrefixForm tx [deploy, verify]
  | paymaster {verify pay : Frame} (only : isOnlyVerify tx verify) (pays : isPay pay) :
      PrefixForm tx [verify, pay]
  | deployPaymaster {deploy verify pay : Frame} (first : isDeploy deploy)
      (only : isOnlyVerify tx verify) (pays : isPay pay) : PrefixForm tx [deploy, verify, pay]

/-- The frames up to and including the first one that approves payment, expiry frames left out. -/
def PaymentPrefix (tx : FrameTransaction) (frames : List Frame) : Prop :=
  frames <+: visibleFrames tx ∧ endsAtPayment frames

/-- The gas of validating a prefix, summed exactly. -/
def prefixGas (alloy : Alloy) (tx : FrameTransaction) (frames : List Frame) : Nat :=
  frameTxIntrinsicCost + tx.frames.length * frameTxPerFrameCost +
    dataGas (encodeSignatures alloy tx.signatures) +
    dataGas (encodeFrames alloy tx.frames) +
    (tx.signatures.map fun sig => signatureCost sig.scheme).sum +
    (frames.map fun frame => frame.gasLimit.toNat).sum

/-- A prefix of the visible frames that may be validated: of one of the four shapes, without the
atomic batch flag, and within the gas. -/
structure ValidationPrefix (alloy : Alloy) (tx : FrameTransaction) (frames : List Frame) :
    Prop where
  leads : frames <+: visibleFrames tx
  form : PrefixForm tx frames
  unbatched : ∀ frame ∈ frames, frame.flags &&& 0x04 = 0
  affordable : prefixGas alloy tx frames ≤ maxVerifyGas

/-- The rules for transactions, apart from the data of expiry frames. -/
structure Rules (alloy : Alloy) (tx : FrameTransaction) : Prop where
  wire : tx.validateWireFormat alloy = .ok ()
  fees : ∃ maxFee priorityFee, tx.maxFeePerGas = some maxFee ∧
    tx.maxPriorityFeePerGas = some priorityFee ∧ priorityFee ≤ maxFee
  frameCount : 1 ≤ tx.frames.length ∧ tx.frames.length ≤ 64
  keyCount : tx.effectiveNonceKeys.length ≤ 16
  keysIncrease : tx.effectiveNonceKeys.Pairwise (· < ·)
  legacyKey : 0 ∈ tx.effectiveNonceKeys → tx.effectiveNonceKeys = [0]
  seq : tx.nonceSeq ≠ some (UInt64.ofNat (2 ^ 64 - 1))
  referenceCount : tx.recentRootReferences.length ≤ 16
  schemes : ∀ sig ∈ tx.signatures, sig.scheme = 0 ∨ sig.scheme = 1 ∨ sig.scheme = 2
  values : ∀ frame ∈ tx.frames, frame.mode ≠ .sender →
    frame.value = "0" ∨ frame.value = "0x0" ∨ frame.value = ""
  lastFrame : ∀ frame ∈ tx.frames.getLast?, frame.flags &&& 0x04 = 0
  expiryFlags : ∀ frame ∈ tx.frames, frame.isExpiryFrame → frame.flags = 0
  validationPrefix : ∃! frames, ValidationPrefix alloy tx frames

/-- The grammar: the rules, and 8 bytes of data in every expiry frame. -/
structure Grammar (alloy : Alloy) (tx : FrameTransaction) : Prop extends Rules alloy tx where
  expiryData : ∀ frame ∈ tx.frames, frame.isExpiryFrame →
    (alloy.decodeHexBytes frame.data).length = 8

section Scan

/-- The scan finds a prefix exactly if it is one of the visible frames and ends at payment. -/
theorem collectPrefix_eq_iff (gas : UInt64) (frames collected : List Frame) :
    (collectPrefix gas frames).2 = (collected, true) ↔
      collected <+: (frames.filter fun frame => !frame.isExpiryFrame) ∧
        endsAtPayment collected := by
  induction frames generalizing gas collected with
  | nil =>
    simp only [collectPrefix, Prod.mk.injEq, Bool.false_eq_true, and_false, List.filter_nil,
      List.prefix_nil, false_iff, not_and]
    rintro rfl
    decide
  | cons frame rest ih =>
    unfold collectPrefix
    by_cases expiry : frame.isExpiryFrame
    · rw [if_pos expiry, ih, List.filter_cons_of_neg (by simp [expiry])]
    · rw [if_neg expiry, List.filter_cons_of_pos (by simp [expiry])]
      by_cases approves : approvesPayment frame
      · rw [if_pos (by simpa [approvesPayment] using approves)]
        cases collected with
        | nil => simp [endsAtPayment]
        | cons first later =>
          simp only [Prod.mk.injEq, List.cons.injEq, and_true, List.cons_prefix_cons,
            endsAtPayment]
          constructor
          · rintro ⟨rfl, rfl⟩
            simp [approves]
          · rintro ⟨⟨rfl, -⟩, ends⟩
            rw [if_pos approves, List.isEmpty_iff] at ends
            exact ⟨rfl, ends.symm⟩
      · rw [if_neg (by simpa [approvesPayment] using approves)]
        have later (others : List Frame) := ih (gas + frame.gasLimit) others
        cases collected with
        | nil => simp [endsAtPayment]
        | cons first others =>
          simp only [Prod.mk.injEq, List.cons.injEq, List.cons_prefix_cons, endsAtPayment]
          rw [and_assoc, ← Prod.mk.injEq, Prod.eta, later]
          constructor
          · rintro ⟨rfl, leads, ends⟩
            rw [if_neg approves]
            exact ⟨⟨rfl, leads⟩, ends⟩
          · rintro ⟨⟨rfl, leads⟩, ends⟩
            rw [if_neg approves] at ends
            exact ⟨rfl, leads, ends⟩

/-- The scan adds up the gas limits of the frames it collects. -/
theorem collectPrefix_gas (gas : UInt64) (frames : List Frame) :
    (collectPrefix gas frames).1 =
      (collectPrefix gas frames).2.1.foldl (fun total frame => total + frame.gasLimit) gas := by
  induction frames generalizing gas with
  | nil => rfl
  | cons frame rest ih =>
    unfold collectPrefix
    split
    · exact ih gas
    · split
      · rfl
      · exact ih (gas + frame.gasLimit)

/-- Adding up in `u64` wraps the exact sum. -/
theorem toNat_foldl_gas (gas : UInt64) (frames : List Frame) :
    (frames.foldl (fun total frame => total + frame.gasLimit) gas).toNat =
      (gas.toNat + (frames.map fun frame => frame.gasLimit.toNat).sum) % 2 ^ 64 := by
  induction frames generalizing gas with
  | nil =>
    have small := gas.toNat_lt
    simp only [List.foldl_nil, List.map_nil, List.sum_nil]
    omega
  | cons frame rest ih =>
    rw [List.foldl_cons, ih, UInt64.toNat_add, List.map_cons, List.sum_cons]
    omega

end Scan

section Gas

/-- The initial gas in `u64` is the exact gas of the empty prefix, as long as that fits. -/
theorem toNat_baseVerifyGas {alloy : Alloy} {tx : FrameTransaction}
    (fits : prefixGas alloy tx [] < 2 ^ 64) :
    (baseVerifyGas alloy tx).toNat = prefixGas alloy tx [] := by
  have signatures : tx.signatureVerificationCost =
      (tx.signatures.map fun sig => signatureCost sig.scheme).sum := by
    rw [FrameTransaction.signatureVerificationCost, Saturating.foldl_add _ 0 (Nat.zero_le _)]
    unfold prefixGas at fits
    unfold Saturating.top
    omega
  unfold prefixGas dataGas at fits ⊢
  unfold baseVerifyGas calldataCost
  rw [signatures]
  simp only [UInt64.toNat_add, UInt64.toNat_mul, UInt64.toNat_ofNat', List.map_nil, List.sum_nil,
    frameTxIntrinsicCost, frameTxPerFrameCost] at fits ⊢
  omega

/-- The gas the scan ends with is the exact gas of the prefix, as long as that fits. -/
theorem toNat_collectPrefix {alloy : Alloy} {tx : FrameTransaction} {frames : List Frame}
    {approved : Bool}
    (scanned : (collectPrefix (baseVerifyGas alloy tx) tx.frames).2 = (frames, approved))
    (fits : prefixGas alloy tx frames < 2 ^ 64) :
    (collectPrefix (baseVerifyGas alloy tx) tx.frames).1.toNat = prefixGas alloy tx frames := by
  have split : prefixGas alloy tx frames = prefixGas alloy tx [] +
      (frames.map fun frame => frame.gasLimit.toNat).sum := rfl
  rw [collectPrefix_gas, scanned, toNat_foldl_gas, toNat_baseVerifyGas (by omega), ← split]
  exact Nat.mod_eq_of_lt fits

end Gas

section Shape

variable {tx : FrameTransaction}

/-- Two prefixes that end at payment are one. -/
theorem PaymentPrefix.unique {first second : List Frame} (one : PaymentPrefix tx first)
    (other : PaymentPrefix tx second) : first = second := by
  have firstScan := (collectPrefix_eq_iff 0 tx.frames first).mpr one
  have secondScan := (collectPrefix_eq_iff 0 tx.frames second).mpr other
  rw [firstScan] at secondScan
  exact congrArg Prod.fst secondScan

/-- The payment bit is one of the two approval bits. -/
theorem payment_bit {flags bits : UInt8} (approval : flags &&& 0x03 = bits) :
    flags &&& 0x01 = bits &&& 0x01 := by
  rw [← approval, UInt8.and_assoc]
  rfl

/-- A frame that approves execution and payment approves payment. -/
theorem approvesPayment_of_isSelfVerify {frame : Frame} (self : isSelfVerify tx frame) :
    approvesPayment frame := by
  simp only [isSelfVerify, decide_eq_true_eq] at self
  simp only [approvesPayment, payment_bit self.2.2, self.1, decide_eq_true_eq]
  decide

/-- A frame that approves payment alone approves payment. -/
theorem approvesPayment_of_isPay {frame : Frame} (pays : isPay frame) : approvesPayment frame := by
  simp only [isPay, decide_eq_true_eq] at pays
  simp only [approvesPayment, payment_bit pays.2, pays.1, decide_eq_true_eq]
  decide

/-- A frame that approves execution alone approves no payment. -/
theorem not_approvesPayment_of_isOnlyVerify {frame : Frame} (only : isOnlyVerify tx frame) :
    approvesPayment frame = false := by
  simp only [isOnlyVerify, decide_eq_true_eq] at only
  simp only [approvesPayment, payment_bit only.2.2, decide_eq_false_iff_not, not_and]
  intro _ approved
  exact approved rfl

/-- A deployment approves no payment. -/
theorem not_approvesPayment_of_isDeploy {frame : Frame} (deploys : isDeploy frame) :
    approvesPayment frame = false := by
  simp only [isDeploy, decide_eq_true_eq] at deploys
  simp [approvesPayment, deploys]

/-- Every shape ends at payment. -/
theorem PrefixForm.endsAtPayment {frames : List Frame} (form : PrefixForm tx frames) :
    endsAtPayment frames := by
  cases form with
  | selfRelay self =>
    simp [Compiler.endsAtPayment, approvesPayment_of_isSelfVerify self]
  | deploySelfRelay first self =>
    simp [Compiler.endsAtPayment, not_approvesPayment_of_isDeploy first,
      approvesPayment_of_isSelfVerify self]
  | paymaster only pays =>
    simp [Compiler.endsAtPayment, not_approvesPayment_of_isOnlyVerify only,
      approvesPayment_of_isPay pays]
  | deployPaymaster first only pays =>
    simp [Compiler.endsAtPayment, not_approvesPayment_of_isDeploy first,
      not_approvesPayment_of_isOnlyVerify only, approvesPayment_of_isPay pays]

/-- The match of `valid_prefix` decides the shape. -/
theorem validPrefix_iff (frames : List Frame) : validPrefix tx frames ↔ PrefixForm tx frames := by
  constructor
  · intro valid
    unfold validPrefix at valid
    split at valid
    · exact .selfRelay valid
    · simp only [Bool.or_eq_true, Bool.and_eq_true] at valid
      rcases valid with ⟨first, self⟩ | ⟨only, pays⟩
      · exact .deploySelfRelay first self
      · exact .paymaster only pays
    · simp only [Bool.and_eq_true] at valid
      exact .deployPaymaster valid.1.1 valid.1.2 valid.2
    · cases valid
  · intro form
    cases form with
    | selfRelay self => exact self
    | deploySelfRelay first self => simp [validPrefix, first, self]
    | paymaster only pays => simp [validPrefix, only, pays]
    | deployPaymaster first only pays => simp [validPrefix, first, only, pays]

/-- A validation prefix is the payment prefix. -/
theorem ValidationPrefix.paymentPrefix {alloy : Alloy} {frames : List Frame}
    (valid : ValidationPrefix alloy tx frames) : PaymentPrefix tx frames :=
  ⟨valid.leads, valid.form.endsAtPayment⟩

/-- The prefix checks pass exactly if there is one validation prefix. -/
theorem validatePrefix_eq_ok_iff {alloy : Alloy}
    (fits : ∀ frames, PaymentPrefix tx frames → prefixGas alloy tx frames < 2 ^ 64) :
    validatePrefix alloy tx = .ok () ↔ ∃! frames, ValidationPrefix alloy tx frames := by
  have scan := collectPrefix_eq_iff (baseVerifyGas alloy tx) tx.frames
  have gas (frames : List Frame) (payment : PaymentPrefix tx frames) :=
    toNat_collectPrefix ((scan frames).mpr payment) (fits frames payment)
  unfold validatePrefix
  rcases found : collectPrefix (baseVerifyGas alloy tx) tx.frames with ⟨total, collected, approved⟩
  rw [found] at scan gas
  dsimp only at scan gas ⊢
  simp only [Check.seq_eq_ok, Check.refuseIf_eq_ok, Bool.not_eq_false, Nat.not_lt, not_exists,
    not_and, not_not, validPrefix_iff]
  constructor
  · rintro ⟨rfl, affordable, unbatched, form⟩
    have payment : PaymentPrefix tx collected := (scan collected).mp rfl
    refine ⟨collected, ⟨payment.1, form, unbatched, gas collected payment ▸ affordable⟩, ?_⟩
    intro other valid
    exact valid.paymentPrefix.unique payment
  · rintro ⟨frames, valid, -⟩
    have payment := valid.paymentPrefix
    have scanned := (scan frames).mpr payment
    injection scanned with same approves
    subst same
    exact ⟨approves, gas collected payment ▸ valid.affordable, valid.unbatched, valid.form⟩

end Shape

section Checks

variable {tx : FrameTransaction}

/-- The fee checks pass exactly if both fees are there and in order. -/
theorem validateFees_eq_ok_iff : validateFees tx = .ok () ↔
    ∃ maxFee priorityFee, tx.maxFeePerGas = some maxFee ∧
      tx.maxPriorityFeePerGas = some priorityFee ∧ priorityFee ≤ maxFee := by
  unfold validateFees
  cases tx.maxFeePerGas with
  | none => simp
  | some maxFee =>
    cases tx.maxPriorityFeePerGas with
    | none => simp
    | some priorityFee => simp [Check.refuseIf_eq_ok]

/-- The frame count checks pass exactly if there are 1 to 64 frames. -/
theorem validateFrameCount_eq_ok_iff : validateFrameCount tx = .ok () ↔
    1 ≤ tx.frames.length ∧ tx.frames.length ≤ 64 := by
  unfold validateFrameCount
  rw [Check.seq_eq_ok, Check.refuseIf_eq_ok, Check.refuseIf_eq_ok, Nat.not_lt,
    Nat.one_le_iff_ne_zero, ← List.length_eq_zero_iff]
  rfl

/-- Among increasing keys the legacy key can only come first. -/
theorem legacyKey_iff {keys : List U256} (increase : keys.Pairwise (· < ·)) :
    ¬(1 < keys.length ∧ keys.head? = some 0) ↔ (0 ∈ keys → keys = [0]) := by
  cases keys with
  | nil => simp
  | cons first rest =>
    have above := (List.pairwise_cons.mp increase).1
    by_cases legacy : first = 0
    · subst legacy
      simp [List.length_pos_iff]
    · have absent : 0 ∉ rest := by
        intro member
        have below : first < 0#256 := above _ member
        exact absurd below BitVec.not_lt_zero
      constructor
      · intro _ member
        rcases List.mem_cons.mp member with same | later
        · exact absurd same.symm legacy
        · exact absurd later absent
      · rintro - ⟨-, head⟩
        exact legacy (Option.some.inj head)

/-- The nonce checks pass exactly if the keys are few and increase, the legacy key stands alone, and
the sequence is not the last one. -/
theorem validateNonce_eq_ok_iff : validateNonce tx = .ok () ↔
    tx.effectiveNonceKeys.length ≤ 16 ∧ tx.effectiveNonceKeys.Pairwise (· < ·) ∧
      (0 ∈ tx.effectiveNonceKeys → tx.effectiveNonceKeys = [0]) ∧
      tx.nonceSeq ≠ some (UInt64.ofNat (2 ^ 64 - 1)) := by
  unfold validateNonce
  simp only [Check.seq_eq_ok, Check.refuseIf_eq_ok, Nat.not_lt, not_not, List.isChain_iff_pairwise]
  constructor
  · rintro ⟨few, increase, legacy, seq⟩
    exact ⟨few, increase, (legacyKey_iff increase).mp legacy, seq⟩
  · rintro ⟨few, increase, legacy, seq⟩
    exact ⟨few, increase, (legacyKey_iff increase).mpr legacy, seq⟩

/-- The reference check passes exactly if there are at most 16 references. -/
theorem validateReferences_eq_ok_iff : validateReferences tx = .ok () ↔
    tx.recentRootReferences.length ≤ 16 := by
  rw [validateReferences, Check.refuseIf_eq_ok, Nat.not_lt]
  rfl

/-- The scheme checks pass exactly if every scheme is known. -/
theorem validateSchemes_eq_ok_iff : Check.each validateScheme 0 tx.signatures = .ok () ↔
    ∀ sig ∈ tx.signatures, sig.scheme = 0 ∨ sig.scheme = 1 ∨ sig.scheme = 2 := by
  refine Check.each_eq_ok_iff_forall ?_
  intro index sig
  rw [validateScheme, Check.refuseIf_eq_ok]
  unfold frameSigSchemeArbitrary frameSigSchemeSecp256k1 frameSigSchemeP256
  rw [Decidable.not_and_iff_not_or_not, Decidable.not_and_iff_not_or_not, Decidable.not_not,
    Decidable.not_not, Decidable.not_not]

/-- The frame checks pass exactly if values of frames other than `SENDER` frames are zero, the last
frame opens no batch, and expiry frames have no flags and data of 8 bytes by their string. -/
theorem validateFrames_eq_ok_iff :
    Check.each (validateFrame tx.frames.length) 0 tx.frames = .ok () ↔
      (∀ frame ∈ tx.frames, frame.mode ≠ .sender →
        frame.value = "0" ∨ frame.value = "0x0" ∨ frame.value = "") ∧
      (∀ frame ∈ tx.frames.getLast?, frame.flags &&& 0x04 = 0) ∧
      (∀ frame ∈ tx.frames, frame.isExpiryFrame → frame.flags = 0) ∧
      ∀ frame ∈ tx.frames, frame.isExpiryFrame → expiryDataLen frame = 8 := by
  rw [Check.each_eq_ok_iff]
  simp only [validateFrame, Check.seq_eq_ok, Check.refuseIf_eq_ok, not_and, not_not, Nat.zero_add,
    List.getLast?_eq_getElem?, Option.mem_def]
  constructor
  · intro every
    have member (frame : Frame) (inside : frame ∈ tx.frames) :
        ∃ index, tx.frames[index]? = some frame := List.getElem?_of_mem inside
    refine ⟨?_, ?_, ?_, ?_⟩
    · intro frame inside
      obtain ⟨index, found⟩ := member frame inside
      exact (every index frame found).1
    · intro frame found
      by_contra batched
      have here := (every _ frame found).2.1 batched
      have within := (List.getElem?_eq_some_iff.mp found).1
      omega
    · intro frame inside
      obtain ⟨index, found⟩ := member frame inside
      exact (every index frame found).2.2.1
    · intro frame inside
      obtain ⟨index, found⟩ := member frame inside
      exact (every index frame found).2.2.2
  · rintro ⟨values, last, flags, data⟩ index frame found
    have inside := List.mem_of_getElem? found
    refine ⟨values frame inside, ?_, flags frame inside, data frame inside⟩
    intro batched final
    have index_eq : index = tx.frames.length - 1 := by omega
    exact batched (last frame (index_eq ▸ found))

/-- `validate_structure` accepts exactly what each of its checks accepts. -/
theorem validateStructure_eq_ok {alloy : Alloy} : validateStructure alloy tx = .ok () ↔
    tx.validateWireFormat alloy = .ok () ∧ validateFees tx = .ok () ∧
      validateFrameCount tx = .ok () ∧ validateNonce tx = .ok () ∧ validateReferences tx = .ok () ∧
      Check.each validateScheme 0 tx.signatures = .ok () ∧
      Check.each (validateFrame tx.frames.length) 0 tx.frames = .ok () ∧
      validatePrefix alloy tx = .ok () := by
  unfold validateStructure
  cases tx.validateWireFormat alloy with
  | error e => simp
  | ok _ => simp only [Check.seq_eq_ok, true_and]

/-- `validate_structure` accepts exactly what meets the rules and whose expiry frames have data of 8
bytes by their string. -/
theorem validateStructure_eq_ok_iff {alloy : Alloy}
    (fits : ∀ frames, PaymentPrefix tx frames → prefixGas alloy tx frames < 2 ^ 64) :
    validateStructure alloy tx = .ok () ↔
      Rules alloy tx ∧ ∀ frame ∈ tx.frames, frame.isExpiryFrame → expiryDataLen frame = 8 := by
  rw [validateStructure_eq_ok, validateFees_eq_ok_iff, validateFrameCount_eq_ok_iff,
    validateNonce_eq_ok_iff, validateReferences_eq_ok_iff, validateSchemes_eq_ok_iff,
    validateFrames_eq_ok_iff, validatePrefix_eq_ok_iff fits]
  constructor
  · rintro ⟨wire, fees, count, ⟨few, increase, legacy, seq⟩, references, schemes,
      ⟨values, last, flags, data⟩, leads⟩
    exact ⟨⟨wire, fees, count, few, increase, legacy, seq, references, schemes, values, last,
      flags, leads⟩, data⟩
  · rintro ⟨rules, data⟩
    exact ⟨rules.wire, rules.fees, rules.frameCount,
      ⟨rules.keyCount, rules.keysIncrease, rules.legacyKey, rules.seq⟩, rules.referenceCount,
      rules.schemes, ⟨rules.values, rules.lastFrame, rules.expiryFlags, data⟩,
      rules.validationPrefix⟩

end Checks

section ExpiryData

variable {alloy : Alloy} {tx : FrameTransaction}

/-- The data is spelled with a second marker behind the first. -/
def doublyMarked (frame : Frame) : Bool :=
  ((stripPrefix "0x" frame.data).bind (stripPrefix "0x")).isSome

/-- The text of a marker. -/
theorem utf8ByteSize_of_stripPrefix {value rest : String}
    (stripped : stripPrefix "0x" value = some rest) :
    value.utf8ByteSize = 2 + rest.utf8ByteSize := by
  have parts := congrArg String.ofList (toList_of_stripPrefix stripped)
  rw [String.ofList_append, String.ofList_toList, String.ofList_toList, String.ofList_toList]
    at parts
  rw [parts, String.utf8ByteSize_append]
  rfl

/-- The length of the string counts a second marker as a byte of data. -/
theorem expiryDataLen_eq (readsHex : alloy.ReadsHex) {frame : Frame}
    (read : alloy.HexOk frame.data) :
    expiryDataLen frame =
      (alloy.decodeHexBytes frame.data).length + (doublyMarked frame).toNat := by
  obtain ⟨bytes, reads⟩ := read
  rw [reads.decodeHexBytes]
  have decoded := (readsHex _ _).mp reads
  unfold Hex.decode at decoded
  unfold expiryDataLen doublyMarked
  cases first : stripPrefix "0x" frame.data with
  | none =>
    rw [first, Option.getD_none, first, Option.getD_none] at decoded
    have size := Hex.utf8ByteSize_of_decodeDigits decoded
    simp only [Option.isSome_none, Bool.false_eq_true, ↓reduceIte, Option.bind_none,
      Bool.toNat_false]
    omega
  | some rest =>
    have marker := utf8ByteSize_of_stripPrefix first
    rw [first, Option.getD_some] at decoded
    simp only [Option.isSome_some, ↓reduceIte, Option.bind_some]
    cases second : stripPrefix "0x" rest with
    | none =>
      rw [second, Option.getD_none] at decoded
      have size := Hex.utf8ByteSize_of_decodeDigits decoded
      simp only [Option.isSome_none, Bool.toNat_false]
      omega
    | some digits =>
      have again := utf8ByteSize_of_stripPrefix second
      rw [second, Option.getD_some] at decoded
      have size := Hex.utf8ByteSize_of_decodeDigits decoded
      simp only [Option.isSome_some, Bool.toNat_true]
      omega

/-- Every expiry frame has 8 bytes of data. -/
def ExpiryBytes (alloy : Alloy) (tx : FrameTransaction) : Prop :=
  ∀ frame ∈ tx.frames, frame.isExpiryFrame → (alloy.decodeHexBytes frame.data).length = 8

/-- Every expiry frame has 8 bytes of data if a second marker counts as one. -/
def ExpiryCounted (alloy : Alloy) (tx : FrameTransaction) : Prop :=
  ∀ frame ∈ tx.frames, frame.isExpiryFrame →
    (alloy.decodeHexBytes frame.data).length + (doublyMarked frame).toNat = 8

/-- Some expiry frame has data with a second marker. -/
def ExpiryMarkedTwice (tx : FrameTransaction) : Prop :=
  ∃ frame ∈ tx.frames, frame.isExpiryFrame ∧ doublyMarked frame

/-- The rules hold, some expiry frame has a second marker, and the expiry frames all have 8 bytes of
data in one of the two counts. -/
def Miscounted (alloy : Alloy) (tx : FrameTransaction) : Prop :=
  Rules alloy tx ∧ ExpiryMarkedTwice tx ∧ (ExpiryBytes alloy tx ∨ ExpiryCounted alloy tx)

/-- With a second marker somewhere the two counts are not both 8 everywhere. -/
theorem ExpiryMarkedTwice.apart (twice : ExpiryMarkedTwice tx) :
    ¬(ExpiryBytes alloy tx ∧ ExpiryCounted alloy tx) := by
  obtain ⟨frame, member, expiry, marked⟩ := twice
  rintro ⟨bytes, counted⟩
  have exactly := bytes frame member expiry
  have count := counted frame member expiry
  rw [marked, Bool.toNat_true] at count
  omega

/-- Without a second marker the two counts are the same. -/
theorem expiryCounted_iff (once : ¬ExpiryMarkedTwice tx) :
    ExpiryCounted alloy tx ↔ ExpiryBytes alloy tx := by
  refine forall_congr' fun frame => forall_congr' fun member => forall_congr' fun expiry => ?_
  have unmarked : doublyMarked frame = false := by
    cases marked : doublyMarked frame with
    | false => rfl
    | true => exact absurd ⟨frame, member, expiry, marked⟩ once
  rw [unmarked, Bool.toNat_false, Nat.add_zero]

/-- The two counts agree on being 8 everywhere, unless a second marker keeps them apart and one of
them is. -/
theorem counts_agree_iff : (ExpiryCounted alloy tx ↔ ExpiryBytes alloy tx) ↔
    ¬(ExpiryMarkedTwice tx ∧ (ExpiryBytes alloy tx ∨ ExpiryCounted alloy tx)) := by
  by_cases twice : ExpiryMarkedTwice tx
  · have apart : ¬(ExpiryBytes alloy tx ∧ ExpiryCounted alloy tx) := twice.apart
    constructor
    · rintro agree ⟨-, bytes | counted⟩
      · exact apart ⟨bytes, agree.mpr bytes⟩
      · exact apart ⟨agree.mp counted, counted⟩
    · intro neither
      constructor
      · intro counted
        exact absurd ⟨twice, .inr counted⟩ neither
      · intro bytes
        exact absurd ⟨twice, .inl bytes⟩ neither
  · constructor
    · rintro - ⟨marked, -⟩
      exact twice marked
    · intro _
      exact expiryCounted_iff twice

/-- On a valid transaction the length of the string is the count with the second marker. -/
theorem expiryDataLen_iff (readsHex : alloy.ReadsHex)
    (valid : tx.validateWireFormat alloy = .ok ()) :
    (∀ frame ∈ tx.frames, frame.isExpiryFrame → expiryDataLen frame = 8) ↔
      ExpiryCounted alloy tx := by
  have faithful := FrameTransaction.faithful_of_valid valid
  refine forall_congr' fun frame => forall_congr' fun member => ?_
  rw [expiryDataLen_eq readsHex (faithful.frames frame member).2.1]

/-- `validate_structure` accepts exactly the grammar, unless the data of expiry frames is
miscounted, for every transaction whose prefix gas fits `u64`. -/
theorem validateStructure_grammar_iff (alloy : Alloy) (readsHex : alloy.ReadsHex)
    (tx : FrameTransaction)
    (fits : ∀ frames, PaymentPrefix tx frames → prefixGas alloy tx frames < 2 ^ 64) :
    (validateStructure alloy tx = .ok () ↔ Grammar alloy tx) ↔ ¬Miscounted alloy tx := by
  rw [validateStructure_eq_ok_iff fits]
  by_cases rules : Rules alloy tx
  · have grammar : Grammar alloy tx ↔ ExpiryBytes alloy tx :=
      ⟨fun accepted => accepted.expiryData, fun data => ⟨rules, data⟩⟩
    rw [grammar, expiryDataLen_iff readsHex rules.wire, Miscounted, and_iff_right rules,
      and_iff_right rules]
    exact counts_agree_iff
  · constructor
    · intro _ miscounted
      exact rules miscounted.1
    · intro _
      exact ⟨fun accepted => absurd accepted.1 rules, fun grammar => absurd grammar.toRules rules⟩

end ExpiryData

/-- The frame that approves a self-paid transaction. -/
def selfVerifyFrame : Frame where
  mode := .verify
  flags := 0x03
  target := none
  gasLimit := 10000
  value := "0"
  data := "0x"

/-- A frame for the expiry verifier. -/
def expiryFrame (data : String) : Frame where
  mode := .verify
  flags := 0x00
  target := some expiryVerifierAddress
  gasLimit := 10000
  value := "0"
  data := data

/-- A self-paid transaction that expires. -/
def expiringTx (data : String) : FrameTransaction where
  chainId := 1
  nonceKeys := [0]
  nonceSeq := some 0
  sender := "0x1111111111111111111111111111111111111111"
  maxPriorityFeePerGas := some 10
  maxFeePerGas := some 20
  maxFeePerBlobGas := none
  blobVersionedHashes := []
  recentRootReferences := []
  frames := [expiryFrame data, selfVerifyFrame]
  signatures := []
  payer := some .selfPaid

/-- The prefix gas of the transaction fits. -/
theorem expiringTx_fits {data : String}
    (few : prefixGas testAlloy (expiringTx data) [selfVerifyFrame] < 2 ^ 64) :
    ∀ frames, PaymentPrefix (expiringTx data) frames →
      prefixGas testAlloy (expiringTx data) frames < 2 ^ 64 := by
  intro frames payment
  have here : PaymentPrefix (expiringTx data) [selfVerifyFrame] := by
    constructor
    · have expiry : (expiryFrame data).isExpiryFrame := by
        simp [Frame.isExpiryFrame, Frame.targetsExpiryVerifier, expiryFrame]
      have visible : selfVerifyFrame.isExpiryFrame = false := by decide +kernel
      simp [visibleFrames, expiringTx, expiry, visible]
    · decide
  rw [payment.unique here]
  exact few

/-- With 8 bytes of data behind one marker the expiring transaction is accepted exactly by the
grammar. -/
theorem validateStructure_grammar_iff_expiring :
    validateStructure testAlloy (expiringTx "0x1234567890abcdef") = .ok () ↔
      Grammar testAlloy (expiringTx "0x1234567890abcdef") := by
  refine (validateStructure_grammar_iff testAlloy (Alloy.reference_readsHex _) _
    (expiringTx_fits (by decide +kernel))).mpr ?_
  intro miscounted
  have once : ¬∃ frame ∈ (expiringTx "0x1234567890abcdef").frames,
      frame.isExpiryFrame ∧ doublyMarked frame := by
    decide +kernel
  exact once miscounted.2.1

/-- With 7 bytes of data behind two markers the expiring transaction is accepted. -/
theorem validateStructure_accepts_seven_bytes :
    (∀ frames, PaymentPrefix (expiringTx "0x0x1234567890abcd") frames →
        prefixGas testAlloy (expiringTx "0x0x1234567890abcd") frames < 2 ^ 64) ∧
      validateStructure testAlloy (expiringTx "0x0x1234567890abcd") = .ok () ∧
      ¬Grammar testAlloy (expiringTx "0x0x1234567890abcd") := by
  refine ⟨expiringTx_fits (by decide +kernel), by decide +kernel, ?_⟩
  intro grammar
  have seven : ¬∀ frame ∈ (expiringTx "0x0x1234567890abcd").frames, frame.isExpiryFrame →
      (testAlloy.decodeHexBytes frame.data).length = 8 := by
    decide +kernel
  exact seven grammar.expiryData

example : expiryDataLen (expiryFrame "0x0x1234567890abcd") = 8 := by decide +kernel

end OpenEngine.Compiler
