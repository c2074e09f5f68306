import OpenEngine.Compiler.FilledGas
import OpenEngine.Core.SigHash

/-!
# Transactions spelled in different ways

The wire carries decoded bytes, while the value check, the expiry detection, the sender test and the
sponsor match compare strings. Two valid transactions with the same bytes therefore meet the same
rules on the wire, but each has to spell its zeros, its addresses and its expiry data as these
comparisons expect.
-/

namespace OpenEngine.Compiler

open OpenEngine.Core

/-- The rules that read nothing but the wire. -/
structure WireRules (image : WireTransaction) : Prop where
  fees : image.maxPriorityFeePerGas ≤ image.maxFeePerGas
  frameCount : 1 ≤ image.frames.length ∧ image.frames.length ≤ 64
  keyCount : image.nonceKeys.length ≤ 16
  keysIncrease : image.nonceKeys.Pairwise (· < ·)
  legacyKey : 0 ∈ image.nonceKeys → image.nonceKeys = [0]
  seq : image.nonceSeq ≠ UInt64.ofNat (2 ^ 64 - 1)
  referenceCount : image.recentRootReferences.length ≤ 16
  schemes : ∀ sig ∈ image.signatures, sig.scheme = 0 ∨ sig.scheme = 1 ∨ sig.scheme = 2
  lastFrame : ∀ frame ∈ image.frames.getLast?, frame.flags &&& 0x04 = 0

/-- The bytes of `EXPIRY_VERIFIER_ADDRESS`. -/
def expiryVerifierBytes : Bytes := List.replicate 18 0x00 ++ [0x81, 0x41]

/-- The markers of the target; an absent target has none. -/
def targetMarkers (frame : Frame) : Nat := markers (frame.target.getD "")

/-- A `VERIFY` frame for the bytes of the expiry verifier behind exactly one marker. -/
def spelledExpiry (alloy : Alloy) (frame : Frame) : Bool :=
  frame.mode = .verify ∧ frame.targetBytes alloy = expiryVerifierBytes ∧ targetMarkers frame = 1

/-- The target is left out, or it has the bytes of the sender behind as many markers. -/
def SpelledSender (alloy : Alloy) (tx : FrameTransaction) (frame : Frame) : Prop :=
  frame.target.getD "" = "" ∨
    (targetMarkers frame = markers tx.sender ∧
      frame.targetBytes alloy = alloy.decodeHexBytes tx.sender)

/-- A `VERIFY` frame spelled for the sender, with these approval bits. -/
def ApprovesAs (alloy : Alloy) (tx : FrameTransaction) (bits : UInt8) (frame : Frame) : Prop :=
  frame.mode = .verify ∧ SpelledSender alloy tx frame ∧ frame.flags &&& 0x03 = bits

/-- The four shapes of a validation prefix by bytes and markers. -/
inductive SpelledForm (alloy : Alloy) (tx : FrameTransaction) : List Frame → Prop where
  | selfRelay {verify : Frame} (self : ApprovesAs alloy tx 0x03 verify) :
      SpelledForm alloy tx [verify]
  | deploySelfRelay {deploy verify : Frame} (first : isDeploy deploy)
      (self : ApprovesAs alloy tx 0x03 verify) : SpelledForm alloy tx [deploy, verify]
  | paymaster {verify pay : Frame} (only : ApprovesAs alloy tx 0x02 verify) (pays : isPay pay) :
      SpelledForm alloy tx [verify, pay]
  | deployPaymaster {deploy verify pay : Frame} (first : isDeploy deploy)
      (only : ApprovesAs alloy tx 0x02 verify) (pays : isPay pay) :
      SpelledForm alloy tx [deploy, verify, pay]

/-- The gas of a prefix as the validator sums it, in `u64`. -/
def wrappedPrefixGas (alloy : Alloy) (tx : FrameTransaction) (frames : List Frame) : Nat :=
  ((baseVerifyGas alloy tx).toNat + (frames.map fun frame => frame.gasLimit.toNat).sum) % 2 ^ 64

/-- A validation prefix among the frames that are not spelled as expiry frames. -/
structure SpelledPrefix (alloy : Alloy) (tx : FrameTransaction) (frames : List Frame) :
    Prop where
  leads : frames <+: tx.frames.filter fun frame => !spelledExpiry alloy frame
  form : SpelledForm alloy tx frames
  unbatched : ∀ frame ∈ frames, frame.flags &&& 0x04 = 0
  affordable : wrappedPrefixGas alloy tx frames ≤ maxVerifyGas

/-- The rules that read the spelling of a field. -/
structure SpelledRules (alloy : Alloy) (tx : FrameTransaction) : Prop where
  values : ∀ frame ∈ tx.frames, frame.mode ≠ .sender → frame.value = "0" ∨ frame.value = ""
  expiryFlags : ∀ frame ∈ tx.frames, spelledExpiry alloy frame → frame.flags = 0
  expiryData : ∀ frame ∈ tx.frames, spelledExpiry alloy frame →
    (alloy.decodeHexBytes frame.data).length + (doublyMarked frame).toNat = 8
  validationPrefix : ∃ frames, SpelledPrefix alloy tx frames

section Frames

variable {alloy : Alloy} {tx : FrameTransaction} {frame : Frame}

/-- The target of a valid frame spells the target bytes. -/
theorem reads_target (named : ∀ target ∈ frame.target, alloy.HexOk target) :
    alloy.Reads (frame.target.getD "") (frame.targetBytes alloy) := by
  unfold Frame.targetBytes
  cases target : frame.target with
  | none => exact Alloy.reads_blank (by simp)
  | some value =>
    obtain ⟨bytes, reads⟩ := named value target
    dsimp only [Option.getD_some]
    rw [reads.decodeHexBytes]
    exact reads

/-- The expiry verifier's address spells its bytes. -/
theorem reads_expiryVerifier (readsHex : alloy.ReadsHex) :
    alloy.Reads expiryVerifierAddress expiryVerifierBytes :=
  (readsHex _ _).mpr (by decide +kernel)

/-- The validator detects an expiry frame by its bytes and its one marker. -/
theorem isExpiryFrame_eq (readsHex : alloy.ReadsHex)
    (named : ∀ target ∈ frame.target, alloy.HexOk target) :
    frame.isExpiryFrame = spelledExpiry alloy frame := by
  have single : markers expiryVerifierAddress = 1 := by decide +kernel
  have spelled := readsHex.toLowercase_eq_iff_markers (reads_target named)
    (reads_expiryVerifier readsHex)
  rw [single] at spelled
  unfold Frame.isExpiryFrame Frame.targetsExpiryVerifier spelledExpiry targetMarkers
  rw [Bool.eq_iff_iff]
  simp only [decide_eq_true_eq, spelled]
  constructor
  · rintro ⟨⟨marked, bytes⟩, verify⟩
    exact ⟨verify, bytes, marked⟩
  · rintro ⟨verify, bytes, marked⟩
    exact ⟨⟨marked, bytes⟩, verify⟩

/-- The validator takes a frame for the sender's by bytes and markers, or by an empty string. -/
theorem isSenderTarget_iff (readsHex : alloy.ReadsHex) (sender : alloy.HexOk tx.sender)
    (named : ∀ target ∈ frame.target, alloy.HexOk target) :
    isSenderTarget tx frame ↔ SpelledSender alloy tx frame := by
  obtain ⟨bytes, senderReads⟩ := sender
  have spelled := readsHex.toLowercase_eq_iff_markers (reads_target named) senderReads
  simp only [isSenderTarget, SpelledSender, targetMarkers, decide_eq_true_eq, spelled,
    senderReads.decodeHexBytes]

/-- A zero of one hex digit is not valid on the wire. -/
theorem not_numberOk_single_digit (readsHex : alloy.ReadsHex) : ¬alloy.NumberOk "0x0" := by
  have trimmed : trim "0x0" = "0x0" := by decide +kernel
  have stripped : stripPrefix "0x" "0x0" = some "0" := by decide +kernel
  unfold Alloy.NumberOk
  rw [trimmed, stripped]
  rintro (blank | ⟨bytes, read, -⟩)
  · exact absurd blank (by decide)
  · have refused : Hex.decode "0" = .error "odd number of digits" := by decide +kernel
    have accepted := (readsHex _ _).mp read
    rw [refused] at accepted
    cases accepted

/-- A valid value counts as zero exactly if it is spelled `0` or left empty. -/
theorem zeroValue_iff (readsHex : alloy.ReadsHex) (number : alloy.NumberOk frame.value) :
    (frame.value = "0" ∨ frame.value = "0x0" ∨ frame.value = "") ↔
      (frame.value = "0" ∨ frame.value = "") := by
  have other : frame.value ≠ "0x0" := by
    intro digit
    rw [digit] at number
    exact not_numberOk_single_digit readsHex number
  simp only [other, false_or]

end Frames

section Verdict

variable {alloy : Alloy} {tx : FrameTransaction}

/-- The verify frames of the two readings agree. -/
theorem approvesAs_iff (readsHex : alloy.ReadsHex) (faithful : tx.Faithful alloy) {frame : Frame}
    (member : frame ∈ tx.frames) (bits : UInt8) :
    (frame.mode = .verify ∧ isSenderTarget tx frame ∧ frame.flags &&& 0x03 = bits) ↔
      ApprovesAs alloy tx bits frame := by
  unfold ApprovesAs
  rw [isSenderTarget_iff readsHex faithful.sender (faithful.frames frame member).1]

/-- The shapes of the two readings agree. -/
theorem prefixForm_iff (readsHex : alloy.ReadsHex) (faithful : tx.Faithful alloy)
    {frames : List Frame} (members : ∀ frame ∈ frames, frame ∈ tx.frames) :
    PrefixForm tx frames ↔ SpelledForm alloy tx frames := by
  have self {frame : Frame} (member : frame ∈ frames) :
      isSelfVerify tx frame ↔ ApprovesAs alloy tx 0x03 frame := by
    simpa only [isSelfVerify, decide_eq_true_eq] using
      approvesAs_iff readsHex faithful (members frame member) 0x03
  have only {frame : Frame} (member : frame ∈ frames) :
      isOnlyVerify tx frame ↔ ApprovesAs alloy tx 0x02 frame := by
    simpa only [isOnlyVerify, decide_eq_true_eq] using
      approvesAs_iff readsHex faithful (members frame member) 0x02
  constructor
  · intro form
    cases form with
    | selfRelay verifies => exact .selfRelay ((self (by simp)).mp verifies)
    | deploySelfRelay first verifies => exact .deploySelfRelay first ((self (by simp)).mp verifies)
    | paymaster verifies pays => exact .paymaster ((only (by simp)).mp verifies) pays
    | deployPaymaster first verifies pays =>
      exact .deployPaymaster first ((only (by simp)).mp verifies) pays
  · intro form
    cases form with
    | selfRelay verifies => exact .selfRelay ((self (by simp)).mpr verifies)
    | deploySelfRelay first verifies => exact .deploySelfRelay first ((self (by simp)).mpr verifies)
    | paymaster verifies pays => exact .paymaster ((only (by simp)).mpr verifies) pays
    | deployPaymaster first verifies pays =>
      exact .deployPaymaster first ((only (by simp)).mpr verifies) pays

/-- The validator leaves out the frames that are spelled as expiry frames. -/
theorem visibleFrames_eq (readsHex : alloy.ReadsHex) (faithful : tx.Faithful alloy) :
    visibleFrames tx = tx.frames.filter fun frame => !spelledExpiry alloy frame := by
  refine List.filter_congr fun frame member => ?_
  rw [isExpiryFrame_eq readsHex (faithful.frames frame member).1]

/-- The gas the scan ends with is the wrapped gas of what it collects. -/
theorem verifyGasLimit_scanned {frames : List Frame}
    (scanned : (collectPrefix 0 tx.frames).2 = (frames, true)) :
    verifyGasLimit alloy tx = wrappedPrefixGas alloy tx frames := by
  rw [verifyGasLimit, collectPrefix_gas, collectPrefix_snd _ 0, scanned, toNat_foldl_gas]
  rfl

/-- The prefix checks pass exactly if there is a spelled validation prefix. -/
theorem validatePrefix_spelled_iff (readsHex : alloy.ReadsHex) (faithful : tx.Faithful alloy) :
    validatePrefix alloy tx = .ok () ↔ ∃ frames, SpelledPrefix alloy tx frames := by
  have scan (frames : List Frame) := collectPrefix_eq_iff 0 tx.frames frames
  have inside {frames : List Frame} (leads : frames <+: visibleFrames tx) :
      ∀ frame ∈ frames, frame ∈ tx.frames := by
    intro frame member
    exact List.mem_of_mem_filter (leads.subset member)
  rw [validatePrefix_eq_ok]
  constructor
  · rintro ⟨affordable, approved, unbatched, valid⟩
    have scanned : (collectPrefix 0 tx.frames).2 = ((collectPrefix 0 tx.frames).2.1, true) :=
      Prod.ext rfl approved
    have leads := ((scan _).mp scanned).1
    refine ⟨(collectPrefix 0 tx.frames).2.1, ?_, ?_, unbatched, ?_⟩
    · rw [← visibleFrames_eq readsHex faithful]
      exact leads
    · exact (prefixForm_iff readsHex faithful (inside leads)).mp ((validPrefix_iff _).mp valid)
    · rw [← verifyGasLimit_scanned scanned]
      exact affordable
  · rintro ⟨frames, spelled⟩
    have leads := spelled.leads
    rw [← visibleFrames_eq readsHex faithful] at leads
    have form := (prefixForm_iff readsHex faithful (inside leads)).mpr spelled.form
    have scanned := (scan frames).mpr ⟨leads, form.endsAtPayment⟩
    rw [verifyGasLimit_scanned scanned, scanned]
    exact ⟨spelled.affordable, rfl, spelled.unbatched, (validPrefix_iff _).mpr form⟩

/-- The frame checks pass exactly if the last frame opens no batch, which the wire shows, and the
values and the expiry frames are spelled as the checks expect. -/
theorem validateFrames_spelled_iff (readsHex : alloy.ReadsHex) (faithful : tx.Faithful alloy) :
    Check.each (validateFrame tx.frames.length) 0 tx.frames = .ok () ↔
      (∀ frame ∈ tx.frames, frame.mode ≠ .sender → frame.value = "0" ∨ frame.value = "") ∧
      (∀ frame ∈ tx.frames.getLast?, frame.flags &&& 0x04 = 0) ∧
      (∀ frame ∈ tx.frames, spelledExpiry alloy frame → frame.flags = 0) ∧
      ∀ frame ∈ tx.frames, spelledExpiry alloy frame →
        (alloy.decodeHexBytes frame.data).length + (doublyMarked frame).toNat = 8 := by
  have expiry {frame : Frame} (member : frame ∈ tx.frames) :=
    isExpiryFrame_eq readsHex (faithful.frames frame member).1
  rw [validateFrames_eq_ok_iff]
  refine and_congr ?_ (and_congr Iff.rfl (and_congr ?_ ?_))
  · refine forall_congr' fun frame => forall_congr' fun member => forall_congr' fun _ => ?_
    exact zeroValue_iff readsHex (faithful.frames frame member).2.2
  · refine forall_congr' fun frame => forall_congr' fun member => ?_
    rw [expiry member]
  · refine forall_congr' fun frame => forall_congr' fun member => ?_
    rw [expiry member, expiryDataLen_eq readsHex (faithful.frames frame member).2.1]

/-- With both fees there, the fee checks read the wire. -/
theorem validateFees_wire_iff
    (feesGiven : tx.maxFeePerGas.isSome ∧ tx.maxPriorityFeePerGas.isSome) :
    validateFees tx = .ok () ↔
      (tx.wire alloy false).maxPriorityFeePerGas ≤ (tx.wire alloy false).maxFeePerGas := by
  obtain ⟨maxFee, hasMaxFee⟩ := Option.isSome_iff_exists.mp feesGiven.1
  obtain ⟨priorityFee, hasPriorityFee⟩ := Option.isSome_iff_exists.mp feesGiven.2
  rw [validateFees_eq_ok_iff]
  simp [FrameTransaction.wire, hasMaxFee, hasPriorityFee]

/-- An absent sequence is no more the last one than the zero on the wire. -/
theorem nonceSeq_wire_iff : tx.nonceSeq ≠ some (UInt64.ofNat (2 ^ 64 - 1)) ↔
    (tx.wire alloy false).nonceSeq ≠ UInt64.ofNat (2 ^ 64 - 1) := by
  unfold FrameTransaction.wire
  cases tx.nonceSeq with
  | none =>
    have zero : (0 : UInt64) ≠ UInt64.ofNat (2 ^ 64 - 1) := by decide
    exact iff_of_true (by simp) zero
  | some seq => simp

/-- A valid transaction with both fees is accepted exactly if it meets the rules that read the wire
and the rules that read its spelling. -/
theorem validateStructure_spelled_iff (readsHex : alloy.ReadsHex)
    (valid : tx.validateWireFormat alloy = .ok ())
    (feesGiven : tx.maxFeePerGas.isSome ∧ tx.maxPriorityFeePerGas.isSome) :
    validateStructure alloy tx = .ok () ↔
      WireRules (tx.wire alloy false) ∧ SpelledRules alloy tx := by
  have faithful := FrameTransaction.faithful_of_valid valid
  have schemes : (∀ sig ∈ tx.signatures, sig.scheme = 0 ∨ sig.scheme = 1 ∨ sig.scheme = 2) ↔
      ∀ sig ∈ (tx.wire alloy false).signatures,
        sig.scheme = 0 ∨ sig.scheme = 1 ∨ sig.scheme = 2 := by
    simp [FrameTransaction.wire, FrameSignature.wire]
  have lastFrame : (∀ frame ∈ tx.frames.getLast?, frame.flags &&& 0x04 = 0) ↔
      ∀ frame ∈ (tx.wire alloy false).frames.getLast?, frame.flags &&& 0x04 = 0 := by
    simp [FrameTransaction.wire, List.getLast?_map, Frame.wire]
  have count : (tx.wire alloy false).frames.length = tx.frames.length := List.length_map ..
  have sequence : tx.nonceSeq ≠ some (UInt64.ofNat (2 ^ 64 - 1)) ↔
      (tx.wire alloy false).nonceSeq ≠ UInt64.ofNat (2 ^ 64 - 1) := nonceSeq_wire_iff
  rw [validateStructure_eq_ok, validateFees_wire_iff feesGiven, validateFrameCount_eq_ok_iff,
    validateNonce_eq_ok_iff, validateReferences_eq_ok_iff, validateSchemes_eq_ok_iff,
    validateFrames_spelled_iff readsHex faithful, validatePrefix_spelled_iff readsHex faithful,
    sequence, schemes, lastFrame, ← count]
  constructor
  · rintro ⟨-, fees, count, ⟨few, increase, legacy, seq⟩, references, known,
      ⟨values, last, flags, data⟩, leads⟩
    exact ⟨⟨fees, count, few, increase, legacy, seq, references, known, last⟩,
      ⟨values, flags, data, leads⟩⟩
  · rintro ⟨wire, spelled⟩
    exact ⟨valid, wire.fees, wire.frameCount,
      ⟨wire.keyCount, wire.keysIncrease, wire.legacyKey, wire.seq⟩, wire.referenceCount,
      wire.schemes, ⟨spelled.values, wire.lastFrame, spelled.expiryFlags, spelled.expiryData⟩,
      spelled.validationPrefix⟩

end Verdict

section Payer

/-- Lower-case hex is in lower case. -/
theorem toLowercase_lowerHex (alloy : Alloy) (address : Address) :
    toLowercase (alloy.lowerHex address) = alloy.lowerHex address := by
  have all : ('x' :: hexDigits).all fun char => char.toLower == char := by decide
  have fixed : ∀ char ∈ 'x' :: hexDigits, char.toLower = char := by simpa using all
  have digits := alloy.hexEncode_digits address.val
  apply String.toList_inj.mp
  rw [toLowercase, String.toList_ofList]
  refine (List.map_congr_left fun char member => ?_).trans (List.map_id _)
  rw [Alloy.lowerHex, String.toList_append, List.mem_append] at member
  rcases member with marker | digit
  · have either : char = '0' ∨ char = 'x' := by simpa using marker
    rcases either with rfl | rfl
    · exact fixed _ (by decide)
    · exact fixed _ (by decide)
  · exact fixed char (List.mem_cons_of_mem _ (digits char digit))

/-- The marker of lower-case hex is stripped. -/
theorem stripPrefix_lowerHex (alloy : Alloy) (address : Address) :
    stripPrefix "0x" (alloy.lowerHex address) = some (alloy.hexEncode address.val) := by
  simp [stripPrefix, Alloy.lowerHex, String.toList_append]

/-- Lower-case hex spells the address. -/
theorem reads_lowerHex (alloy : Alloy) (address : Address) :
    alloy.Reads (alloy.lowerHex address) address.val := by
  rw [Alloy.Reads, stripPrefix_lowerHex, Option.getD_some]
  exact alloy.hexDecode_hexEncode address.val

/-- Lower-case hex has one marker. -/
theorem markers_lowerHex (alloy : Alloy) (address : Address) :
    markers (alloy.lowerHex address) = 1 := by
  unfold markers
  rw [stripPrefix_lowerHex]
  dsimp only
  rw [stripPrefix_of_digits (alloy.hexEncode_digits address.val)]
  rfl

variable {σ : Type} {compiler : FrameCompiler σ}

/-- The target has the bytes of the sponsor behind exactly one marker. -/
def spelledSponsor (compiler : FrameCompiler σ) (frame : Frame) : Bool :=
  compiler.sponsorSigner.any fun signer =>
    frame.targetBytes compiler.alloy = signer.address.val ∧ targetMarkers frame = 1

/-- The payer by bytes and markers, from the first frame that approves payment. -/
def spelledIntent (compiler : FrameCompiler σ) (tx : FrameTransaction) : PayerIntent :=
  match tx.frames.find? approvesPayment with
  | none => .selfPaid
  | some frame =>
    if frame.flags &&& 0x03 = 0x01 then
      if spelledSponsor compiler frame then .sponsor else .external
    else .selfPaid

/-- The compiler takes a target for its sponsor by bytes and one marker. -/
theorem sponsorAddress_iff (readsHex : compiler.alloy.ReadsHex) {frame : Frame}
    (named : ∀ target ∈ frame.target, compiler.alloy.HexOk target) :
    compiler.sponsorAddress = some (toLowercase (frame.target.getD "")) ↔
      spelledSponsor compiler frame := by
  unfold FrameCompiler.sponsorAddress spelledSponsor targetMarkers
  cases compiler.sponsorSigner with
  | none => simp
  | some signer =>
    have spelled := readsHex.toLowercase_eq_iff_markers (reads_target named)
      (reads_lowerHex compiler.alloy signer.address)
    rw [toLowercase_lowerHex, markers_lowerHex] at spelled
    rw [Option.map_some, Option.some.injEq, eq_comm, spelled, Option.any_some, decide_eq_true_eq]
    exact and_comm

/-- If expiry frames carry no flags, the payer scan answers from the first frame that approves
payment. -/
theorem payFrameFrom_find {frames : List Frame}
    (flagless : ∀ frame ∈ frames, frame.isExpiryFrame → frame.flags = 0) (index : Nat) :
    (payFrameFrom index frames).map Prod.snd =
      (frames.find? approvesPayment).filter fun frame => frame.flags &&& 0x03 = 0x01 := by
  induction frames generalizing index with
  | nil => rfl
  | cons frame rest ih =>
    have later := ih (fun other member => flagless other (List.mem_cons_of_mem _ member))
      (index + 1)
    rw [payFrameFrom]
    by_cases expiry : frame.isExpiryFrame
    · have unapproved : approvesPayment frame = false := by
        simp [approvesPayment, flagless frame List.mem_cons_self expiry]
      rw [if_pos expiry, later, List.find?_cons_of_neg (by simp [unapproved])]
    · rw [if_neg expiry]
      by_cases approves : approvesPayment frame
      · have flagged : ¬(frame.mode ≠ .verify ∨ frame.flags &&& 0x01 = 0) := by
          simpa [approvesPayment] using approves
        rw [if_neg flagged, List.find?_cons_of_pos approves, Option.filter_some]
        by_cases pays : frame.flags &&& 0x03 = 0x01
        · simp [pays]
        · simp [pays]
      · have skips : frame.mode ≠ .verify ∨ frame.flags &&& 0x01 = 0 := by
          simpa [approvesPayment, imp_iff_not_or] using approves
        rw [if_pos skips, later, List.find?_cons_of_neg approves]

/-- The resolved payer of a valid transaction is the one by bytes and markers, if its expiry frames
carry no flags. -/
theorem resolvePayer_intent (readsHex : compiler.alloy.ReadsHex) {tx : FrameTransaction}
    (faithful : tx.Faithful compiler.alloy)
    (flagless : ∀ frame ∈ tx.frames, spelledExpiry compiler.alloy frame → frame.flags = 0) :
    (compiler.resolvePayer tx).intent = spelledIntent compiler tx := by
  have found : (payFrameFrom 0 tx.frames).map Prod.snd =
      (tx.frames.find? approvesPayment).filter fun frame => frame.flags &&& 0x03 = 0x01 := by
    refine payFrameFrom_find (fun frame member expiry => flagless frame member ?_) 0
    rw [← isExpiryFrame_eq readsHex (faithful.frames frame member).1]
    exact expiry
  unfold FrameCompiler.resolvePayer FrameTransaction.payFrame spelledIntent
  cases first : tx.frames.find? approvesPayment with
  | none =>
    rw [first, Option.filter_none, Option.map_eq_none_iff] at found
    rw [found]
    rfl
  | some frame =>
    have named := (faithful.frames frame (List.mem_of_find?_eq_some first)).1
    rw [first, Option.filter_some] at found
    dsimp only
    by_cases pays : frame.flags &&& 0x03 = 0x01
    · rw [if_pos (by simpa using pays), Option.map_eq_some_iff] at found
      obtain ⟨⟨index, scanned⟩, located, same⟩ := found
      dsimp only at same
      rw [located, same, if_pos pays]
      dsimp only
      by_cases sponsored : spelledSponsor compiler frame
      · rw [if_pos ((sponsorAddress_iff readsHex named).mpr sponsored), if_pos sponsored]
        rfl
      · rw [if_neg (mt (sponsorAddress_iff readsHex named).mp sponsored), if_neg sponsored]
        rfl
    · rw [if_neg (by simpa using pays), Option.map_eq_none_iff] at found
      rw [found, if_neg pays]
      rfl

end Payer

/-- One frame on the wire, spelled in one kind: a zero as a zero, the target behind as many markers,
and the data with or without a second marker. -/
structure InKind (alloy : Alloy) (frame other : Frame) : Prop where
  sent : frame.wire alloy = other.wire alloy
  zero : (frame.value = "0" ∨ frame.value = "") ↔ (other.value = "0" ∨ other.value = "")
  target : targetMarkers frame = targetMarkers other
  data : doublyMarked frame = doublyMarked other

section Kinds

variable {alloy : Alloy} {left right : FrameTransaction} {frame other : Frame}

namespace InKind

/-- Spelling in one kind is symmetric. -/
theorem symm (kind : InKind alloy frame other) : InKind alloy other frame :=
  ⟨kind.sent.symm, kind.zero.symm, kind.target.symm, kind.data.symm⟩

/-- The mode is on the wire. -/
theorem mode (kind : InKind alloy frame other) : frame.mode = other.mode :=
  congrArg WireFrame.mode kind.sent

/-- The flags are on the wire. -/
theorem flags (kind : InKind alloy frame other) : frame.flags = other.flags :=
  congrArg WireFrame.flags kind.sent

/-- The target bytes are on the wire. -/
theorem targetBytes (kind : InKind alloy frame other) :
    frame.targetBytes alloy = other.targetBytes alloy :=
  congrArg WireFrame.target kind.sent

/-- The gas limit is on the wire. -/
theorem gasLimit (kind : InKind alloy frame other) : frame.gasLimit = other.gasLimit :=
  congrArg WireFrame.gasLimit kind.sent

/-- Frames in one kind are both expiry frames or neither is. -/
theorem spelledExpiry_eq (kind : InKind alloy frame other) :
    spelledExpiry alloy frame = spelledExpiry alloy other := by
  simp only [spelledExpiry, kind.mode, kind.targetBytes, kind.target]

/-- Frames in one kind both approve payment or neither does. -/
theorem approvesPayment_eq (kind : InKind alloy frame other) :
    approvesPayment frame = approvesPayment other := by
  simp only [approvesPayment, kind.mode, kind.flags]

/-- Targets in one kind are both left out or neither is. -/
theorem blank_iff (kind : InKind alloy frame other) (readsHex : alloy.ReadsHex)
    (named : ∀ target ∈ frame.target, alloy.HexOk target)
    (otherNamed : ∀ target ∈ other.target, alloy.HexOk target) :
    frame.target.getD "" = "" ↔ other.target.getD "" = "" := by
  have lowered := (readsHex.toLowercase_eq_iff_markers (reads_target named)
    (reads_target otherNamed)).mpr ⟨kind.target, kind.targetBytes⟩
  have length := congrArg String.length lowered
  simp only [toLowercase, String.length_ofList, List.length_map, String.length_toList] at length
  rw [← String.length_eq_zero_iff, ← String.length_eq_zero_iff, length]

end InKind

/-- A verify frame approves for the sender in either spelling of one kind. -/
theorem ApprovesAs.respelled {bits : UInt8} (approves : ApprovesAs alloy left bits frame)
    (kind : InKind alloy frame other) (readsHex : alloy.ReadsHex)
    (named : ∀ target ∈ frame.target, alloy.HexOk target)
    (otherNamed : ∀ target ∈ other.target, alloy.HexOk target)
    (senders : alloy.decodeHexBytes left.sender = alloy.decodeHexBytes right.sender)
    (marked : markers left.sender = markers right.sender) : ApprovesAs alloy right bits other := by
  obtain ⟨verify, sender, approval⟩ := approves
  refine ⟨kind.mode ▸ verify, ?_, kind.flags ▸ approval⟩
  rcases sender with blank | ⟨spelled, bytes⟩
  · exact .inl ((kind.blank_iff readsHex named otherNamed).mp blank)
  · refine .inr ⟨?_, ?_⟩
    · rw [← kind.target, spelled, marked]
    · rw [← kind.targetBytes, bytes, senders]

/-- One transaction on the wire, every frame spelled in one kind and the sender behind as many
markers. -/
structure RespelledInKind (alloy : Alloy) (left right : FrameTransaction) : Prop where
  sent : left.wire alloy false = right.wire alloy false
  sender : markers left.sender = markers right.sender
  frames : List.Forall₂ (InKind alloy) left.frames right.frames

/-- The gas before the prefix is on the wire. -/
theorem baseVerifyGas_wire (sent : left.wire alloy false = right.wire alloy false) :
    baseVerifyGas alloy left = baseVerifyGas alloy right := by
  have frames : left.frames.map (Frame.wire alloy) = right.frames.map (Frame.wire alloy) :=
    congrArg WireTransaction.frames sent
  have signatures : left.signatures.map (FrameSignature.wire alloy false) =
      right.signatures.map (FrameSignature.wire alloy false) :=
    congrArg WireTransaction.signatures sent
  have frameBytes : encodeFrames alloy left.frames = encodeFrames alloy right.frames := by
    have items := congrArg (List.map WireFrame.item) frames
    rw [List.map_map, List.map_map] at items
    rw [encodeFrames_eq, encodeFrames_eq]
    exact congrArg (fun list => (Rlp.Item.list list).encode) items
  have signatureBytes :
      encodeSignatures alloy left.signatures = encodeSignatures alloy right.signatures := by
    have items := congrArg (List.map WireSignature.item) signatures
    rw [List.map_map, List.map_map] at items
    rw [encodeSignatures_eq, encodeSignatures_eq]
    exact congrArg (fun list => (Rlp.Item.list list).encode) items
  have count : left.frames.length = right.frames.length := by
    simpa using congrArg List.length frames
  have cost : left.signatureVerificationCost = right.signatureVerificationCost := by
    have schemes := congrArg (List.map fun image : WireSignature => signatureCost image.scheme)
      signatures
    rw [List.map_map, List.map_map] at schemes
    exact congrArg (fun costs => costs.foldl (Saturating.add 64) 0) schemes
  unfold baseVerifyGas
  rw [frameBytes, signatureBytes, count, cost]

/-- Frames in one kind have the same gas. -/
theorem gasLimits_eq {frames others : List Frame}
    (kinds : List.Forall₂ (InKind alloy) frames others) :
    frames.map (fun frame => frame.gasLimit.toNat) =
      others.map fun frame => frame.gasLimit.toNat := by
  induction kinds with
  | nil => rfl
  | cons kind _ ih => rw [List.map_cons, List.map_cons, kind.gasLimit, ih]

/-- A prefix keeps its shape in another spelling of its kind. -/
theorem SpelledForm.respelled {frames others : List Frame} (form : SpelledForm alloy left frames)
    (kinds : List.Forall₂ (InKind alloy) frames others)
    (approves : ∀ bits, ∀ frame ∈ frames, ∀ other ∈ others, InKind alloy frame other →
      ApprovesAs alloy left bits frame → ApprovesAs alloy right bits other) :
    SpelledForm alloy right others := by
  have deploys {frame other : Frame} (kind : InKind alloy frame other) (first : isDeploy frame) :
      isDeploy other := by
    simpa only [isDeploy, kind.mode] using first
  have pays {frame other : Frame} (kind : InKind alloy frame other) (pay : isPay frame) :
      isPay other := by
    simpa only [isPay, kind.mode, kind.flags] using pay
  cases form with
  | selfRelay self =>
    cases kinds with
    | cons kind rest =>
      cases rest
      exact .selfRelay (approves _ _ (by simp) _ (by simp) kind self)
  | deploySelfRelay first self =>
    cases kinds with
    | cons deployKind rest =>
      cases rest with
      | cons kind rest =>
        cases rest
        exact .deploySelfRelay (deploys deployKind first)
          (approves _ _ (by simp) _ (by simp) kind self)
  | paymaster only paying =>
    cases kinds with
    | cons kind rest =>
      cases rest with
      | cons payKind rest =>
        cases rest
        exact .paymaster (approves _ _ (by simp) _ (by simp) kind only) (pays payKind paying)
  | deployPaymaster first only paying =>
    cases kinds with
    | cons deployKind rest =>
      cases rest with
      | cons kind rest =>
        cases rest with
        | cons payKind rest =>
          cases rest
          exact .deployPaymaster (deploys deployKind first)
            (approves _ _ (by simp) _ (by simp) kind only) (pays payKind paying)

/-- Every frame on the right spells one on the left in its kind. -/
theorem InKind.counterpart {frames others : List Frame}
    (kinds : List.Forall₂ (InKind alloy) frames others) (member : other ∈ others) :
    ∃ frame ∈ frames, InKind alloy frame other := by
  induction kinds with
  | nil => cases member
  | cons kind _ ih =>
    rcases List.mem_cons.mp member with rfl | later
    · exact ⟨_, List.mem_cons_self, kind⟩
    · obtain ⟨frame, inside, same⟩ := ih later
      exact ⟨frame, List.mem_cons_of_mem _ inside, same⟩

/-- A validation prefix stays one in another spelling of its kind. -/
theorem SpelledPrefix.respelled {frames : List Frame} (spelled : SpelledPrefix alloy left frames)
    (kind : RespelledInKind alloy left right) (readsHex : alloy.ReadsHex)
    (leftFaithful : left.Faithful alloy) (rightFaithful : right.Faithful alloy) :
    ∃ others, SpelledPrefix alloy right others := by
  let visible (tx : FrameTransaction) := tx.frames.filter fun frame => !spelledExpiry alloy frame
  have filtered : List.Forall₂ (InKind alloy) (visible left) (visible right) := by
    refine List.rel_filter ?_ kind.frames
    intro frame other same
    dsimp only
    rw [same.spelledExpiry_eq]
  have kinds : List.Forall₂ (InKind alloy) frames ((visible right).take frames.length) := by
    have taken := List.forall₂_take frames.length filtered
    rwa [← List.prefix_iff_eq_take.mp spelled.leads] at taken
  have senders : alloy.decodeHexBytes left.sender = alloy.decodeHexBytes right.sender :=
    congrArg WireTransaction.sender kind.sent
  refine ⟨(visible right).take frames.length, List.take_prefix _ _, ?_, ?_, ?_⟩
  · refine spelled.form.respelled kinds ?_
    intro bits frame member other otherMember same approves
    have inLeft := List.mem_of_mem_filter (spelled.leads.subset member)
    have inRight := List.mem_of_mem_filter (List.mem_of_mem_take otherMember)
    exact approves.respelled same readsHex (leftFaithful.frames frame inLeft).1
      (rightFaithful.frames other inRight).1 senders kind.sender
  · intro other member
    obtain ⟨frame, inside, same⟩ := InKind.counterpart kinds member
    rw [← same.flags]
    exact spelled.unbatched frame inside
  · have gas := spelled.affordable
    unfold wrappedPrefixGas at gas ⊢
    rwa [← baseVerifyGas_wire kind.sent, ← gasLimits_eq kinds]

/-- The rules of spelling hold in another spelling of the same kind. -/
theorem SpelledRules.respelled (rules : SpelledRules alloy left)
    (kind : RespelledInKind alloy left right) (readsHex : alloy.ReadsHex)
    (leftFaithful : left.Faithful alloy) (rightFaithful : right.Faithful alloy) :
    SpelledRules alloy right where
  values := by
    intro other member notSender
    obtain ⟨frame, inside, same⟩ := InKind.counterpart kind.frames member
    exact same.zero.mp (rules.values frame inside (same.mode ▸ notSender))
  expiryFlags := by
    intro other member expiry
    obtain ⟨frame, inside, same⟩ := InKind.counterpart kind.frames member
    rw [← same.flags]
    exact rules.expiryFlags frame inside (same.spelledExpiry_eq ▸ expiry)
  expiryData := by
    intro other member expiry
    obtain ⟨frame, inside, same⟩ := InKind.counterpart kind.frames member
    have data : alloy.decodeHexBytes frame.data = alloy.decodeHexBytes other.data :=
      congrArg WireFrame.data same.sent
    rw [← data, ← same.data]
    exact rules.expiryData frame inside (same.spelledExpiry_eq ▸ expiry)
  validationPrefix := by
    obtain ⟨frames, spelled⟩ := rules.validationPrefix
    exact spelled.respelled kind readsHex leftFaithful rightFaithful

/-- The relation in the other direction. -/
theorem RespelledInKind.symm (kind : RespelledInKind alloy left right) :
    RespelledInKind alloy right left :=
  ⟨kind.sent.symm, kind.sender.symm, (kind.frames.imp fun _ _ same => same.symm).flip⟩

/-- The first frames that approve payment are spelled in one kind. -/
theorem InKind.find {frames others : List Frame} (kinds : List.Forall₂ (InKind alloy) frames others)
    (found : frames.find? approvesPayment = some frame)
    (otherFound : others.find? approvesPayment = some other) : InKind alloy frame other := by
  induction kinds with
  | nil => cases found
  | cons kind _ ih =>
    rename_i first second rest later _
    by_cases approves : approvesPayment first
    · have otherApproves : approvesPayment second := kind.approvesPayment_eq ▸ approves
      rw [List.find?_cons_of_pos approves, Option.some.injEq] at found
      rw [List.find?_cons_of_pos otherApproves, Option.some.injEq] at otherFound
      rw [← found, ← otherFound]
      exact kind
    · have otherSkips : ¬approvesPayment second := kind.approvesPayment_eq ▸ approves
      rw [List.find?_cons_of_neg approves] at found
      rw [List.find?_cons_of_neg otherSkips] at otherFound
      exact ih found otherFound

end Kinds

/-- Two transactions that are valid, state both fees, agree on whether they state a sequence, and
are sent as the same bytes, which a `usize` counts. -/
structure SentAlike (alloy : Alloy) (left right : FrameTransaction) : Prop where
  leftValid : left.validateWireFormat alloy = .ok ()
  rightValid : right.validateWireFormat alloy = .ok ()
  leftFees : left.maxFeePerGas.isSome ∧ left.maxPriorityFeePerGas.isSome
  rightFees : right.maxFeePerGas.isSome ∧ right.maxPriorityFeePerGas.isSome
  sequence : left.nonceSeq.isSome = right.nonceSeq.isSome
  bytes : left.encodeTransaction alloy = right.encodeTransaction alloy
  fits : (left.encodeTransaction alloy).length < 2 ^ 64

section Pairs

variable {σ : Type} {compiler : FrameCompiler σ} {left right : FrameTransaction}

/-- The verdicts are the same, and on acceptance the payers are of one kind. -/
def SameOutcome (compiler : FrameCompiler σ) (left right : FrameTransaction) : Prop :=
  (validateStructure compiler.alloy left = .ok () ↔
    validateStructure compiler.alloy right = .ok ()) ∧
  (validateStructure compiler.alloy left = .ok () →
    (compiler.resolvePayer left).intent = (compiler.resolvePayer right).intent)

/-- The first frames that approve payment, if they approve nothing else, are both spelled for the
sponsor or neither is. -/
def SponsorsAlike (compiler : FrameCompiler σ) (left right : FrameTransaction) : Prop :=
  ∀ frame other, left.frames.find? approvesPayment = some frame →
    right.frames.find? approvesPayment = some other → frame.flags &&& 0x03 = 0x01 →
    spelledSponsor compiler frame = spelledSponsor compiler other

/-- Unless the wire breaks a rule, both transactions meet the rules of spelling or neither does, and
where both do they spell the sponsor alike. -/
def SpelledAlike (compiler : FrameCompiler σ) (left right : FrameTransaction) : Prop :=
  WireRules (left.wire compiler.alloy false) →
    (SpelledRules compiler.alloy left ↔ SpelledRules compiler.alloy right) ∧
    (SpelledRules compiler.alloy left → SpelledRules compiler.alloy right →
      SponsorsAlike compiler left right)

/-- The first frames that approve payment are one frame on the wire. -/
theorem firstApproval_wire {alloy : Alloy}
    (wires : left.wire alloy false = right.wire alloy false) :
    (left.frames.find? approvesPayment).map (Frame.wire alloy) =
      (right.frames.find? approvesPayment).map (Frame.wire alloy) := by
  let approves (image : WireFrame) : Bool := image.mode = .verify ∧ image.flags &&& 0x01 ≠ 0
  have onWire : approvesPayment = approves ∘ Frame.wire alloy := rfl
  have frames : left.frames.map (Frame.wire alloy) = right.frames.map (Frame.wire alloy) :=
    congrArg WireTransaction.frames wires
  rw [onWire, ← List.find?_map, ← List.find?_map, frames]

/-- Payers by bytes and markers are of one kind exactly if the sponsor is spelled alike. -/
theorem spelledIntent_eq_iff
    (wires : left.wire compiler.alloy false = right.wire compiler.alloy false) :
    spelledIntent compiler left = spelledIntent compiler right ↔
      SponsorsAlike compiler left right := by
  have firsts := firstApproval_wire wires
  unfold spelledIntent SponsorsAlike
  cases leftFirst : left.frames.find? approvesPayment with
  | none =>
    rw [leftFirst, Option.map_none, eq_comm, Option.map_eq_none_iff] at firsts
    simp [firsts]
  | some frame =>
    rw [leftFirst, Option.map_some, eq_comm, Option.map_eq_some_iff] at firsts
    obtain ⟨other, rightFirst, image⟩ := firsts
    have flags : other.flags = frame.flags := congrArg WireFrame.flags image
    rw [rightFirst]
    dsimp only
    rw [flags]
    by_cases pays : frame.flags &&& 0x03 = 0x01
    · have onlyPair : (∀ one two, some frame = some one → some other = some two →
          one.flags &&& 0x03 = 0x01 →
          spelledSponsor compiler one = spelledSponsor compiler two) ↔
          spelledSponsor compiler frame = spelledSponsor compiler other := by
        simp [pays]
      rw [if_pos pays, if_pos pays, onlyPair]
      cases spelledSponsor compiler frame with
      | false =>
        cases spelledSponsor compiler other with
        | false => decide
        | true => decide
      | true =>
        cases spelledSponsor compiler other with
        | false => decide
        | true => decide
    · simp [pays]

/-- Transactions that are respelled in kind are spelled alike. -/
theorem spelledAlike_of_kind (readsHex : compiler.alloy.ReadsHex)
    (leftFaithful : left.Faithful compiler.alloy) (rightFaithful : right.Faithful compiler.alloy)
    (kind : RespelledInKind compiler.alloy left right) : SpelledAlike compiler left right := by
  intro _
  constructor
  · constructor
    · intro rules
      exact rules.respelled kind readsHex leftFaithful rightFaithful
    · intro rules
      exact rules.respelled kind.symm readsHex rightFaithful leftFaithful
  · intro _ _ frame other found otherFound _
    have same := InKind.find kind.frames found otherFound
    simp only [spelledSponsor, same.targetBytes, same.target]

/-- For all transactions that are sent alike, the verdicts and the payers agree exactly if the two
are spelled alike. -/
theorem respelled_outcome_iff (compiler : FrameCompiler σ) (readsHex : compiler.alloy.ReadsHex)
    (left right : FrameTransaction) (sent : SentAlike compiler.alloy left right) :
    SameOutcome compiler left right ↔ SpelledAlike compiler left right := by
  have wires := FrameTransaction.wire_of_transaction sent.fits sent.bytes
  have leftVerdict := validateStructure_spelled_iff readsHex sent.leftValid sent.leftFees
  have rightVerdict := validateStructure_spelled_iff readsHex sent.rightValid sent.rightFees
  rw [← wires] at rightVerdict
  have payers (leftRules : SpelledRules compiler.alloy left)
      (rightRules : SpelledRules compiler.alloy right) :
      (compiler.resolvePayer left).intent = (compiler.resolvePayer right).intent ↔
        SponsorsAlike compiler left right := by
    rw [resolvePayer_intent readsHex (FrameTransaction.faithful_of_valid sent.leftValid)
      leftRules.expiryFlags, resolvePayer_intent readsHex
      (FrameTransaction.faithful_of_valid sent.rightValid) rightRules.expiryFlags,
      spelledIntent_eq_iff wires]
  unfold SameOutcome SpelledAlike
  rw [leftVerdict, rightVerdict]
  constructor
  · rintro ⟨verdicts, intents⟩ wire
    rw [and_iff_right wire, and_iff_right wire] at verdicts
    exact ⟨verdicts, fun leftRules rightRules =>
      (payers leftRules rightRules).mp (intents ⟨wire, leftRules⟩)⟩
  · intro alike
    refine ⟨and_congr_right fun wire => (alike wire).1, ?_⟩
    rintro ⟨wire, leftRules⟩
    have rightRules := (alike wire).1.mp leftRules
    exact (payers leftRules rightRules).mpr ((alike wire).2 leftRules rightRules)

end Pairs

/-- `sponsoredTx` with its paymaster and its values spelled like this. -/
def respelledTx (target value : String) : FrameTransaction :=
  { sponsoredTx "" with
    frames := (sponsoredTx "").frames.map fun frame =>
      { frame with
        target := frame.target.map fun _ => target
        value := value } }

/-- `sponsoredTx` is accepted. -/
theorem sponsoredTx_accepted :
    validateStructure (sponsoringEngine none).alloy (sponsoredTx "") = .ok () :=
  (FrameCompiler.prepare_eq_ok.mp sponsoredTx_prepared).1

/-- Another valid spelling with the same wire is sent alike. -/
theorem respelledTx_sent {target value : String}
    (valid : (respelledTx target value).validateWireFormat (sponsoringEngine none).alloy = .ok ())
    (wires : (sponsoredTx "").wire (sponsoringEngine none).alloy false =
      (respelledTx target value).wire (sponsoringEngine none).alloy false) :
    SentAlike (sponsoringEngine none).alloy (sponsoredTx "") (respelledTx target value) where
  leftValid := (validateStructure_eq_ok.mp sponsoredTx_accepted).1
  rightValid := valid
  leftFees := ⟨rfl, rfl⟩
  rightFees := ⟨rfl, rfl⟩
  sequence := rfl
  bytes := by
    rw [FrameTransaction.encodeTransaction, FrameTransaction.encodeTransaction,
      FrameTransaction.encodePayload_eq, FrameTransaction.encodePayload_eq, wires]
  fits := by decide +kernel

/-- With its zeros left empty `sponsoredTx` has the same outcome. -/
theorem respelled_outcome_empty_values : SameOutcome (sponsoringEngine none) (sponsoredTx "")
    (respelledTx "0x2222222222222222222222222222222222222222" "") := by
  have readsHex := Alloy.reference_readsHex sponsoredDigest
  have wires : (sponsoredTx "").wire (sponsoringEngine none).alloy false =
      (respelledTx "0x2222222222222222222222222222222222222222" "").wire
        (sponsoringEngine none).alloy false := by
    decide +kernel
  have sent := respelledTx_sent (by decide +kernel) wires
  have frames : List.Forall₂ (InKind (sponsoringEngine none).alloy) (sponsoredTx "").frames
      (respelledTx "0x2222222222222222222222222222222222222222" "").frames :=
    .cons ⟨by decide +kernel, by decide, rfl, rfl⟩
      (.cons ⟨by decide +kernel, by decide, rfl, rfl⟩ .nil)
  refine (respelled_outcome_iff (sponsoringEngine none) readsHex _ _ sent).mpr ?_
  exact spelledAlike_of_kind readsHex (FrameTransaction.faithful_of_valid sent.leftValid)
    (FrameTransaction.faithful_of_valid sent.rightValid) ⟨wires, rfl, frames⟩

/-- With its zeros spelled as a whole byte `sponsoredTx` is refused, and with the marker of its
paymaster left out the payer is another, though the same bytes are sent. -/
theorem respelling_changes_outcome :
    (SentAlike (sponsoringEngine none).alloy (sponsoredTx "")
        (respelledTx "0x2222222222222222222222222222222222222222" "0x00") ∧
      validateStructure (sponsoringEngine none).alloy (sponsoredTx "") = .ok () ∧
      validateStructure (sponsoringEngine none).alloy
        (respelledTx "0x2222222222222222222222222222222222222222" "0x00") ≠ .ok ()) ∧
    (SentAlike (sponsoringEngine none).alloy (sponsoredTx "")
        (respelledTx "2222222222222222222222222222222222222222" "0") ∧
      validateStructure (sponsoringEngine none).alloy
        (respelledTx "2222222222222222222222222222222222222222" "0") = .ok () ∧
      ((sponsoringEngine none).resolvePayer (sponsoredTx "")).intent = .sponsor ∧
      ((sponsoringEngine none).resolvePayer
        (respelledTx "2222222222222222222222222222222222222222" "0")).intent = .external) := by
  refine ⟨⟨respelledTx_sent (by decide +kernel) (by decide +kernel), sponsoredTx_accepted,
    by decide +kernel⟩, ⟨respelledTx_sent (by decide +kernel) (by decide +kernel),
    by decide +kernel, ?_, by decide +kernel⟩⟩
  rw [sponsoredTx_sponsored]
  rfl

end OpenEngine.Compiler
