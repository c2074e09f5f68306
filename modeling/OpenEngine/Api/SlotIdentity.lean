import OpenEngine.Compiler.Structure
import OpenEngine.Core.Spelling

/-!
# The job id of a slot

The queue keys jobs on the text `sender:keys:seq` while the chain keys slots on decoded bytes. The
text tells key lists and sequences apart and forgets the case of the sender, but it keeps the `0x`
markers the sender was written with.
-/

namespace OpenEngine.Api

open OpenEngine.Core

/-- `job_id_for`. -/
def jobIdFor (sender nonceKeysRepr : String) (nonceSeq : UInt64) : String :=
  toLowercase sender ++ ":" ++ nonceKeysRepr ++ ":" ++ toString nonceSeq.toNat

/-- The comma-joined decimal nonce keys. -/
def nonceKeysRepr (keys : List U256) : String :=
  String.intercalate "," (keys.map fun key => toString key.toNat)

/-- The job id `handle_transaction` computes for a compiled transaction. -/
def jobId (tx : FrameTransaction) (nonceSeq : UInt64) : String :=
  jobIdFor tx.sender (nonceKeysRepr tx.effectiveNonceKeys) nonceSeq

/-- The two transactions name one slot on the wire: sender bytes, nonce keys and sequence agree. -/
def SameSlot (alloy : Alloy) (left right : FrameTransaction) : Prop :=
  alloy.decodeHexBytes left.sender = alloy.decodeHexBytes right.sender ∧
    left.effectiveNonceKeys = right.effectiveNonceKeys ∧ left.nonceSeq = right.nonceSeq

instance (alloy : Alloy) (left right : FrameTransaction) : Decidable (SameSlot alloy left right) :=
  inferInstanceAs (Decidable (_ ∧ _ ∧ _))

/-- A joined text holds only its separator and the characters of its parts. -/
theorem notMem_intercalate {separator char : Char} (different : char ≠ separator)
    {parts : List (List Char)} (free : ∀ part ∈ parts, char ∉ part) :
    char ∉ [separator].intercalate parts := by
  induction parts with
  | nil => simp
  | cons part rest ih =>
    have restFree := ih fun other member => free other (List.mem_cons_of_mem _ member)
    have partFree := free part List.mem_cons_self
    cases rest with
    | nil => simpa using partFree
    | cons next later =>
      rw [List.intercalate_cons_cons]
      simp [different, partFree, restFree]

/-- The digits of every key hold no separator. -/
theorem notMem_keys {separator : Char} (other : separator.isDigit = false) (keys : List U256) :
    ∀ part ∈ (keys.map fun key => toString key.toNat).map String.toList, separator ∉ part := by
  intro part member
  obtain ⟨text, textMem, rfl⟩ := List.mem_map.mp member
  obtain ⟨key, -, rfl⟩ := List.mem_map.mp textMem
  exact notMem_toString other key.toNat

/-- The joined keys hold no colon. -/
theorem colon_notMem_nonceKeysRepr (keys : List U256) : ':' ∉ (nonceKeysRepr keys).toList := by
  rw [nonceKeysRepr, String.toList_intercalate]
  exact notMem_intercalate (by decide) (notMem_keys rfl keys)

/-- Key lists are told apart by their text. -/
theorem nonceKeysRepr_inj {left right : List U256} (leftKeys : left ≠ [])
    (rightKeys : right ≠ []) : nonceKeysRepr left = nonceKeysRepr right ↔ left = right := by
  refine ⟨fun same => ?_, fun same => by rw [same]⟩
  have chars := congrArg (fun text => text.toList.splitOn ',') same
  dsimp only [nonceKeysRepr] at chars
  rw [String.toList_intercalate, String.toList_intercalate] at chars
  rw [show (",".toList) = [','] from rfl, List.splitOn_intercalate ',' (notMem_keys rfl left)
    (by simpa using leftKeys), List.splitOn_intercalate ',' (notMem_keys rfl right)
    (by simpa using rightKeys), List.map_map, List.map_map] at chars
  refine List.map_injective_iff.mpr ?_ chars
  intro key other digits
  exact BitVec.eq_of_toNat_eq (toString_injective digits)

/-- A transaction has a nonce key. -/
theorem effectiveNonceKeys_ne_nil (tx : FrameTransaction) : tx.effectiveNonceKeys ≠ [] := by
  unfold FrameTransaction.effectiveNonceKeys
  split
  · simp
  · next keys =>
    intro empty
    exact keys (by simp [empty])

/-- The three parts of a job id. -/
theorem toList_jobIdFor (sender repr : String) (nonceSeq : UInt64) :
    (jobIdFor sender repr nonceSeq).toList =
      [':'].intercalate [(toLowercase sender).toList, repr.toList,
        (toString nonceSeq.toNat).toList] := by
  simp [jobIdFor]

/-- No part of a job id holds a colon. -/
theorem parts_free {sender repr : String} (senderFree : ':' ∉ (toLowercase sender).toList)
    (reprFree : ':' ∉ repr.toList) (nonceSeq : UInt64) :
    ∀ part ∈ [(toLowercase sender).toList, repr.toList, (toString nonceSeq.toNat).toList],
      ':' ∉ part := by
  intro part member
  simp only [List.mem_cons, List.not_mem_nil, or_false] at member
  rcases member with rfl | rfl | rfl
  · exact senderFree
  · exact reprFree
  · exact notMem_toString rfl nonceSeq.toNat

/-- Job ids of senders without a colon are told apart by each of their parts. -/
theorem jobIdFor_eq_iff {sender other repr text : String} {nonceSeq number : UInt64}
    (senderFree : ':' ∉ (toLowercase sender).toList) (otherFree : ':' ∉ (toLowercase other).toList)
    (reprFree : ':' ∉ repr.toList) (textFree : ':' ∉ text.toList) :
    jobIdFor sender repr nonceSeq = jobIdFor other text number ↔
      toLowercase sender = toLowercase other ∧ repr = text ∧ nonceSeq = number := by
  constructor
  · intro same
    have chars := congrArg (fun id => id.toList.splitOn ':') same
    rw [toList_jobIdFor, toList_jobIdFor,
      List.splitOn_intercalate ':' (parts_free senderFree reprFree nonceSeq) (by simp),
      List.splitOn_intercalate ':' (parts_free otherFree textFree number) (by simp)] at chars
    injection chars with senders others
    injection others with keys numbers
    injection numbers with digits
    have value : nonceSeq.toNat = number.toNat := toString_injective digits
    exact ⟨String.toList_inj.mp senders, String.toList_inj.mp keys, UInt64.toNat_inj.mp value⟩
  · rintro ⟨senders, rfl, rfl⟩
    rw [jobIdFor, jobIdFor, senders]

/-- The sender of a valid transaction reads as 20 bytes, those on the wire. -/
theorem reads_sender {alloy : Alloy} {tx : FrameTransaction}
    (valid : tx.validateWireFormat alloy = .ok ()) :
    alloy.Reads tx.sender (alloy.decodeHexBytes tx.sender) ∧
      (alloy.decodeHexBytes tx.sender).length = 20 := by
  obtain ⟨bytes, accepted, -⟩ := Check.bind_eq_ok.mp valid
  have reads := Alloy.reads_of_expect accepted
  rw [reads.decodeHexBytes]
  exact ⟨reads, Alloy.width_of_expect accepted⟩

/-- Of two valid transactions with a sequence: the job ids are equal exactly if the slots are the
same, if and only if senders of one slot are spelled with as many characters. -/
theorem jobId_eq_iff_sameSlot_iff {alloy : Alloy} (readsHex : alloy.ReadsHex)
    (left right : FrameTransaction) (leftValid : left.validateWireFormat alloy = .ok ())
    (rightValid : right.validateWireFormat alloy = .ok ()) (leftSeq rightSeq : UInt64)
    (leftNumbered : left.nonceSeq = some leftSeq) (rightNumbered : right.nonceSeq = some rightSeq) :
    (jobId left leftSeq = jobId right rightSeq ↔ SameSlot alloy left right) ↔
      (SameSlot alloy left right → left.sender.length = right.sender.length) := by
  obtain ⟨leftReads, leftWidth⟩ := reads_sender leftValid
  obtain ⟨rightReads, rightWidth⟩ := reads_sender rightValid
  have ids : jobId left leftSeq = jobId right rightSeq ↔
      left.sender.length = right.sender.length ∧ SameSlot alloy left right := by
    have senders := readsHex.toLowercase_eq_iff leftReads rightReads
      (leftWidth.trans rightWidth.symm)
    unfold jobId SameSlot
    rw [jobIdFor_eq_iff (readsHex.notMem_toLowercase leftReads (by decide))
      (readsHex.notMem_toLowercase rightReads (by decide)) (colon_notMem_nonceKeysRepr _)
      (colon_notMem_nonceKeysRepr _), senders, nonceKeysRepr_inj (effectiveNonceKeys_ne_nil left)
      (effectiveNonceKeys_ne_nil right), leftNumbered, rightNumbered, Option.some.injEq, and_assoc]
  rw [ids]
  constructor
  · intro agree same
    exact (agree.mpr same).1
  · intro spelled
    exact ⟨fun both => both.2, fun same => ⟨spelled same, same⟩⟩

/-- A self-paying transaction from the given sender. -/
def selfPaidTx (sender : String) : FrameTransaction where
  chainId := 1
  nonceKeys := [1, 23]
  nonceSeq := some 7
  sender := sender
  maxPriorityFeePerGas := some 10
  maxFeePerGas := some 20
  maxFeePerBlobGas := none
  blobVersionedHashes := []
  recentRootReferences := []
  frames := [
    { mode := .verify
      flags := 0x03
      target := none
      gasLimit := 100000
      value := "0"
      data := "0x" }]
  signatures := []
  payer := none

example : jobId (selfPaidTx "0xAB") 7 = "0xab:1,23:7" := by decide +kernel

/-- Two spellings of one sender that differ in case only share their job id. -/
theorem jobId_eq_iff_sameSlot_iff_case :
    let lower := selfPaidTx "0xabcdefabcdefabcdefabcdefabcdefabcdefabcd"
    let upper := selfPaidTx "0xABCDEFABCDEFABCDEFABCDEFABCDEFABCDEFABCD"
    (jobId lower 7 = jobId upper 7 ↔ SameSlot testAlloy lower upper) :=
  (jobId_eq_iff_sameSlot_iff (Alloy.reference_readsHex _) _ _ (by decide +kernel)
    (by decide +kernel) 7 7 rfl rfl).mpr fun _ => by decide +kernel

/-- With and without its marker, an accepted sender is one slot under two job ids. -/
theorem jobId_marked_ne_unmarked :
    let marked := selfPaidTx "0x1111111111111111111111111111111111111111"
    let unmarked := selfPaidTx "1111111111111111111111111111111111111111"
    marked.validateWireFormat testAlloy = .ok () ∧ unmarked.validateWireFormat testAlloy = .ok () ∧
      Compiler.validateStructure testAlloy marked = .ok () ∧
      Compiler.validateStructure testAlloy unmarked = .ok () ∧
      SameSlot testAlloy marked unmarked ∧ jobId marked 7 ≠ jobId unmarked 7 := by
  decide +kernel

end OpenEngine.Api
