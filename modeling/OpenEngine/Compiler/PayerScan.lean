import OpenEngine.Compiler.FilledGas

/-!
# The payer scan and the validated prefix

`pay_frame` looks for the payer in the frame list on its own. On a transaction that
`validate_structure` accepts it stops at the frame the matched prefix ends with, whatever expiry
frames stand between and whatever frames follow.
-/

namespace OpenEngine.Compiler

open OpenEngine.Core

/-- The `validation_prefix` that `validate_structure` collects and matches. -/
def matchedPrefix (alloy : Alloy) (tx : FrameTransaction) : List Frame :=
  (collectPrefix (baseVerifyGas alloy tx) tx.frames).2.1

/-- The two shapes with a paymaster. -/
inductive PaymasterForm (tx : FrameTransaction) : List Frame → Prop where
  | paymaster {verify pay : Frame} (only : isOnlyVerify tx verify) (pays : isPay pay) :
      PaymasterForm tx [verify, pay]
  | deployPaymaster {deploy verify pay : Frame} (first : isDeploy deploy)
      (only : isOnlyVerify tx verify) (pays : isPay pay) : PaymasterForm tx [deploy, verify, pay]

/-- A prefix ends with this frame, at this index of the original list. -/
structure EndsAt (tx : FrameTransaction) (frames : List Frame) (index : Nat) (frame : Frame) :
    Prop where
  last : frames.getLast? = some frame
  here : tx.frames[index]? = some frame
  upTo : (tx.frames.take (index + 1)).filter (fun frame => !frame.isExpiryFrame) = frames

/-- A list of frames split at the first visible one that approves payment. -/
structure SplitAtPayment (lead : List Frame) (frame : Frame) : Prop where
  before : ∀ other ∈ lead, other.isExpiryFrame ∨ approvesPayment other = false
  visible : frame.isExpiryFrame = false
  approves : approvesPayment frame

/-- Where the scan of the validator stops, the list is split. -/
theorem split_of_collectPrefix (gas : UInt64) (frames : List Frame)
    (approved : (collectPrefix gas frames).2.2 = true) :
    ∃ lead frame rest, frames = lead ++ frame :: rest ∧ SplitAtPayment lead frame ∧
      (collectPrefix gas frames).2.1 =
        (lead.filter fun frame => !frame.isExpiryFrame) ++ [frame] := by
  induction frames generalizing gas with
  | nil => cases approved
  | cons first rest ih =>
    unfold collectPrefix at approved ⊢
    by_cases expiry : first.isExpiryFrame
    · rw [if_pos expiry] at approved ⊢
      obtain ⟨lead, frame, later, parts, split, collected⟩ := ih gas approved
      refine ⟨first :: lead, frame, later, by rw [parts, List.cons_append], ?_, ?_⟩
      · refine ⟨fun other member => ?_, split.visible, split.approves⟩
        rcases List.mem_cons.mp member with same | inside
        · rw [same]
          exact .inl expiry
        · exact split.before other inside
      · rw [collected, List.filter_cons_of_neg (by simp [expiry])]
    · rw [if_neg expiry] at approved ⊢
      have visible : first.isExpiryFrame = false := Bool.eq_false_iff.mpr expiry
      by_cases approves : approvesPayment first
      · rw [if_pos (by simpa [approvesPayment] using approves)]
        exact ⟨[], first, rest, rfl, ⟨by simp, visible, approves⟩, rfl⟩
      · have unapproved : ¬(first.mode = .verify ∧ first.flags &&& 0x01 ≠ 0) := by
          simpa [approvesPayment] using approves
        rw [if_neg unapproved] at approved ⊢
        obtain ⟨lead, frame, later, parts, split, collected⟩ :=
          ih (gas + first.gasLimit) approved
        refine ⟨first :: lead, frame, later, by rw [parts, List.cons_append], ?_, ?_⟩
        · refine ⟨fun other member => ?_, split.visible, split.approves⟩
          rcases List.mem_cons.mp member with same | inside
          · rw [same]
            exact .inr (Bool.eq_false_iff.mpr approves)
          · exact split.before other inside
        · rw [List.filter_cons_of_pos (by simp [visible]), List.cons_append]
          exact congrArg (first :: ·) collected

/-- On a split list the payer scan answers from the frame it is split at. -/
theorem payFrameFrom_split {lead : List Frame} {frame : Frame} (split : SplitAtPayment lead frame)
    (index : Nat) (rest : List Frame) :
    payFrameFrom index (lead ++ frame :: rest) =
      if frame.flags &&& 0x03 = 0x01 then some (index + lead.length, frame) else none := by
  induction lead generalizing index with
  | nil =>
    have approves := split.approves
    simp only [approvesPayment, decide_eq_true_eq] at approves
    have stops : ¬(frame.mode ≠ .verify ∨ frame.flags &&& 0x01 = 0) := by
      rintro (other | unflagged)
      · exact other approves.1
      · exact approves.2 unflagged
    rw [List.nil_append, payFrameFrom, if_neg (Bool.eq_false_iff.mp split.visible), if_neg stops]
    rfl
  | cons first later ih =>
    have rest_split : SplitAtPayment later frame :=
      ⟨fun other member => split.before other (List.mem_cons_of_mem _ member), split.visible,
        split.approves⟩
    have next := ih rest_split (index + 1)
    have shifted : index + 1 + later.length = index + (first :: later).length := by
      rw [List.length_cons]
      omega
    rw [shifted] at next
    rw [List.cons_append, payFrameFrom]
    rcases split.before first List.mem_cons_self with expiry | unapproved
    · rw [if_pos expiry, next]
    · have skips : first.mode ≠ .verify ∨ first.flags &&& 0x01 = 0 := by
        simpa [approvesPayment, imp_iff_not_or] using unapproved
      rw [if_pos skips, next, ite_self]

/-- A split list ends at its frame. -/
theorem endsAt_of_split {tx : FrameTransaction} {lead : List Frame} {frame : Frame}
    {rest : List Frame} (parts : tx.frames = lead ++ frame :: rest)
    (split : SplitAtPayment lead frame) :
    EndsAt tx ((lead.filter fun frame => !frame.isExpiryFrame) ++ [frame]) lead.length frame where
  last := by rw [List.getLast?_concat]
  here := by rw [parts, List.getElem?_append_right (Nat.le_refl _), Nat.sub_self]; rfl
  upTo := by
    have taken : tx.frames.take (lead.length + 1) = lead ++ [frame] := by
      rw [parts, List.take_length_add_append]
      rfl
    rw [taken, List.filter_append, List.filter_cons_of_pos (by simp [split.visible]),
      List.filter_nil]

/-- A prefix ends at a visible frame. -/
theorem EndsAt.visible {tx : FrameTransaction} {frames : List Frame} {index : Nat} {frame : Frame}
    (ends : EndsAt tx frames index frame) : frame.isExpiryFrame = false := by
  have member : frame ∈ frames := List.mem_of_getLast? ends.last
  rw [← ends.upTo, List.mem_filter] at member
  simpa using member.2

/-- A prefix ends no later than anywhere else it ends. -/
theorem EndsAt.index_le {tx : FrameTransaction} {frames : List Frame} {index other : Nat}
    {frame final : Frame} (one : EndsAt tx frames index frame)
    (two : EndsAt tx frames other final) : other ≤ index := by
  by_contra later
  have shorter : index + 1 ≤ other := by omega
  have leads : tx.frames.take (index + 1) <+: tx.frames.take other :=
    List.take_prefix_take_left shorter
  have inner := (leads.sublist.filter fun frame => !frame.isExpiryFrame).length_le
  have whole := two.upTo
  rw [List.take_add_one, two.here, Option.toList_some, List.filter_append,
    List.filter_cons_of_pos (by simp [two.visible]), List.filter_nil] at whole
  have counted := congrArg List.length (whole.trans one.upTo.symm)
  rw [List.length_append, List.length_singleton] at counted
  omega

/-- A prefix ends at one index only. -/
theorem EndsAt.unique {tx : FrameTransaction} {frames : List Frame} {index other : Nat}
    {frame final : Frame} (one : EndsAt tx frames index frame)
    (two : EndsAt tx frames other final) : index = other ∧ frame = final :=
  ⟨Nat.le_antisymm (two.index_le one) (one.index_le two),
    Option.some.inj (one.last.symm.trans two.last)⟩

/-- A matched prefix is one of the paymaster forms exactly if its last frame approves payment
alone, and otherwise it ends in a self verification. -/
theorem PrefixForm.last_cases {tx : FrameTransaction} {frames : List Frame} {frame : Frame}
    (form : PrefixForm tx frames) (last : frames.getLast? = some frame) :
    (PaymasterForm tx frames ∧ frame.flags &&& 0x03 = 0x01 ∧ isSelfVerify tx frame = false) ∨
      (¬PaymasterForm tx frames ∧ frame.flags &&& 0x03 ≠ 0x01 ∧ isSelfVerify tx frame) := by
  have pays_flags {pay : Frame} (pays : isPay pay) :
      pay.flags &&& 0x03 = 0x01 ∧ isSelfVerify tx pay = false := by
    simp only [isPay, decide_eq_true_eq] at pays
    refine ⟨pays.2, ?_⟩
    simp only [isSelfVerify, pays.2, decide_eq_false_iff_not, not_and]
    intro _ _ both
    exact absurd both (by decide)
  have self_flags {verify : Frame} (self : isSelfVerify tx verify) :
      verify.flags &&& 0x03 ≠ 0x01 := by
    simp only [isSelfVerify, decide_eq_true_eq] at self
    rw [self.2.2]
    decide
  cases form with
  | selfRelay self =>
    cases last
    refine .inr ⟨fun paymaster => ?_, self_flags self, self⟩
    cases paymaster
  | deploySelfRelay first self =>
    cases last
    refine .inr ⟨fun paymaster => ?_, self_flags self, self⟩
    cases paymaster with
    | paymaster only pays => exact self_flags self (pays_flags pays).1
  | paymaster only pays =>
    cases last
    exact .inl ⟨.paymaster only pays, pays_flags pays⟩
  | deployPaymaster first only pays =>
    cases last
    exact .inl ⟨.deployPaymaster first only pays, pays_flags pays⟩

/-- On a transaction that is accepted the payer scan returns exactly the last frame of a paymaster
prefix with its index in the original list, it returns nothing exactly if the prefix ends in a self
verification, and no later frame changes the answer. -/
theorem payFrame_agrees (alloy : Alloy) (tx : FrameTransaction)
    (accepted : validateStructure alloy tx = .ok ()) :
    (∀ index frame, tx.payFrame = some (index, frame) ↔
      PaymasterForm tx (matchedPrefix alloy tx) ∧ EndsAt tx (matchedPrefix alloy tx) index frame) ∧
    (tx.payFrame = none ↔ ∃ index frame, EndsAt tx (matchedPrefix alloy tx) index frame ∧
      isSelfVerify tx frame) ∧
    ∃ index frame, EndsAt tx (matchedPrefix alloy tx) index frame ∧
      ∀ later, ({ tx with frames := tx.frames.take (index + 1) ++ later } :
        FrameTransaction).payFrame = tx.payFrame := by
  obtain ⟨-, -, -, -, -, -, -, prefixed⟩ := validateStructure_eq_ok.mp accepted
  obtain ⟨-, approved, -, valid⟩ := validatePrefix_eq_ok.mp prefixed
  rw [collectPrefix_snd 0 (baseVerifyGas alloy tx)] at approved valid
  have form : PrefixForm tx (matchedPrefix alloy tx) := (validPrefix_iff _).mp valid
  obtain ⟨lead, frame, rest, parts, split, collected⟩ := split_of_collectPrefix _ _ approved
  have ends : EndsAt tx (matchedPrefix alloy tx) lead.length frame := by
    rw [matchedPrefix, collected]
    exact endsAt_of_split parts split
  have scanned : tx.payFrame =
      if frame.flags &&& 0x03 = 0x01 then some (lead.length, frame) else none := by
    rw [FrameTransaction.payFrame, parts, payFrameFrom_split split, Nat.zero_add]
  have unmoved : ∀ later, ({ tx with frames := tx.frames.take (lead.length + 1) ++ later } :
      FrameTransaction).payFrame = tx.payFrame := by
    intro later
    have taken : tx.frames.take (lead.length + 1) = lead ++ [frame] := by
      rw [parts, List.take_length_add_append]
      rfl
    rw [scanned, FrameTransaction.payFrame, taken, List.append_assoc, List.singleton_append,
      payFrameFrom_split split, Nat.zero_add]
  refine ⟨fun index other => ?_, ?_, lead.length, frame, ends, unmoved⟩
  · rcases form.last_cases ends.last with ⟨paymaster, pays, -⟩ | ⟨selfPaid, self, -⟩
    · rw [scanned, if_pos pays, Option.some.injEq, Prod.mk.injEq]
      constructor
      · rintro ⟨rfl, rfl⟩
        exact ⟨paymaster, ends⟩
      · rintro ⟨-, found⟩
        exact ends.unique found
    · rw [scanned, if_neg self]
      constructor
      · intro none
        cases none
      · intro found
        exact absurd found.1 selfPaid
  · rcases form.last_cases ends.last with ⟨paymaster, pays, notSelf⟩ | ⟨selfPaid, self, verified⟩
    · rw [scanned, if_pos pays]
      constructor
      · intro none
        cases none
      · rintro ⟨index, other, found, verified⟩
        rw [← (ends.unique found).2, notSelf] at verified
        contradiction
    · rw [scanned, if_neg self]
      exact ⟨fun _ => ⟨lead.length, frame, ends, verified⟩, fun _ => rfl⟩

/-- The scan of the sponsored transaction agrees with its prefix. -/
theorem payFrame_agrees_sponsored :
    ((sponsoredTx "").payFrame = none ↔ ∃ index frame,
      EndsAt (sponsoredTx "") (matchedPrefix (sponsoringEngine none).alloy (sponsoredTx "")) index
        frame ∧ isSelfVerify (sponsoredTx "") frame) ∧
    ∃ index frame,
      EndsAt (sponsoredTx "") (matchedPrefix (sponsoringEngine none).alloy (sponsoredTx "")) index
        frame ∧
      ∀ later, ({ sponsoredTx "" with
        frames := (sponsoredTx "").frames.take (index + 1) ++ later } :
          FrameTransaction).payFrame = (sponsoredTx "").payFrame :=
  (payFrame_agrees (sponsoringEngine none).alloy (sponsoredTx "")
    (FrameCompiler.prepare_eq_ok.mp sponsoredTx_prepared).1).2

end OpenEngine.Compiler
