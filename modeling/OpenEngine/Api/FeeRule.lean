import OpenEngine.Api.FeeBumps

/-!
# The replacement rule, exactly

`is_valid_fee_bump` against the rule it stands for: both fees rise, each by a tenth at least. The
code rounds the tenth up and saturates twice. It never refuses a pair the rule admits, and it admits
two kinds of pair the rule refuses: zero for zero, and the largest fee for one that is within a
tenth of it.
-/

namespace OpenEngine.Api

open OpenEngine.Core Queue

/-- The new fee is above the old one, by a tenth at least. -/
def Raised : Option U128 → Option U128 → Prop
  | some old, some new => old.toNat < new.toNat ∧ 11 * old.toNat ≤ 10 * new.toNat
  | _, _ => False

/-- A pair the threshold lets pass without a rise of a tenth: nothing for nothing, or the largest
fee for one so high that a tenth more saturates. -/
def Edge : Option U128 → Option U128 → Prop
  | some old, some new => old.toNat = 0 ∧ new.toNat = 0 ∨
      10 * Saturating.top 128 < 11 * old.toNat ∧ new.toNat = Saturating.top 128
  | _, _ => False

/-- Both fees are raised. -/
def RaisesBoth (old new : FrameTransaction) : Prop :=
  Raised old.maxFeePerGas new.maxFeePerGas ∧
    Raised old.maxPriorityFeePerGas new.maxPriorityFeePerGas

/-- One fee is at an edge, and the other is at an edge too or raised. -/
def AtEdge (old new : FrameTransaction) : Prop :=
  Edge old.maxFeePerGas new.maxFeePerGas ∧
      (Edge old.maxPriorityFeePerGas new.maxPriorityFeePerGas ∨
        Raised old.maxPriorityFeePerGas new.maxPriorityFeePerGas) ∨
    Raised old.maxFeePerGas new.maxFeePerGas ∧
      Edge old.maxPriorityFeePerGas new.maxPriorityFeePerGas

/-- The code admits a pair of fees that is raised or at an edge. -/
theorem bumped_iff (old new : Option U128) :
    bumped old new = true ↔ Raised old new ∨ Edge old new := by
  cases old with
  | none => simp [bumped, Raised, Edge]
  | some old =>
    cases new with
    | none => simp [bumped, Raised, Edge]
    | some new =>
      have oldFits := old.isLt
      have newFits := new.isLt
      change decide (Saturating.add 128 old.toNat (Saturating.add 128 old.toNat 9 / 10) ≤
        new.toNat) = true ↔ _
      rw [decide_eq_true_eq]
      simp only [Raised, Edge, Saturating.add, Saturating.top]
      omega

/-- No pair of fees is raised and at an edge. -/
theorem Raised.not_edge {old new : Option U128} (raised : Raised old new) : ¬ Edge old new := by
  cases old with
  | none => exact raised.elim
  | some old =>
    cases new with
    | none => exact raised.elim
    | some new =>
      simp only [Raised, Edge] at raised ⊢
      omega

/-- A raise of a raised fee is a raise. -/
theorem Raised.trans {first second third : Option U128} (lower : Raised first second)
    (upper : Raised second third) : Raised first third := by
  cases first with
  | none => exact lower.elim
  | some first =>
    cases second with
    | none => exact lower.elim
    | some second =>
      cases third with
      | none => exact upper.elim
      | some third =>
        simp only [Raised] at lower upper ⊢
        omega

/-- A replacement of a replacement raises both fees of the first transaction. -/
theorem RaisesBoth.trans {first second third : FrameTransaction} (lower : RaisesBoth first second)
    (upper : RaisesBoth second third) : RaisesBoth first third :=
  ⟨lower.1.trans upper.1, lower.2.trans upper.2⟩

/-- The code keeps to the rule exactly away from the edges. -/
theorem isValidFeeBump_iff (existing incoming : FrameTransaction) :
    (isValidFeeBump existing incoming = true ↔ RaisesBoth existing incoming) ↔
      ¬ AtEdge existing incoming := by
  have cap := bumped_iff existing.maxFeePerGas incoming.maxFeePerGas
  have priority := bumped_iff existing.maxPriorityFeePerGas incoming.maxPriorityFeePerGas
  rw [isValidFeeBump, Bool.and_eq_true, cap, priority, RaisesBoth, AtEdge]
  constructor
  · rintro exact_ (⟨edge, edgeToo | raised⟩ | ⟨raised, edge⟩)
    · exact (exact_.mp ⟨.inr edge, .inr edgeToo⟩).1.not_edge edge
    · exact (exact_.mp ⟨.inr edge, .inl raised⟩).1.not_edge edge
    · exact (exact_.mp ⟨.inl raised, .inr edge⟩).2.not_edge edge
  · refine fun clear => ⟨?_, fun raised => ⟨.inl raised.1, .inl raised.2⟩⟩
    rintro ⟨raised | edge, raisedToo | edgeToo⟩
    · exact ⟨raised, raisedToo⟩
    · exact absurd (.inr ⟨raised, edgeToo⟩) clear
    · exact absurd (.inl ⟨edge, .inr raisedToo⟩) clear
    · exact absurd (.inl ⟨edge, .inl edgeToo⟩) clear

variable {ι ο ε : Type} [LinearOrder ι]

/-- The replacement path of `handle_resubmission` with nothing between its three commands: the two
reads of `get_job`, and the swap if the bump is valid. -/
def replacementPath (store : Store ι FrameTransaction ο ε) (now : Nat)
    (job : JobOptions ι FrameTransaction) : Store ι FrameTransaction ο ε :=
  let (store, looked) := Progress.lookingUp.step store now job
  let (store, read) := looked.step store now job
  (read.step store now job).1

/-- A resubmission, or an operation of a worker between two of them. -/
inductive SlotAction (ι ο ε : Type) where
  | resubmit (now : Nat) (job : JobOptions ι FrameTransaction)
  | work (op : Op ι FrameTransaction ο ε)

/-- The operation of a worker writes no job's data. -/
def SlotAction.isWork : SlotAction ι ο ε → Bool
  | .resubmit _ _ => true
  | .work (.push _ _) | .work (.replace _ _) | .work (.reopen _ _) => false
  | .work _ => true

/-- The store after an action. -/
def slotStep (options : QueueOptions) (store : Store ι FrameTransaction ο ε) :
    SlotAction ι ο ε → Store ι FrameTransaction ο ε
  | .resubmit now job => replacementPath store now job
  | .work op => store.step options op

/-- A resubmission for the slot is not at an edge of the rule. -/
def OffEdge (slot : ι) (store : Store ι FrameTransaction ο ε) : SlotAction ι ο ε → Prop
  | .resubmit _ job => job.id = slot →
      ∀ stored, store.jobData slot = some stored → ¬ AtEdge stored job.data
  | .work _ => True

/-- The replacement path leaves the store alone, or swaps the slot's transaction for one whose fee
bump over it is valid. -/
theorem replacementPath_cases (store : Store ι FrameTransaction ο ε) (now : Nat)
    (job : JobOptions ι FrameTransaction) :
    replacementPath store now job = store ∨
      ∃ stored, store.jobData job.id = some stored ∧ isValidFeeBump stored job.data = true ∧
        replacementPath store now job = (store.tryReplacePendingData job.id job.data).2 := by
  cases found : store.jobData job.id with
  | none =>
    have looked : Progress.lookingUp.step store now job = (store, .answered (conflict .duplicate
        "A transaction for this keyed nonce slot was already known")) := by
      simp only [Progress.step, found]
    rw [replacementPath, looked]
    exact .inl rfl
  | some stored =>
    have looked : Progress.lookingUp.step store now job = (store, .readingMeta stored) := by
      simp only [Progress.step, found]
    have path : replacementPath store now job = ((afterLookup job.data
        (jobOf job.id stored (store.jobMeta job.id))).step store now job).1 := by
      rw [replacementPath, looked]
      rfl
    rw [path, afterLookup]
    split
    · exact .inl rfl
    split
    · next valid => exact .inr ⟨stored, rfl, valid, rfl⟩
    · exact .inl rfl

/-- What is stored for the slot, if anything, is the first transaction or raises both its fees. -/
def KeptOrRaised (slot : ι) (first : FrameTransaction)
    (store : Store ι FrameTransaction ο ε) : Prop :=
  ∀ stored, store.jobData slot = some stored → stored = first ∨ RaisesBoth first stored

/-- Off the edges an action keeps the transaction or raises both its fees. -/
theorem KeptOrRaised.step {slot : ι} {first : FrameTransaction}
    {store : Store ι FrameTransaction ο ε} (kept : KeptOrRaised slot first store)
    (options : QueueOptions) {action : SlotAction ι ο ε} (work : action.isWork)
    (off : OffEdge slot store action) :
    KeptOrRaised slot first (slotStep options store action) := by
  cases action with
  | work op =>
    have reads : ∀ event, op.Causes slot event → (∀ now job, event ≠ .push now job) ∧
        ∀ data, event ≠ .replace data := by
      intro event caused
      cases op <;> cases event <;>
        simp_all [Op.Causes, JobEvent.OfPop, SlotAction.isWork]
    intro stored after
    rcases data_step store options op slot reads with same | gone
    · exact kept stored (same.symm.trans after)
    · exact absurd (gone.symm.trans after) (by simp)
  | resubmit now job =>
    rcases replacementPath_cases store now job with same | ⟨existing, found, valid, swaps⟩
    · rw [slotStep, same]
      exact kept
    · rw [slotStep, swaps]
      by_cases named : job.id = slot
      · subst named
        rcases store.replace_cases job.id job.data with ⟨-, -, swapped⟩ | ⟨-, same⟩
        · intro stored after
          have written : (store.tryReplacePendingData job.id job.data).2.jobData job.id =
              some job.data := congrArg JobView.data swapped
          have raised := ((isValidFeeBump_iff existing job.data).mpr (off rfl existing found)).mp
            valid
          rw [← Option.some.inj (written.symm.trans after)]
          rcases kept existing found with rfl | before
          · exact .inr raised
          · exact .inr (before.trans raised)
        · rw [same]
          exact kept
      · intro stored after
        have same := store.view_replace_of_ne job.data (Ne.symm named)
        exact kept stored ((congrArg JobView.data same).symm.trans after)

/-- `is_valid_fee_bump` is the rule that both fees rise, by a tenth at least, exactly for the pairs
away from its edges. Over any sequence of resubmissions, with the workers in between, that meets no
such pair, the slot's transaction is replaced only by ones that raise both its fees. -/
theorem fee_bump_exact (existing incoming : FrameTransaction) (options : QueueOptions) (slot : ι)
    (store : Store ι FrameTransaction ο ε) (actions : List (SlotAction ι ο ε))
    (work : ∀ action ∈ actions, action.isWork)
    (off : Transition.Along (slotStep options) (OffEdge slot) store actions) :
    ((isValidFeeBump existing incoming = true ↔ RaisesBoth existing incoming) ↔
      ¬ AtEdge existing incoming) ∧
    ∀ first last, store.jobData slot = some first →
      (Transition.run (slotStep options) store actions).jobData slot = some last →
        last = first ∨ RaisesBoth first last := by
  refine ⟨isValidFeeBump_iff existing incoming, fun first last before after => ?_⟩
  have initial : KeptOrRaised slot first store := by
    intro stored found
    exact .inl (Option.some.inj (found.symm.trans before))
  have kept := Transition.run_invariant (KeptOrRaised slot first)
    (fun store action holds admitted => holds.step options admitted.2 admitted.1) store actions
    initial (off.and (Transition.along_of_forall store actions work))
  exact kept last after

/-- Slot 7 waits with both fees 10, as the engine queues it. -/
def waitingSeven : Store Nat FrameTransaction Nat String :=
  (Store.empty.pushWithOutcome 0 { data := txWithFees 10, id := 7 }).2

/-- Two resubmissions in a row, the first too low and the second replacing. -/
theorem fee_bump_exact_waitingSeven :
    RaisesBoth (txWithFees 10) (txWithFees 11) := by
  have rises := (fee_bump_exact (txWithFees 10) (txWithFees 11) {} 7 waitingSeven
    [.resubmit 1 { data := txWithFees 10, id := 7 }, .resubmit 2 { data := txWithFees 11, id := 7 }]
    (by decide) (by
      refine ⟨?_, ?_, trivial⟩
      · intro _ stored found
        cases found
        simp [AtEdge, Edge, Raised, txWithFees, Saturating.top]
      · intro _ stored found
        cases found
        simp [AtEdge, Edge, Raised, txWithFees, Saturating.top])).2 (txWithFees 10) (txWithFees 11)
    rfl rfl
  exact rises.resolve_left (by decide)

/-- A transaction without fees is replaced by one without fees, and one with the largest fees by one
with the same. -/
theorem equal_fees_replace :
    (isValidFeeBump (txWithFees 0) (txWithFees 0) = true ∧
      ¬ RaisesBoth (txWithFees 0) (txWithFees 0)) ∧
    isValidFeeBump (txWithFees (2 ^ 128 - 1)) (txWithFees (2 ^ 128 - 1)) = true ∧
      ¬ RaisesBoth (txWithFees (2 ^ 128 - 1)) (txWithFees (2 ^ 128 - 1)) := by
  refine ⟨⟨by decide +kernel, fun raised => ?_⟩, by decide +kernel, fun raised => ?_⟩
  · exact Nat.lt_irrefl _ raised.1.1
  · exact Nat.lt_irrefl _ raised.1.1

end OpenEngine.Api
