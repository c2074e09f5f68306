import OpenEngine.Api.SlotHistory

/-!
# Fee bumps of a waiting slot

A resubmission compares its fees with the transaction it has read and then swaps. When every swap
still finds that transaction, each replacement is a valid bump of what it overwrites, and the fees
of a waiting slot only rise.
-/

namespace OpenEngine.Api

open OpenEngine.Core Queue

/-- A fee with an absent one read as zero, as the encoder reads it. -/
def feeOf (fee : Option U128) : Nat := (fee.getD 0).toNat

/-- A bumped fee is not lower. -/
theorem feeOf_le_of_bumped {old new : Option U128} (higher : bumped old new) :
    feeOf old ≤ feeOf new := by
  cases old with
  | none => exact Nat.zero_le _
  | some old =>
    cases new with
    | none => contradiction
    | some new =>
      simp only [bumped, decide_eq_true_eq] at higher
      have fits : old.toNat ≤ Saturating.top 128 := Nat.le_sub_one_of_lt old.isLt
      exact (Saturating.le_add fits).trans higher

/-- Neither fee of the first transaction exceeds that of the second. -/
def FeesAtMost (old new : FrameTransaction) : Prop :=
  feeOf old.maxFeePerGas ≤ feeOf new.maxFeePerGas ∧
    feeOf old.maxPriorityFeePerGas ≤ feeOf new.maxPriorityFeePerGas

/-- A valid fee bump lowers neither fee. -/
theorem feesAtMost_of_bump {old new : FrameTransaction} (valid : isValidFeeBump old new) :
    FeesAtMost old new := by
  simp only [isValidFeeBump, Bool.and_eq_true] at valid
  exact ⟨feeOf_le_of_bumped valid.1, feeOf_le_of_bumped valid.2⟩

/-- Fees at most those of a second transaction are at most those of a third it bounds. -/
theorem FeesAtMost.trans {first second third : FrameTransaction} (left : FeesAtMost first second)
    (right : FeesAtMost second third) : FeesAtMost first third :=
  ⟨left.1.trans right.1, left.2.trans right.2⟩

variable {κ ι ο ε : Type} [LinearOrder ι] [DecidableEq κ]

/-- The operations of the workers: none writes a job's data. -/
def Action.isWork : Action κ ι ο ε → Bool
  | .request _ _ => true
  | .worker (.push _ _) | .worker (.replace _ _) | .worker (.reopen _ _) => false
  | .worker _ => true

/-- A request about to swap finds the transaction it read, or a job that refuses the swap: it is
active or finished, or there is no record of it any more. -/
def Progress.FindsRead (store : Store ι FrameTransaction ο ε) (slot : ι) : Progress → Prop
  | .swapping existing => store.jobData slot = some existing ∨ slot ∈ store.active ∨
      (store.jobMeta slot).finishedAt.isSome ∨ store.jobData slot = none
  | _ => True

instance (store : Store ι FrameTransaction ο ε) (slot : ι) :
    ∀ progress : Progress, Decidable (progress.FindsRead store slot)
  | .swapping existing => inferInstanceAs (Decidable (store.jobData slot = some existing ∨
      slot ∈ store.active ∨ (store.jobMeta slot).finishedAt.isSome ∨ store.jobData slot = none))
  | .pushing | .lookingUp | .readingMeta _ | .readingState | .releasing | .repushing
  | .answered _ => .isTrue trivial

/-- A request for the slot swaps only while it finds the transaction it read. -/
def Service.SwapsCurrent (requests : κ → JobOptions ι FrameTransaction) (slot : ι)
    (service : Service κ ι ο ε) : Action κ ι ο ε → Prop
  | .request who _ => (requests who).id = slot →
      (service.progress who).FindsRead service.store slot
  | .worker _ => True

instance (requests : κ → JobOptions ι FrameTransaction) (slot : ι) (service : Service κ ι ο ε) :
    ∀ action, Decidable (service.SwapsCurrent requests slot action)
  | .request who _ => inferInstanceAs (Decidable ((requests who).id = slot →
      (service.progress who).FindsRead service.store slot))
  | .worker _ => .isTrue trivial

variable {requests : κ → JobOptions ι FrameTransaction} {options : QueueOptions}
  {service : Service κ ι ο ε} {slot : ι}

/-- Every request about to swap has compared its fees with the transaction it read. -/
def Service.Compared (requests : κ → JobOptions ι FrameTransaction)
    (service : Service κ ι ο ε) : Prop :=
  ∀ who existing, service.progress who = .swapping existing →
    isValidFeeBump existing (requests who).data

/-- A command leads to a swap only after the comparison. -/
theorem Progress.compared_step {progress : Progress} {store : Store ι FrameTransaction ο ε}
    {now : Nat} {job : JobOptions ι FrameTransaction} {existing : FrameTransaction}
    (swapping : (progress.step store now job).2 = .swapping existing) :
    isValidFeeBump existing job.data := by
  cases progress with
  | pushing =>
    simp only [Progress.step] at swapping
    split at swapping <;> simp at swapping
  | lookingUp =>
    simp only [Progress.step] at swapping
    split at swapping <;> simp at swapping
  | readingMeta data =>
    simp only [Progress.step, afterLookup] at swapping
    split at swapping
    · simp at swapping
    split at swapping
    · rename_i valid
      simp only [Progress.swapping.injEq] at swapping
      subst swapping
      exact valid
    · simp at swapping
  | readingState =>
    simp only [Progress.step, afterState] at swapping
    split at swapping <;> simp at swapping
  | _ => simp [Progress.step] at swapping

/-- Every action keeps the comparisons made. -/
theorem Service.Compared.step (compared : service.Compared requests) (action : Action κ ι ο ε) :
    (service.step requests options action).Compared requests := by
  intro who existing swapping
  cases action with
  | worker op => exact compared who existing swapping
  | request turn now =>
    simp only [Service.step] at swapping
    by_cases same : who = turn
    · subst same
      rw [Function.update_self] at swapping
      exact Progress.compared_step swapping
    · rw [Function.update_of_ne same] at swapping
      exact compared who existing swapping

omit [DecidableEq κ] in
/-- A swap that the script accepts finds the transaction its request compared with. -/
theorem Service.found_of_swap (compared : service.Compared requests) {who : κ} {now : Nat}
    {existing : FrameTransaction}
    (current : service.SwapsCurrent requests (requests who).id (.request who now))
    (swapping : service.progress who = .swapping existing)
    (accepted : JobEvent.Enabled {} (service.store.view (requests who).id)
      (.replace (requests who).data)) :
    service.store.jobData (requests who).id = some existing ∧
      isValidFeeBump existing (requests who).data := by
  have idle : (requests who).id ∉ service.store.active := AList.lookup_eq_none.mp accepted.2.1
  have unfinished : (service.store.jobMeta (requests who).id).finishedAt = none := accepted.2.2
  have recorded : service.store.jobData (requests who).id ≠ none :=
    Option.isSome_iff_ne_none.mp accepted.1
  have found := current rfl
  simp only [swapping, Progress.FindsRead, idle, unfinished, recorded, Option.isSome_none,
    or_false, Bool.false_eq_true] at found
  exact ⟨found, compared who existing swapping⟩

/-- A request answered `replaced` overwrote a transaction that its own validly bumps. -/
theorem Service.replaced_cases (compared : service.Compared requests) {action : Action κ ι ο ε}
    (current : service.SwapsCurrent requests slot action)
    (answered : service.answer requests action = some (slot, .replaced)) :
    ∃ who now stored, action = .request who now ∧
      service.store.jobData slot = some stored ∧ isValidFeeBump stored (requests who).data ∧
      (service.step requests options action).store.jobData slot = some (requests who).data := by
  obtain ⟨who, now, response, rfl, rfl, unanswered, step, worded⟩ := Service.answer_cases answered
  rcases Progress.status_cases unanswered step with
    ⟨queued, -⟩ | ⟨-, existing, swapping, outcome⟩ | ⟨-, other⟩
  · rw [worded] at queued
    contradiction
  · rcases service.store.replace_cases (requests who).id (requests who).data with
      ⟨accepted, -, swapped⟩ | ⟨refused, -⟩
    · obtain ⟨found, valid⟩ := Service.found_of_swap compared current swapping accepted
      refine ⟨who, now, existing, rfl, found, valid, ?_⟩
      rw [Service.step_store, Service.command, swapping]
      exact congrArg JobView.data swapped
    · exact absurd (outcome worded) refused
  · exact absurd worded other

/-- An operation that neither pushes nor replaces keeps a job's data or deletes it. -/
theorem data_step (store : Store ι FrameTransaction ο ε) (options : QueueOptions)
    (op : Op ι FrameTransaction ο ε) (slot : ι)
    (reads : ∀ event, op.Causes slot event → (∀ now job, event ≠ .push now job) ∧
      ∀ data, event ≠ .replace data) :
    (store.step options op).jobData slot = store.jobData slot ∨
      (store.step options op).jobData slot = none := by
  refine store.step_preserves options op slot
    (fun view => view.data = store.jobData slot ∨ view.data = none) ?_ (.inl rfl)
  intro view event before caused _
  obtain ⟨noPush, noReplace⟩ := reads event caused
  cases event with
  | push now job => exact absurd rfl (noPush now job)
  | replace data => exact absurd rfl (noReplace data)
  | sweep now =>
    simp only [JobView.apply]
    split <;> exact before
  | complete now job result =>
    rw [JobView.apply, (view.complete_data options now job result).1]
    exact before
  | pruneSuccess kept =>
    simp only [JobView.apply, JobView.settleSucceeded]
    split
    · exact before
    · exact .inr rfl
  | pruneFailed kept =>
    simp only [JobView.apply, JobView.settleFailed]
    split
    · exact before
    · exact .inr rfl
  | _ => exact before

omit [DecidableEq κ] in
/-- A push that creates the slot's job answers its request `queued`. -/
theorem Service.answer_of_created {who : κ} {now : Nat}
    (pushes : service.progress who = .pushing ∨ service.progress who = .repushing)
    (fresh : (requests who).id ∉ service.store.dedupe) :
    service.answer requests (.request who now) = some ((requests who).id, .queued) := by
  have created := service.store.push_created now (requests who) fresh
  rcases pushes with pushing | repushing
  · obtain ⟨pushed, outcome⟩ : ∃ pushed,
        service.store.pushWithOutcome now (requests who) = (.created, pushed) :=
      ⟨_, Prod.ext created rfl⟩
    simp [Service.answer, pushing, Progress.step, outcome]
  · simp [Service.answer, repushing, Progress.step, created, afterRepush]

/-- Without a new job in the slot, an action leaves fees that are no lower. -/
theorem Service.fees_step (compared : service.Compared requests) {action : Action κ ι ο ε}
    (work : action.isWork) (current : service.SwapsCurrent requests slot action)
    (unqueued : service.answer requests action ≠ some (slot, .queued)) {new : FrameTransaction}
    (after : (service.step requests options action).store.jobData slot = some new) :
    ∃ old, service.store.jobData slot = some old ∧ FeesAtMost old new := by
  have kept (same : (service.step requests options action).store.jobData slot =
      service.store.jobData slot) :
      ∃ old, service.store.jobData slot = some old ∧ FeesAtMost old new :=
    ⟨new, same.symm.trans after, le_rfl, le_rfl⟩
  cases action with
  | worker op =>
    have reads : ∀ event, op.Causes slot event → (∀ now job, event ≠ .push now job) ∧
        ∀ data, event ≠ .replace data := by
      intro event caused
      cases op <;> cases event <;> simp_all [Op.Causes, JobEvent.OfPop, Action.isWork]
    rcases data_step service.store options op slot reads with same | gone
    · exact kept same
    · exact absurd (gone.symm.trans after) (by simp)
  | request who now =>
    have written := Service.step_store requests options service (.request who now)
    have pushed (pushes : service.progress who = .pushing ∨ service.progress who = .repushing) :
        (service.store.step options (.push now (requests who))).jobData slot =
          service.store.jobData slot := by
      by_cases named : slot = (requests who).id
      · subst named
        have known : (requests who).id ∈ service.store.dedupe := by
          by_contra fresh
          exact unqueued (Service.answer_of_created pushes fresh)
        rw [Store.step, service.store.push_duplicate now (requests who) known]
      · exact congrArg JobView.data (service.store.view_push_of_ne now (requests who) named)
    simp only [Service.command] at written
    cases progress : service.progress who with
    | pushing =>
      rw [progress] at written
      exact kept (by rw [written]; exact pushed (.inl progress))
    | repushing =>
      rw [progress] at written
      exact kept (by rw [written]; exact pushed (.inr progress))
    | swapping existing =>
      rw [progress] at written
      change _ = (service.store.tryReplacePendingData (requests who).id (requests who).data).2
        at written
      by_cases named : slot = (requests who).id
      · subst named
        rcases service.store.replace_cases (requests who).id (requests who).data with
          ⟨accepted, -, swapped⟩ | ⟨-, same⟩
        · obtain ⟨found, valid⟩ := Service.found_of_swap compared current progress accepted
          have swappedIn : (service.store.tryReplacePendingData (requests who).id
              (requests who).data).2.jobData (requests who).id = some (requests who).data :=
            congrArg JobView.data swapped
          rw [written, swappedIn] at after
          obtain rfl := Option.some.inj after
          exact ⟨existing, found, feesAtMost_of_bump valid⟩
        · exact kept (by rw [written, same])
      · have same := service.store.view_replace_of_ne (requests who).data named
        exact kept (by rw [written]; exact congrArg JobView.data same)
    | _ =>
      rw [progress] at written
      exact kept (by rw [written]; rfl)

section Runs

variable (requests : κ → JobOptions ι FrameTransaction) (options : QueueOptions) (slot : ι)

/-- Every state of a run has compared its pending swaps. -/
theorem Service.compared_run (actions : List (Action κ ι ο ε)) :
    (Transition.run (Service.step requests options) (Service.empty : Service κ ι ο ε)
      actions).Compared requests :=
  Transition.run_invariant (fun service : Service κ ι ο ε => service.Compared requests)
    (fun _ action compared _ => compared.step action) Service.empty actions nofun
    (Transition.along_of_forall Service.empty actions fun _ _ => trivial)

/-- However the commands of any number of requests interleave with the workers, as long as every
swap finds the transaction its request read: a request answered `replaced` overwrote a transaction
its own validly bumps, and over any stretch in which no new job takes the slot the stored fees do
not fall. -/
theorem Service.fees_never_fall (actions : List (Action κ ι ο ε))
    (work : ∀ action ∈ actions, action.isWork)
    (current : Transition.Along (Service.step requests options)
      (Service.SwapsCurrent requests slot) Service.empty actions) :
    let after := Transition.run (Service.step requests options) (Service.empty : Service κ ι ο ε)
    (∀ first action last, actions = first ++ action :: last →
      (after first).answer requests action = some (slot, .replaced) →
      ∃ who now stored, action = .request who now ∧
        (after first).store.jobData slot = some stored ∧
        isValidFeeBump stored (requests who).data ∧
        (after (first ++ [action])).store.jobData slot = some (requests who).data) ∧
    (∀ first middle last old new, actions = first ++ (middle ++ last) →
      Transition.Along (Service.step requests options)
        (fun service action => service.answer requests action ≠ some (slot, .queued))
        (after first) middle →
      (after first).store.jobData slot = some old →
      (after (first ++ middle)).store.jobData slot = some new → FeesAtMost old new) := by
  intro after
  refine ⟨?_, ?_⟩
  · rintro first action last rfl answered
    have here := ((Transition.along_append _ _ _).mp current).2.1
    rw [show after (first ++ [action]) = (after first).step requests options action by
      simp [after, Transition.run_append]]
    exact Service.replaced_cases (Service.compared_run requests options first) here answered
  · rintro first middle last old new rfl unqueued before stored
    have currentRest := ((Transition.along_append _ _ _).mp current).2
    have currentMiddle := ((Transition.along_append _ _ _).mp currentRest).1
    have workMiddle : ∀ action ∈ middle, action.isWork := fun action member =>
      work action (List.mem_append_right _ (List.mem_append_left _ member))
    have kept := Transition.run_invariant
      (fun service : Service κ ι ο ε => service.Compared requests ∧
        ∀ new, service.store.jobData slot = some new → FeesAtMost old new)
      (fun service action holds admitted => by
        obtain ⟨compared, bound⟩ := holds
        obtain ⟨⟨unqueuedHere, currentHere⟩, workHere⟩ := admitted
        refine ⟨compared.step action, fun new stored => ?_⟩
        obtain ⟨previous, found, higher⟩ :=
          Service.fees_step compared workHere currentHere unqueuedHere stored
        exact (bound previous found).trans higher)
      (after first) middle
      ⟨Service.compared_run requests options first, fun new found => by
        obtain rfl : old = new := Option.some.inj (before.symm.trans found)
        exact ⟨le_rfl, le_rfl⟩⟩
      ((unqueued.and currentMiddle).and (Transition.along_of_forall _ middle workMiddle))
    refine kept.2 new ?_
    rw [show after (first ++ middle) = Transition.run (Service.step requests options)
      (after first) middle from Transition.run_append _ _ _] at stored
    exact stored

end Runs

/-- The first request queues slot 7 with fee 10; two further requests, with fees 100 and 20, read
it and are about to swap. -/
def twoReadFee : List (Action Nat Nat Nat String) :=
  [.request 0 0, .request 1 1, .request 1 1, .request 1 1, .request 2 1, .request 2 1,
    .request 2 1]

/-- The fees of the three requests. -/
def feesOfThree (who : Nat) : Nat := if who = 0 then 10 else if who = 1 then 100 else 20

/-- One swap over the transaction it read raises the fees. -/
theorem Service.fees_never_fall_oneSwap :
    let actions := twoReadFee ++ [.request 1 2]
    let service := Transition.run (Service.step (slotSeven feesOfThree) {})
      (Service.empty : Service Nat Nat Nat String) actions
    service.progress 1 = .answered (afterSwap .replaced) ∧
      FeesAtMost (txWithFees 10) (txWithFees 100) := by
  intro actions service
  have rising := (Service.fees_never_fall (slotSeven feesOfThree) {} 7 actions (by decide)
    (by decide +kernel)).2 [.request 0 0] (actions.drop 1) [] (txWithFees 10) (txWithFees 100)
  exact ⟨by decide +kernel, rising rfl (by decide +kernel) (by decide +kernel)
    (by decide +kernel)⟩

/-- The second swap finds the transaction the first one has put there, which it never compared
with: it is answered `replaced` and takes the fee from 100 down to 20. -/
theorem Service.fees_fall :
    let before := Transition.run (Service.step (slotSeven feesOfThree) {})
      (Service.empty : Service Nat Nat Nat String) (twoReadFee ++ [.request 1 2])
    let after := before.step (slotSeven feesOfThree) {} (.request 2 3)
    before.store.jobData 7 = some (txWithFees 100) ∧
      before.answer (slotSeven feesOfThree) (.request 2 3) = some (7, .replaced) ∧
      after.store.jobData 7 = some (txWithFees 20) ∧
      isValidFeeBump (txWithFees 100) (txWithFees 20) = false := by
  decide +kernel

end OpenEngine.Api
