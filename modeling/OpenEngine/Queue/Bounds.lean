import OpenEngine.Queue.ErrorHistory

/-!
# Retention bounds

The prune scripts and `add_error_record` trim to the index one below the bound. At a bound of zero
that index is the last entry of the list, so the trim keeps everything; at any other bound the list
is within it. Between two trims a finished list grows by what is put on it, and a cancellation puts
an id on the failed list without a prune after it.
-/

namespace OpenEngine.Queue

variable {ι δ ο ε : Type}

/-- The two lists of finished jobs. -/
inductive FinishedList where
  | success
  | failed
deriving DecidableEq

/-- The entries of a finished list, newest first. -/
def Store.finished (store : Store ι δ ο ε) : FinishedList → List ι
  | .success => store.success
  | .failed => store.failed

/-- The bound configured for a finished list. -/
def QueueOptions.bound (options : QueueOptions) : FinishedList → Nat
  | .success => options.maxSuccess
  | .failed => options.maxFailed

/-- The prune script of a finished list. -/
def Op.prunes : FinishedList → Op ι δ ο ε → Bool
  | .success, .postSuccess => true
  | .failed, .postFail => true
  | _, _ => false

variable [LinearOrder ι]

/-- The ids an operation puts on a finished list, oldest first. -/
def Store.finishes (options : QueueOptions) (list : FinishedList) (store : Store ι δ ο ε) :
    Op ι δ ο ε → List ι
  | .complete _ job result =>
    if store.holdsLease job then
      match list, result with
      | .success, .ok _ | .failed, .error (.fail _) => [job.job.id]
      | _, _ => []
    else []
  | .cancel _ id =>
    if list = .failed ∧ (id ∈ store.pending ∨ id ∈ store.delayed) then [id] else []
  | .pop now popId batchSize =>
    if list = .failed then (store.popBatchJobs options now popId batchSize).cancelledJobs else []
  | _ => []

/-- What the operation trims is within its bound afterwards. -/
def Store.WithinBound (options : QueueOptions) (store : Store ι δ ο ε) (op : Op ι δ ο ε) : Prop :=
  match op with
  | .postSuccess => (store.step options op).success.length ≤ options.maxSuccess
  | .postFail => (store.step options op).failed.length ≤ options.maxFailed
  | .complete now job result =>
    store.holdsLease job → result.records now job ≠ [] →
      ((store.step options op).jobErrors job.job.id).length ≤ options.maxJobErrors
  | _ => True

/-- The bound of what the operation trims is at least one, or there is nothing to trim. -/
def Store.MeetsBound (options : QueueOptions) (store : Store ι δ ο ε) : Op ι δ ο ε → Prop
  | .postSuccess => 0 < options.maxSuccess ∨ store.success = []
  | .postFail => 0 < options.maxFailed ∨ store.failed = []
  | .complete now job result =>
    store.holdsLease job → result.records now job ≠ [] → 0 < options.maxJobErrors
  | _ => True

/-- A prune leaves its list trimmed to the bound. -/
theorem Store.finished_prune (options : QueueOptions) (list : FinishedList)
    (store : Store ι δ ο ε) (op : Op ι δ ο ε) (prunes : op.prunes list) :
    (store.step options op).finished list =
      Redis.ltrim (store.finished list) 0 ((options.bound list : Int) - 1) := by
  -- A prune that meets no tail does nothing; a list without a tail is not changed by the trim.
  have short (entries : List ι) (bound : Nat) (none : ¬0 < (entries.drop bound).length) :
      entries = Redis.ltrim entries 0 ((bound : Int) - 1) := by
    rw [List.length_drop] at none
    cases bound with
    | zero => rw [Redis.ltrim_zero]
    | succ bound =>
      rw [Redis.ltrim_to _ _ bound.succ_pos, List.take_of_length_le (by omega)]
  cases list with
  | success =>
    cases op with
    | postSuccess =>
      simp only [Store.step, Store.postSuccessCompletion, Store.finished, QueueOptions.bound,
        Redis.lrange_from]
      split
      · rfl
      · next none => exact short _ _ none
    | _ => contradiction
  | failed =>
    cases op with
    | postFail =>
      simp only [Store.step, Store.postFailCompletion, Store.finished, QueueOptions.bound,
        Redis.lrange_from]
      split
      · rfl
      · next none => exact short _ _ none
    | _ => contradiction

/-- Step 2 of the pop puts the ids it cancels on the failed list and leaves the success list. -/
theorem PopState.finished_sweep (now : Nat) (state : PopState ι δ ο ε) (id : ι) :
    ∃ cancelled, (state.sweepCancellation now id).cancelledJobs =
        state.cancelledJobs ++ cancelled ∧
      (state.sweepCancellation now id).store.failed = cancelled.reverse ++ state.store.failed ∧
      (state.sweepCancellation now id).store.success = state.store.success := by
  unfold PopState.sweepCancellation
  dsimp only
  split
  · exact ⟨[], (List.append_nil _).symm, rfl, rfl⟩
  · split
    · exact ⟨[], (List.append_nil _).symm, rfl, rfl⟩
    · exact ⟨[id], rfl, rfl, rfl⟩

/-- The pop puts the ids it cancels on the failed list and leaves the success list. -/
theorem Store.finished_pop (store : Store ι δ ο ε) (options : QueueOptions) (now : Nat)
    (popId : String) (batchSize : Nat) :
    let popped := store.popBatchJobs options now popId batchSize
    popped.store.failed = popped.cancelledJobs.reverse ++ store.failed ∧
      popped.store.success = store.success := by
  let lists (state : PopState ι δ ο ε) :=
    (state.cancelledJobs, state.store.failed, state.store.success)
  have cleaned := PopState.foldl_keeps PopState.cleanupLease lists (fun state id => by
    unfold PopState.cleanupLease
    split
    · split <;> rfl
    · rfl) store.active.keys { store }
  have swept (ids : List ι) (state : PopState ι δ ο ε) :
      ∃ cancelled, lists (ids.foldl (PopState.sweepCancellation now) state) =
        (state.cancelledJobs ++ cancelled, cancelled.reverse ++ state.store.failed,
          state.store.success) := by
    induction ids generalizing state with
    | nil => exact ⟨[], by simp [lists]⟩
    | cons id rest ih =>
      obtain ⟨first, told, failed, success⟩ := state.finished_sweep now id
      obtain ⟨later, after⟩ := ih (state.sweepCancellation now id)
      refine ⟨first ++ later, ?_⟩
      rw [List.foldl_cons, after, told, failed, success]
      simp
  have promoted := PopState.foldl_keeps (PopState.promoteDelayed (ι := ι)) lists fun state id => by
    unfold PopState.promoteDelayed
    dsimp only
    split <;> rfl
  have leased := PopState.foldl_keeps (PopState.leaseJob options now popId) lists fun state id => by
    unfold PopState.leaseJob
    split <;> rfl
  have whole : ∃ cancelled, lists (store.popBatchJobs options now popId batchSize) =
      (cancelled, cancelled.reverse ++ store.failed, store.success) := by
    unfold Store.popBatchJobs
    dsimp only
    rw [leased]
    obtain ⟨cancelled, after⟩ := swept
      (store.active.keys.foldl PopState.cleanupLease { store }).store.pendingCancellations.keys
      (store.active.keys.foldl PopState.cleanupLease { store })
    refine ⟨cancelled, (promoted _ _).trans (after.trans ?_)⟩
    simp only [lists, Prod.mk.injEq] at cleaned
    obtain ⟨told, failed, success⟩ := cleaned
    rw [told, failed, success]
    rfl
  obtain ⟨cancelled, after⟩ := whole
  simp only [lists, Prod.mk.injEq] at after
  obtain ⟨told, failed, success⟩ := after
  exact ⟨by rw [told, failed], success⟩

/-- The push script leaves the finished lists. -/
theorem Store.finished_push (store : Store ι δ ο ε) (now : Nat) (job : JobOptions ι δ)
    (list : FinishedList) :
    (store.pushWithOutcome now job).2.finished list = store.finished list := by
  unfold Store.pushWithOutcome
  dsimp only
  cases list <;> (split; rfl; split <;> rfl)

/-- A committed success or failure puts its id on its list. -/
theorem Store.finished_completion (store : Store ι δ ο ε) (options : QueueOptions) (now : Nat)
    (job : BorrowedJob ι δ) (result : JobResult ο ε) (list : FinishedList) :
    (store.applyCompletion options now job result).finished list =
      (match list, result with
        | .success, .ok _ | .failed, .error (.fail _) => [job.job.id]
        | _, _ => []).reverse ++ store.finished list := by
  have released (store : Store ι δ ο ε) (id : ι) :
      (store.releaseActive options id).finished list = store.finished list := by
    unfold Store.releaseActive
    split <;> rfl
  cases result using JobResult.cases with
  | ok output =>
    simp only [Store.applyCompletion, Store.addSuccessOps, released]
    cases list <;> rfl
  | retry error delay position => cases list <;> rfl
  | nack error position => cases list <;> cases position <;> rfl
  | fail error =>
    simp only [Store.applyCompletion, Store.addFailOps, released]
    cases list <;> rfl
  | defer delay position => cases list <;> rfl

/-- The cancel script puts a waiting id on the failed list. -/
theorem Store.finished_cancel (store : Store ι δ ο ε) (now : Nat) (id : ι) (list : FinishedList) :
    (store.cancelJob now id).2.finished list =
      (if list = .failed ∧ (id ∈ store.pending ∨ id ∈ store.delayed) then [id]
        else []).reverse ++ store.finished list := by
  unfold Store.cancelJob
  by_cases listed : id ∈ store.pending
  · rw [if_pos listed]
    cases list <;> simp [listed, Store.finished, Store.cancelNow, Store.setMeta]
  · by_cases delayed : id ∈ store.delayed
    · rw [if_neg listed, if_pos delayed]
      cases list <;> simp [delayed, Store.finished, Store.cancelNow, Store.setMeta]
    · rw [if_neg listed, if_neg delayed]
      split <;> cases list <;> simp [listed, delayed, Store.finished]

/-- Every operation but the prune of a finished list puts the ids it finishes on top of it. -/
theorem Store.finished_step (options : QueueOptions) (list : FinishedList)
    (store : Store ι δ ο ε) (op : Op ι δ ο ε) (other : op.prunes list = false) :
    (store.step options op).finished list =
      (store.finishes options list op).reverse ++ store.finished list := by
  cases op with
  | push now job => exact store.finished_push now job list
  | replace id data =>
    simp only [Store.step, Store.tryReplacePendingData]
    cases list <;> (split; rfl; split; rfl; split <;> rfl)
  | pop now popId batchSize =>
    obtain ⟨failed, success⟩ := store.finished_pop options now popId batchSize
    cases list with
    | success => exact success
    | failed => exact failed
  | complete now job result =>
    simp only [Store.step, Store.complete, Store.finishes]
    split
    · exact store.finished_completion options now job result list
    · rfl
  | expireLease id token => cases list <;> rfl
  | postSuccess =>
    cases list with
    | success => contradiction
    | failed =>
      simp only [Store.step, Store.postSuccessCompletion, Store.finished, Store.finishes]
      split
      · exact Transition.run_keeps Store.failed (fun store id => by
          unfold Store.pruneSucceeded
          split <;> rfl) store _
      · rfl
  | postFail =>
    cases list with
    | success =>
      simp only [Store.step, Store.postFailCompletion, Store.finished, Store.finishes]
      split
      · exact Transition.run_keeps Store.success (fun store id => by
          unfold Store.pruneFailed
          split <;> rfl) store _
      · rfl
    | failed => contradiction
  | cancel now id =>
    exact store.finished_cancel now id list
  | release id => cases list <;> rfl
  | reopen now job =>
    simp only [Store.step, Store.retryFailedSlot]
    split
    · rw [Store.finished_push]
      cases list <;> rfl
    · rfl

/-- Trimming after a record was put on top keeps the list within the bound. -/
theorem Store.records_complete (store : Store ι δ ο ε) (options : QueueOptions) (now : Nat)
    (job : BorrowedJob ι δ) (result : JobResult ο ε) (recorded : result.records now job ≠ []) :
    ((store.applyCompletion options now job result).jobErrors job.job.id) =
      Redis.ltrim (result.records now job ++ store.jobErrors job.job.id) 0
        ((options.maxJobErrors : Int) - 1) := by
  have view := congrArg JobView.errors
    (store.view_applyCompletion_self options now job result)
  refine view.trans ?_
  cases result using JobResult.cases with
  | ok output => exact absurd rfl recorded
  | retry error delay position => rfl
  | nack error position => rfl
  | fail error => rfl
  | defer delay position => exact absurd rfl recorded

/-- An operation is within the bound it trims to exactly if the bound is met. -/
theorem Store.withinBound_iff (options : QueueOptions) (store : Store ι δ ο ε)
    (op : Op ι δ ο ε) : store.WithinBound options op ↔ store.MeetsBound options op := by
  cases op with
  | postSuccess =>
    have trimmed := store.finished_prune options .success .postSuccess rfl
    simp only [Store.finished, QueueOptions.bound] at trimmed
    simp only [Store.WithinBound, Store.MeetsBound, trimmed, Redis.length_ltrim_le_iff]
  | postFail =>
    have trimmed := store.finished_prune options .failed .postFail rfl
    simp only [Store.finished, QueueOptions.bound] at trimmed
    simp only [Store.WithinBound, Store.MeetsBound, trimmed, Redis.length_ltrim_le_iff]
  | complete now job result =>
    refine forall_congr' fun holds => forall_congr' fun recorded => ?_
    rw [Store.step, Store.complete, if_pos holds, store.records_complete _ _ _ _ recorded,
      Redis.length_ltrim_le_iff]
    exact or_iff_left fun none => recorded (List.append_eq_nil_iff.mp none).1
  | _ => exact Iff.rfl

/-- No event takes the error list of a job over its bound. -/
theorem JobView.errors_apply {view : JobView ι δ ο ε} {options : QueueOptions}
    (retained : 0 < options.maxJobErrors) (id : ι) (event : JobEvent ι δ ο ε)
    (bounded : view.errors.length ≤ options.maxJobErrors) :
    (JobView.apply options id view event).errors.length ≤ options.maxJobErrors := by
  have trimmed (records : List (JobErrorRecord ε)) :
      (Redis.ltrim records 0 ((options.maxJobErrors : Int) - 1)).length ≤ options.maxJobErrors :=
    (Redis.length_ltrim_le_iff records _).mpr (.inl retained)
  cases event with
  | push now job =>
    simp only [JobView.apply, JobView.push]
    split <;> exact Nat.zero_le _
  | sweep now =>
    simp only [JobView.apply]
    split <;> exact bounded
  | complete now job result =>
    cases result using JobResult.cases with
    | ok output => exact bounded
    | retry error delay position => exact trimmed _
    | nack error position => exact trimmed _
    | fail error => exact trimmed _
    | defer delay position => exact bounded
  | pruneSuccess kept =>
    simp only [JobView.apply, settleSucceeded]
    split
    · exact bounded
    · exact Nat.zero_le _
  | pruneFailed kept =>
    simp only [JobView.apply, settleFailed]
    split
    · exact bounded
    · exact Nat.zero_le _
  | _ => exact bounded

/-- In every reachable state every error list is within its bound. -/
theorem Store.errors_bounded (options : QueueOptions) (retained : 0 < options.maxJobErrors)
    (ops : List (Op ι δ ο ε)) (id : ι) :
    ((Transition.run (Store.step options) Store.empty ops).jobErrors id).length ≤
      options.maxJobErrors := by
  refine Transition.run_always
    (fun store : Store ι δ ο ε => (store.jobErrors id).length ≤ options.maxJobErrors) ?_ Store.empty
    ops (Nat.zero_le _)
  intro store op bounded
  exact store.step_preserves options op id (fun view => view.errors.length ≤ options.maxJobErrors)
    (fun view event bounded _ _ => JobView.errors_apply retained id event bounded) bounded

/-- What a run from an empty store leaves of each list under its bound. -/
structure Store.Retains (options : QueueOptions) (ops : List (Op ι δ ο ε)) (store : Store ι δ ο ε) :
    Prop where
  /-- A finished list holds its bound and what was finished since its last prune at most. -/
  bounded : ∀ list, 0 < options.bound list → (store.finished list).length ≤ options.bound list +
    (Transition.since (Store.step options) (Store.finishes options list) (Op.prunes list) []
      Store.empty ops).length
  /-- A list whose bound is zero holds everything that was ever finished. -/
  unbounded : ∀ list, options.bound list = 0 → store.finished list =
    (Transition.trace (Store.step options) (Store.finishes options list) Store.empty ops).reverse
  /-- Every error list is within a bound of at least one. -/
  errors : 0 < options.maxJobErrors → ∀ id, (store.jobErrors id).length ≤ options.maxJobErrors

/-- A trim keeps to its bound exactly if the bound is at least one or nothing is there to trim; and
in every run the lists keep to bounds of at least one, as far as they are pruned, while a bound of
zero drops nothing. -/
theorem Store.retention_bounds_iff (options : QueueOptions) :
    (∀ (store : Store ι δ ο ε) (op : Op ι δ ο ε),
      store.WithinBound options op ↔ store.MeetsBound options op) ∧
    ∀ ops : List (Op ι δ ο ε),
      (Transition.run (Store.step options) Store.empty ops).Retains options ops := by
  refine ⟨Store.withinBound_iff options, fun ops => ⟨?_, ?_, ?_⟩⟩
  · intro list positive
    refine Transition.run_le_since (fun store : Store ι δ ο ε => (store.finished list).length)
      (options.bound list) (Op.prunes list) ?_ ?_ [] Store.empty ops ?_
    · intro store op prunes
      rw [store.finished_prune options list op prunes, Redis.length_ltrim_le_iff]
      exact .inl positive
    · intro store op other
      rw [store.finished_step options list op other, List.length_append, List.length_reverse]
      omega
    · cases list <;> exact Nat.zero_le _
  · intro list zero
    refine Transition.run_traced (Store.finishes options list)
      (fun (store : Store ι δ ο ε) told => store.finished list = told.reverse) ?_ Store.empty ops []
      ?_ (Transition.along_true _ ops)
    · intro store op told same _
      by_cases prunes : op.prunes list
      · have silent : store.finishes options list op = [] := by
          cases op <;> first | rfl | (cases list <;> contradiction)
        rw [store.finished_prune options list op prunes, zero, Redis.ltrim_zero, same, silent,
          List.append_nil]
      · rw [store.finished_step options list op (by simpa using prunes), same, List.reverse_append]
    · cases list <;> rfl
  · exact fun retained id => Store.errors_bounded options retained ops id

/-- Job 7 succeeds and job 8 fails, each with its prune. -/
def finishBoth : List (Op Nat String Nat String) :=
  [.push 0 { data := "tx", id := 7 },
    .pop 0 "a" 1,
    .complete 1 (borrowedAt 7 0 1 "a") (.ok 5),
    .postSuccess,
    .push 2 { data := "tx", id := 8 },
    .pop 2 "b" 1,
    .complete 3 (borrowedAt 8 2 1 "b") (.error (.fail "down")),
    .postFail]

/-- With all bounds at zero the error record of `finishBoth` stays, and both lists keep their entry
through the prunes. -/
theorem Store.zero_bounds_keep_all :
    let options : QueueOptions := { maxSuccess := 0, maxFailed := 0, maxJobErrors := 0 }
    let after (steps : Nat) :=
      Transition.run (Store.step options) Store.empty (finishBoth.take steps)
    ((after 4).success = [7] ∧ ((after 7).jobErrors 8).length = 1 ∧ (after 8).failed = [8]) ∧
      ¬∀ (store : Store Nat String Nat String) op, store.WithinBound options op := by
  intro options after
  have kept : (after 4).success = [7] ∧ ((after 7).jobErrors 8).length = 1 ∧
      (after 8).failed = [8] := by
    decide +kernel
  refine ⟨kept, fun within => ?_⟩
  have bounded : ((after 3).step options .postSuccess).success.length ≤ 0 :=
    within (after 3) .postSuccess
  have pruned : ((after 3).step options .postSuccess).success.length = 1 := by decide +kernel
  omega

/-- Job after job is pushed and cancelled while it waits. -/
def cancelEach (data : δ) (jobs : Nat) : List (Op Nat δ ο ε) :=
  (List.range jobs).flatMap fun id => [.push 0 { data, id }, .cancel 0 id]

/-- Whatever the bounds, cancelling jobs while they wait fills the failed list with all of them. -/
theorem Store.failed_cancelEach (options : QueueOptions) (data : δ) (jobs : Nat) :
    (Transition.run (Store.step options) (Store.empty : Store Nat δ ο ε)
      (cancelEach data jobs)).failed = (List.range jobs).reverse := by
  -- The invariant: the cancelled jobs wait nowhere, and later ids are unknown.
  let after (jobs : Nat) := Transition.run (Store.step options) (Store.empty : Store Nat δ ο ε)
    (cancelEach data jobs)
  have cancelled : (after jobs).pending = [] ∧ (∀ id ∈ (after jobs).dedupe, id < jobs) ∧
      (after jobs).failed = (List.range jobs).reverse := by
    induction jobs with
    | zero => exact ⟨rfl, by simp [after, cancelEach, Store.empty], rfl⟩
    | succ jobs ih =>
      obtain ⟨idle, known, failed⟩ := ih
      have split : after (jobs + 1) =
          ((after jobs).step options (.push 0 { data, id := jobs })).step options
            (.cancel 0 jobs) := by
        simp only [after, cancelEach, List.range_succ, List.flatMap_append, Transition.run_append]
        rfl
      have fresh : jobs ∉ (after jobs).dedupe := fun member => absurd (known jobs member) (by omega)
      rw [split]
      generalize after jobs = store at idle known failed fresh
      have now : delayToQueueSeconds Duration.zero = 0 := rfl
      have later : ∀ id ∈ store.dedupe, id < jobs + 1 :=
        fun id member => (known id member).trans jobs.lt_succ_self
      simpa [Store.step, Store.pushWithOutcome, fresh, now, Store.cancelJob, Store.cancelNow,
        Store.setMeta, idle, failed, List.range_succ] using later
  exact cancelled.2.2

/-- `max_job_errors as isize - 1`, wrapping at 64 bits. -/
def errorsStop (maxJobErrors : Nat) : Int := (BitVec.ofNat 64 maxJobErrors - 1#64).toInt

/-- The wrapped index is the exact one below 2^63. -/
theorem errorsStop_eq (maxJobErrors : Nat) (small : maxJobErrors < 2 ^ 63) :
    errorsStop maxJobErrors = (maxJobErrors : Int) - 1 := by
  unfold errorsStop
  have one : (1#64).toInt = 1 := by decide
  rw [BitVec.toInt_sub, BitVec.toInt_eq_toNat_bmod, BitVec.toNat_ofNat, one, Int.bmod_def,
    Int.bmod_def]
  omega

/-- From 2^63 on the wrapped index still leaves no more entries than the bound. -/
theorem length_ltrim_errorsStop {α : Type} (records : List α) (maxJobErrors : Nat)
    (huge : 2 ^ 63 ≤ maxJobErrors) (stored : records.length < 2 ^ 63) :
    (Redis.ltrim records 0 (errorsStop maxJobErrors)).length ≤ maxJobErrors := by
  have kept := Redis.length_ltrim_le records 0 (errorsStop maxJobErrors)
  omega

end OpenEngine.Queue
