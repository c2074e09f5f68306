import OpenEngine.Queue.Cancellation

/-!
# The attempt counter

A pop counts an attempt and stamps the counter into the lease it issues; a requeue after a lost
lease counts one more, a deferral takes the pop's count back, and a `Nack` leaves it. So while a job
is live its counter is at least the number of its committed `Nack`s, and one more while it is
active.
-/

namespace OpenEngine.Queue

variable {ι δ ο ε : Type}

/-- The attempt is to be retried. -/
def JobResult.isNack : JobResult ο ε → Bool
  | .error (.nack _ _ _) => true
  | _ => false

/-- Pushes, replacements, pops and lease expiry. -/
def Op.isIntake : Op ι δ ο ε → Bool
  | .push _ _ | .replace _ _ | .pop _ _ _ | .expireLease _ _ => true
  | _ => false

namespace JobView

/-- A job nobody asked to cancel, whose counter covers its `Nack`s and is stamped into its lease. -/
structure Counted (view : JobView ι δ ο ε) (nacks : Nat) : Prop where
  exclusive : view.Exclusive
  uncancelled : ¬view.cancelling
  stamped : ∀ token ∈ view.leases, view.info.attempts = some token.attempts
  covered : 0 < view.live → (nacks : Int) + view.active.isSome.toNat ≤ view.info.attempts.getD 0

variable {view : JobView ι δ ο ε} {nacks : Nat} {options : QueueOptions}

/-- The job under a live lease has fewer `Nack`s than the lease says attempts. -/
theorem Counted.nacks_lt (counted : view.Counted nacks) {token : LeaseToken ι}
    (issued : token ∈ view.leases) : (nacks : Int) < token.attempts := by
  have active := (counted.exclusive.held token issued).1
  have covered := counted.covered (live_of_active active)
  rw [counted.stamped token issued, active] at covered
  simp only [Option.getD_some, Bool.toNat_true] at covered
  omega

/-- A job that was just created has no `Nack`. -/
theorem Counted.push (counted : view.Counted nacks) (fresh : ¬view.deduped) (now : Nat)
    (job : JobOptions ι δ) : (view.push now job).Counted 0 := by
  have exclusive := counted.exclusive.push fresh now job
  have dead : view.live = 0 := by
    by_contra present
    exact fresh (counted.exclusive.known (Nat.pos_of_ne_zero present))
  have idle := idle_of_live dead
  have bare := counted.exclusive.leases_empty idle
  have uncancelled := counted.uncancelled
  unfold JobView.push at exclusive ⊢
  dsimp only at exclusive ⊢
  split at exclusive
  · next delayed =>
    rw [if_pos delayed]
    exact ⟨exclusive, uncancelled, by simp [bare], by simp [idle]⟩
  · next undelayed =>
    rw [if_neg undelayed]
    exact ⟨exclusive, uncancelled, by simp [bare], by simp [idle]⟩

variable [DecidableEq ι]

/-- A pop keeps the counter covered and the job as live and as failed as it was. -/
theorem Counted.popEvent (counted : view.Counted nacks) (id : ι) {event : JobEvent ι δ ο ε}
    {now : Nat} {popId : String} (popped : event.OfPop now popId)
    (enabled : event.Enabled options view) :
    (JobView.apply options id view event).Counted nacks ∧
      (JobView.apply options id view event).live = view.live ∧
      (JobView.apply options id view event).failed = view.failed := by
  have unswept : ∀ at_, event ≠ .sweep at_ := by
    rintro at_ rfl
    exact counted.uncancelled enabled.1
  obtain ⟨live, -, failed, -, -, -, cancelling, -⟩ :=
    counted.exclusive.popEvent_frame options id popped enabled unswept
  have exclusive := (counted.exclusive.popEvent
    (fun requested => absurd requested counted.uncancelled) options id popped enabled).1
  refine ⟨⟨exclusive, cancelling ▸ counted.uncancelled, ?_, ?_⟩, live, failed⟩
  · intro token issued
    cases event with
    | requeue =>
      have bare := counted.exclusive.leases_empty_of_gone enabled.2
      simp [JobView.apply, bare] at issued
    | promote => exact counted.stamped token issued
    | lease at_ under =>
      have waiting : 0 < view.pending := enabled.1
      have bare := counted.exclusive.leases_empty (counted.exclusive.idle (by omega))
      simp only [JobView.apply, JobView.lease, bare] at issued ⊢
      split at issued
      · simp at issued
      · simp only [insert_empty_eq, Finset.mem_singleton] at issued
        rw [issued]
        rfl
    | drop => exact counted.stamped token issued
    | sweep at_ => exact absurd rfl (unswept at_)
    | _ => exact popped.elim
  · intro present
    rw [live] at present
    have covered := counted.covered present
    cases event with
    | requeue =>
      have active : view.active.isSome := enabled.1
      simp only [active, Bool.toNat_true] at covered
      simp only [JobView.apply, JobMeta.incrAttempts, Option.isSome_none, Bool.toNat_false,
        Option.getD_some]
      omega
    | promote => exact covered
    | lease at_ under =>
      have waiting : 0 < view.pending := enabled.1
      have idle := counted.exclusive.idle (by omega)
      simp only [idle, Option.isSome_none, Bool.toNat_false] at covered
      simp only [JobView.apply, JobView.lease, leasedInfo, JobMeta.incrAttempts,
        Option.isSome_some, Bool.toNat_true, Option.getD_some]
      omega
    | drop => exact covered
    | sweep at_ => exact absurd rfl (unswept at_)
    | _ => exact popped.elim

/-- A completion under a live lease counts its `Nack` and keeps the counter covered. -/
theorem Counted.complete (counted : view.Counted nacks) (now : Nat) (job : BorrowedJob ι δ)
    (issued : job.leaseToken ∈ view.leases) (result : JobResult ο ε) :
    (view.complete options now job result).Counted (nacks + result.isNack.toNat) := by
  have exclusive := counted.exclusive.complete options now job issued result
  obtain ⟨bare, -, -⟩ := counted.exclusive.endLease issued
  have uncancelled := counted.uncancelled
  have below := counted.nacks_lt issued
  have stamped := counted.stamped _ issued
  have unleased : ∀ token ∈ (view.complete options now job result).leases,
      (view.complete options now job result).info.attempts = some token.attempts := by
    rw [view.leases_complete options now job result, bare]
    simp
  cases result using JobResult.cases with
  | ok output =>
    refine ⟨exclusive, uncancelled, unleased, ?_⟩
    simp only [JobView.complete, JobView.endLease, JobResult.isNack, stamped, Option.isSome_none,
      Bool.toNat_false, Option.getD_some]
    omega
  | retry error delay position =>
    refine ⟨exclusive, uncancelled, unleased, ?_⟩
    simp only [JobView.complete, addError, JobView.endLease, JobResult.isNack, stamped,
      Option.isSome_none, Bool.toNat_false, Bool.toNat_true, Option.getD_some]
    omega
  | nack error position =>
    refine ⟨exclusive, uncancelled, unleased, ?_⟩
    simp only [JobView.complete, addError, JobView.endLease, JobResult.isNack, stamped,
      Option.isSome_none, Bool.toNat_false, Bool.toNat_true, Option.getD_some]
    omega
  | fail error =>
    refine ⟨exclusive, uncancelled, unleased, ?_⟩
    simp only [JobView.complete, addError, JobView.endLease, JobResult.isNack, stamped,
      Option.isSome_none, Bool.toNat_false, Option.getD_some]
    omega
  | defer delay position =>
    refine ⟨exclusive, uncancelled, unleased, ?_⟩
    simp only [JobView.complete, JobView.endLease, JobResult.isNack, stamped,
      JobMeta.incrAttempts, Option.isSome_none, Bool.toNat_false, Option.getD_some]
    omega

/-- A `Nack` leaves the job waiting for its next attempt. -/
theorem live_of_isNack (view : JobView ι δ ο ε) (now : Nat) (job : BorrowedJob ι δ)
    {result : JobResult ο ε} (asks : result.isNack) :
    0 < (view.complete options now job result).live := by
  cases result using JobResult.cases with
  | retry error delay position =>
    simp only [JobView.complete, live, Option.isSome_some, Bool.toNat_true]
    omega
  | nack error position =>
    simp only [JobView.complete, live]
    omega
  | _ => cases asks

end JobView

variable [LinearOrder ι]

/-- A job of the empty store is counted. -/
theorem Store.counted_empty (id : ι) : ((Store.empty : Store ι δ ο ε).view id).Counted 0 :=
  ⟨Store.exclusive_empty id, AList.notMem_empty id, by simp [Store.view, Store.empty],
    fun present => absurd present (Nat.lt_irrefl 0)⟩

variable {store : Store ι δ ο ε} {id : ι} {nacks : Nat}

/-- An intake operation that creates the job starts its count. -/
theorem Store.counted_created (counted : (store.view id).Counted nacks) (options : QueueOptions)
    (op : Op ι δ ο ε) (created : store.creates id op) :
    ((store.step options op).view id).Counted 0 := by
  cases op with
  | push now job =>
    simp only [Store.creates, decide_eq_true_eq] at created
    obtain ⟨rfl, made⟩ := created
    have fresh : job.id ∉ store.dedupe := by
      intro known
      rw [store.push_duplicate now job known] at made
      cases made
    rw [Store.step, store.view_push_self now job fresh]
    exact counted.push fresh now job
  | _ => contradiction

/-- Any other intake operation keeps the job's count, and keeps the job as live and as failed as it
was. -/
theorem Store.counted_intake (counted : (store.view id).Counted nacks) (options : QueueOptions)
    (op : Op ι δ ο ε) (intake : op.isIntake) (uncreated : store.creates id op = false) :
    ((store.step options op).view id).Counted nacks ∧
      ((store.step options op).view id).live = (store.view id).live ∧
      ((store.step options op).view id).failed = (store.view id).failed := by
  have idle (same : (store.step options op).view id = store.view id) :
      ((store.step options op).view id).Counted nacks ∧
        ((store.step options op).view id).live = (store.view id).live ∧
        ((store.step options op).view id).failed = (store.view id).failed := by
    rw [same]
    exact ⟨counted, rfl, rfl⟩
  cases op with
  | push now job =>
    apply idle
    by_cases named : job.id = id
    · have known : job.id ∈ store.dedupe := by
        by_contra fresh
        simp [Store.creates, named, store.push_created now job fresh] at uncreated
      rw [Store.step, store.push_duplicate now job known]
    · exact store.view_push_of_ne now job (Ne.symm named)
  | replace target data =>
    by_cases named : id = target
    · subst named
      rcases store.replace_cases id data with ⟨-, -, swapped⟩ | ⟨-, same⟩
      · rw [Store.step, swapped]
        refine ⟨⟨⟨⟨counted.exclusive.one, counted.exclusive.known, counted.exclusive.held⟩,
          fun _ => rfl, counted.exclusive.unfinished⟩, counted.uncancelled,
          counted.stamped, counted.covered⟩, rfl, rfl⟩
      · apply idle
        rw [Store.step, same]
    · exact idle (store.view_replace_of_ne data named)
  | pop now popId batchSize =>
    refine store.step_preserves options (.pop now popId batchSize) id
      (fun view => view.Counted nacks ∧ view.live = (store.view id).live ∧
        view.failed = (store.view id).failed) ?_ ⟨counted, rfl, rfl⟩
    rintro view event ⟨before, live, failed⟩ caused enabled
    obtain ⟨after, sameLive, sameFailed⟩ := before.popEvent id caused enabled
    exact ⟨after, sameLive.trans live, sameFailed.trans failed⟩
  | expireLease target token =>
    refine store.step_preserves options (.expireLease target token) id
      (fun view => view.Counted nacks ∧ view.live = (store.view id).live ∧
        view.failed = (store.view id).failed) ?_ ⟨counted, rfl, rfl⟩
    rintro view event ⟨before, live, failed⟩ ⟨-, rfl⟩ enabled
    refine ⟨⟨before.exclusive.apply options id _ enabled trivial, before.uncancelled, ?_,
      before.covered⟩, live, failed⟩
    intro other issued
    exact before.stamped other (Finset.mem_of_mem_erase issued)
  | _ => contradiction

/-- The attempts a worker is told are those of its lease, as far as they fit. -/
theorem Store.attempts_handedOut (options : QueueOptions) (op : Op ι δ ο ε)
    {job : BorrowedJob ι δ} (handed : job ∈ store.handedOut options op) :
    job.job.attempts = (parseU32 job.leaseToken.attempts).getD 1 := by
  obtain ⟨now, popId, batchSize, first, rest, rfl, -, -, issued⟩ :=
    store.handedOut_lease options op handed
  simp only [JobView.handed] at issued
  split at issued
  · simp at issued
  · rw [List.mem_singleton.mp issued]

end OpenEngine.Queue
