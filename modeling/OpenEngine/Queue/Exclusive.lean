import OpenEngine.Queue.SoleEntry

/-!
# A live job keeps its record

A job has at most one live entry and lease, and keeps its record while it has one. Every operation
keeps this, apart from three that can go wrong and do so in states that can be named: a prune that
meets a delayed id in its tail, a pop that carries out the cancellation of a job that is waiting
again, and the release of the dedupe entry of a job that is still live.
-/

namespace OpenEngine.Queue

variable {ι δ ο ε : Type}

namespace JobView

/-- At most one live entry, whose record is kept, and at most one live lease key. -/
structure Exclusive (view : JobView ι δ ο ε) : Prop extends SoleEntry view where
  /-- A live job has its data. -/
  stored : 0 < view.live → view.data.isSome
  /-- A live job is not finished. -/
  unfinished : 0 < view.live → view.info.finishedAt = none

variable {view : JobView ι δ ο ε}

/-- A job with no live entry and no live lease key is exclusive. -/
theorem exclusive_of_dead (dead : view.live = 0) (bare : view.leases = ∅) : view.Exclusive :=
  ⟨soleEntry_of_bare (by omega) (by omega) bare, by omega, by omega⟩

/-- A job with one live entry, its record and no live lease key is exclusive. -/
theorem exclusive_of_one (one : view.live = 1) (known : view.deduped) (stored : view.data.isSome)
    (unfinished : view.info.finishedAt = none) (bare : view.leases = ∅) : view.Exclusive :=
  ⟨soleEntry_of_bare one.le (fun _ => known) bare, fun _ => stored, fun _ => unfinished⟩

/-- Pushing an unknown job gives it one live entry. -/
theorem Exclusive.push (exclusive : view.Exclusive) (fresh : ¬view.deduped) (now : Nat)
    (job : JobOptions ι δ) : (view.push now job).Exclusive := by
  have dead : view.live = 0 := by
    by_contra present
    exact fresh (exclusive.known (Nat.pos_of_ne_zero present))
  have bare := exclusive.leases_empty (idle_of_live dead)
  unfold live at dead
  unfold JobView.push
  dsimp only
  split
  · refine exclusive_of_one ?_ trivial rfl rfl bare
    simp only [live, Option.isSome_some, Bool.toNat_true]
    omega
  · refine exclusive_of_one ?_ trivial rfl rfl bare
    simp only [live]
    omega

/-- A job that is neither live to the prune scripts nor delayed has no live entry. -/
theorem live_eq_zero (unseen : view.isLive = false) (undelayed : view.delayed = none) :
    view.live = 0 := by
  simp only [isLive, Bool.or_eq_false_iff, decide_eq_false_iff_not] at unseen
  simp only [live, unseen.1, undelayed, Option.isSome_none, Bool.toNat_false]
  omega

/-- A job that is live to the prune scripts has a live entry. -/
theorem live_of_isLive (seen : view.isLive) : 0 < view.live := by
  simp only [isLive, Bool.or_eq_true, decide_eq_true_eq] at seen
  rcases seen with active | waiting
  · exact live_of_active active
  · unfold live
    omega

/-- A job that is live to the prune scripts is not delayed. -/
theorem Exclusive.undelayed_of_isLive (exclusive : view.Exclusive) (seen : view.isLive) :
    view.delayed = none := by
  have bound := exclusive.one
  simp only [isLive, Bool.or_eq_true, decide_eq_true_eq] at seen
  cases delayed : view.delayed with
  | none => rfl
  | some until_ =>
    simp only [live, delayed, Option.isSome_some, Bool.toNat_true] at bound
    rcases seen with active | waiting
    · simp only [active, Bool.toNat_true] at bound
      omega
    · omega

variable [DecidableEq ι] (options : QueueOptions) (id : ι)

/-- Requeuing a job whose lease is gone. -/
theorem Exclusive.requeue (exclusive : view.Exclusive) (active : view.active.isSome)
    (gone : view.LeaseGone) : (apply options id view .requeue).Exclusive := by
  have bare := exclusive.leases_empty_of_gone gone
  have present := live_of_active active
  have moved := live_requeue options id active
  have bound := exclusive.one
  exact exclusive_of_one (by omega) (exclusive.known present) (exclusive.stored present)
    (exclusive.unfinished present) bare

/-- Promoting a delayed job. -/
theorem Exclusive.promote (exclusive : view.Exclusive) (delayed : view.delayed.isSome) :
    (apply options id view .promote).Exclusive := by
  have waiting : 0 < view.pending + view.delayed.isSome.toNat := by
    simp only [delayed, Bool.toNat_true]
    omega
  have bare := exclusive.leases_empty (exclusive.idle waiting)
  have present : 0 < view.live := by
    unfold live
    omega
  have moved := live_promote options id delayed
  have bound := exclusive.one
  exact exclusive_of_one (by omega) (exclusive.known present) (exclusive.stored present)
    (exclusive.unfinished present) bare

/-- Leasing a pending job: the token the pop issues is its only live lease key. -/
theorem Exclusive.lease (exclusive : view.Exclusive) (waiting : 0 < view.pending) (now : Nat)
    (popId : String) : (view.lease options id now popId).Exclusive := by
  have present : 0 < view.live := by
    unfold live
    omega
  exact
    { toSoleEntry := exclusive.toSoleEntry.lease options id waiting now popId
      stored := fun _ => exclusive.stored present
      unfinished := fun _ => exclusive.unfinished present }

/-- A completion under a live lease. -/
theorem Exclusive.complete (exclusive : view.Exclusive) (now : Nat) (job : BorrowedJob ι δ)
    (issued : job.leaseToken ∈ view.leases) (result : JobResult ο ε) :
    (view.complete options now job result).Exclusive := by
  obtain ⟨bare, present, -⟩ := exclusive.endLease issued
  have left := exclusive.live_complete options now job issued result
  have known := exclusive.known present
  have stored := exclusive.stored present
  have unfinished := exclusive.unfinished present
  cases result using JobResult.cases with
  | ok output => exact exclusive_of_dead left bare
  | retry error delay position => exact exclusive_of_one left known stored unfinished bare
  | nack error position => exact exclusive_of_one left known stored unfinished bare
  | fail error => exact exclusive_of_dead left bare
  | defer delay position => exact exclusive_of_one left known stored unfinished bare

end JobView

/-- The states in which an event keeps the job exclusive. -/
def JobEvent.Safe (view : JobView ι δ ο ε) : JobEvent ι δ ο ε → Prop
  | .sweep _ => view.live = 0
  | .pruneSuccess _ | .pruneFailed _ => view.delayed = none
  | .release => view.live = 0
  | _ => True

/-- Every safe event keeps the job exclusive. -/
theorem JobView.Exclusive.apply [DecidableEq ι] {view : JobView ι δ ο ε}
    (exclusive : view.Exclusive) (options : QueueOptions) (id : ι) (event : JobEvent ι δ ο ε)
    (enabled : event.Enabled options view) (safe : event.Safe view) :
    (JobView.apply options id view event).Exclusive := by
  cases event with
  | push now job => exact exclusive.push enabled now job
  | replace data =>
    exact ⟨⟨exclusive.one, exclusive.known, exclusive.held⟩, fun _ => rfl, exclusive.unfinished⟩
  | requeue => exact exclusive.requeue options id enabled.1 enabled.2
  | sweep now =>
    have bare := exclusive.leases_empty (idle_of_live safe)
    simp only [JobView.apply]
    split <;> exact exclusive_of_dead safe bare
  | promote => exact exclusive.promote options id enabled
  | lease now popId => exact exclusive.lease options id enabled.1 now popId
  | drop =>
    have waiting : 0 < view.pending := enabled.1
    have stored := exclusive.stored (by unfold live; omega)
    rw [enabled.2] at stored
    contradiction
  | complete now job result => exact exclusive.complete options now job enabled result
  | expire token =>
    refine ⟨⟨exclusive.one, exclusive.known, ?_⟩, exclusive.stored, exclusive.unfinished⟩
    intro other present
    exact exclusive.held other (Finset.mem_of_mem_erase present)
  | pruneSuccess kept =>
    simp only [JobView.apply, settleSucceeded]
    split
    · exact ⟨⟨exclusive.one, exclusive.known, exclusive.held⟩, exclusive.stored,
        exclusive.unfinished⟩
    · rename_i unseen
      have dead := live_eq_zero (by simpa using unseen) safe
      exact exclusive_of_dead dead (exclusive.leases_empty (idle_of_live dead))
  | pruneFailed kept =>
    simp only [JobView.apply, settleFailed]
    split
    · exact ⟨⟨exclusive.one, exclusive.known, exclusive.held⟩, exclusive.stored,
        exclusive.unfinished⟩
    · rename_i unseen
      have dead := live_eq_zero (by simpa using unseen) safe
      exact exclusive_of_dead dead (exclusive.leases_empty (idle_of_live dead))
  | cancelNow now =>
    obtain ⟨dead, bare⟩ := exclusive.cancelNow options id enabled now
    exact exclusive_of_dead dead bare
  | cancelLater =>
    exact ⟨⟨exclusive.one, exclusive.known, exclusive.held⟩, exclusive.stored,
      exclusive.unfinished⟩
  | release => exact exclusive_of_dead safe (exclusive.leases_empty (idle_of_live safe))

/-- A pop that carries out no cancellation moves a job between the live containers and changes
nothing of its record. -/
theorem JobView.Exclusive.popEvent_frame [DecidableEq ι] {view : JobView ι δ ο ε}
    (exclusive : view.Exclusive) (options : QueueOptions) (id : ι) {event : JobEvent ι δ ο ε}
    {now : Nat} {popId : String} (popped : event.OfPop now popId)
    (enabled : event.Enabled options view) (unswept : ∀ at_, event ≠ .sweep at_) :
    let next := JobView.apply options id view event
    next.live = view.live ∧ next.success = view.success ∧ next.failed = view.failed ∧
      next.data = view.data ∧ next.result = view.result ∧ next.deduped = view.deduped ∧
      next.cancelling = view.cancelling ∧ next.info.finishedAt = view.info.finishedAt := by
  cases event with
  | requeue => exact ⟨live_requeue options id enabled.1, rfl, rfl, rfl, rfl, rfl, rfl, rfl⟩
  | promote => exact ⟨live_promote options id enabled, rfl, rfl, rfl, rfl, rfl, rfl, rfl⟩
  | lease at_ under =>
    have waiting : 0 < view.pending := enabled.1
    have idle := exclusive.idle (by omega)
    exact ⟨live_leased idle waiting rfl rfl rfl, rfl, rfl, rfl, rfl, rfl, rfl, rfl⟩
  | drop =>
    have waiting : 0 < view.pending := enabled.1
    have stored := exclusive.stored (by unfold live; omega)
    rw [enabled.2] at stored
    contradiction
  | sweep at_ => exact absurd rfl (unswept at_)
  | _ => exact popped.elim

/-- A completion takes away the lease key it runs under. -/
theorem JobView.leases_complete [DecidableEq ι] (view : JobView ι δ ο ε) (options : QueueOptions)
    (now : Nat) (job : BorrowedJob ι δ) (result : JobResult ο ε) :
    (view.complete options now job result).leases = view.leases.erase job.leaseToken := by
  cases result using JobResult.cases with
  | ok output => rfl
  | retry error delay position => rfl
  | nack error position => rfl
  | fail error => rfl
  | defer delay position => rfl

/-- What an event does to the lease keys: nothing, or a pop issues one, or one goes. -/
theorem JobView.leases_cases [DecidableEq ι] (view : JobView ι δ ο ε) (options : QueueOptions)
    (id : ι) (event : JobEvent ι δ ο ε) :
    (JobView.apply options id view event).leases = view.leases ∨
    (∃ now popId, event = .lease now popId ∧ (JobView.apply options id view event).leases =
      if options.leaseDuration.secs = 0 then
        view.leases.erase (nextToken id now popId view.info)
      else insert (nextToken id now popId view.info) view.leases) ∨
    ∃ token, (JobView.apply options id view event).leases = view.leases.erase token ∧
      ((∃ now job result, event = .complete now job result ∧ token = job.leaseToken) ∨
        event = .expire token) := by
  cases event with
  | push now job =>
    left
    simp only [JobView.apply, JobView.push]
    split <;> rfl
  | sweep now =>
    left
    simp only [JobView.apply]
    split <;> rfl
  | lease now popId => exact .inr (.inl ⟨now, popId, rfl, rfl⟩)
  | complete now job result =>
    exact .inr (.inr ⟨job.leaseToken, view.leases_complete options now job result,
      .inl ⟨now, job, result, rfl, rfl⟩⟩)
  | expire token => exact .inr (.inr ⟨token, rfl, .inr rfl⟩)
  | pruneSuccess kept =>
    left
    simp only [JobView.apply, settleSucceeded]
    split <;> rfl
  | pruneFailed kept =>
    left
    simp only [JobView.apply, settleFailed]
    split <;> rfl
  | _ => exact .inl rfl

/-- A requested cancellation of the job can wait or be carried out: the job holds its lease, or it
is in no live container. -/
def JobView.Cancellable (view : JobView ι δ ο ε) : Prop :=
  view.pending = 0 ∧ view.delayed = none ∧ (view.active.isSome → ¬view.LeaseGone)

instance [DecidableEq ι] (view : JobView ι δ ο ε) : Decidable view.Cancellable :=
  inferInstanceAs (Decidable (_ ∧ _ ∧ _))

/-- The only thing a pop does to such a job is to carry the cancellation out. -/
theorem JobView.Cancellable.sweeps {view : JobView ι δ ο ε} (cancellable : view.Cancellable)
    {options : QueueOptions} {event : JobEvent ι δ ο ε} {now : Nat} {popId : String}
    (popped : event.OfPop now popId) (enabled : event.Enabled options view) :
    ∃ at_, event = .sweep at_ := by
  obtain ⟨unlisted, undelayed, held⟩ := cancellable
  cases event with
  | requeue => exact absurd enabled.2 (held enabled.1)
  | sweep at_ => exact ⟨at_, rfl⟩
  | promote => simp [JobEvent.Enabled, undelayed] at enabled
  | lease at_ under => simp [JobEvent.Enabled, unlisted] at enabled
  | drop => simp [JobEvent.Enabled, unlisted] at enabled
  | _ => exact popped.elim

/-- A pop keeps a job exclusive when the cancellations it may carry out can be. -/
theorem JobView.Exclusive.popEvent [DecidableEq ι] {view : JobView ι δ ο ε}
    (exclusive : view.Exclusive) (cancellable : view.cancelling → view.Cancellable)
    (options : QueueOptions) (id : ι) {event : JobEvent ι δ ο ε} {now : Nat} {popId : String}
    (popped : event.OfPop now popId) (enabled : event.Enabled options view) :
    (JobView.apply options id view event).Exclusive ∧
      ((JobView.apply options id view event).cancelling →
        (JobView.apply options id view event).Cancellable) := by
  by_cases swept : ∃ at_, event = .sweep at_
  · obtain ⟨at_, rfl⟩ := swept
    obtain ⟨unlisted, undelayed, -⟩ := cancellable enabled.1
    have dead : view.live = 0 := by simp [live, unlisted, undelayed, enabled.2]
    refine ⟨exclusive.apply options id _ enabled dead, ?_⟩
    simp only [JobView.apply]
    split <;> simp
  · have unswept : ∀ at_, event ≠ .sweep at_ := fun at_ same => swept ⟨at_, same⟩
    have safe : event.Safe view := by
      cases event <;> simp_all [JobEvent.Safe, JobEvent.OfPop]
    obtain ⟨-, -, -, -, -, -, same, -⟩ :=
      exclusive.popEvent_frame options id popped enabled unswept
    refine ⟨exclusive.apply options id _ enabled safe, fun requested => ?_⟩
    exact absurd ((cancellable (same ▸ requested)).sweeps popped enabled) swept

variable [LinearOrder ι]

/-- A prune finds no delayed id in the tail it trims. -/
def Store.SparesDelayed (options : QueueOptions) (store : Store ι δ ο ε) : Op ι δ ο ε → Prop
  | .postSuccess => ∀ id ∈ store.success.drop options.maxSuccess, id ∉ store.delayed
  | .postFail => ∀ id ∈ store.failed.drop options.maxFailed, id ∉ store.delayed
  | _ => True

instance (options : QueueOptions) (store : Store ι δ ο ε) :
    ∀ op : Op ι δ ο ε, Decidable (store.SparesDelayed options op)
  | .postSuccess =>
    inferInstanceAs (Decidable (∀ id ∈ store.success.drop options.maxSuccess, id ∉ store.delayed))
  | .postFail =>
    inferInstanceAs (Decidable (∀ id ∈ store.failed.drop options.maxFailed, id ∉ store.delayed))
  | .push _ _ | .replace _ _ | .pop _ _ _ | .complete _ _ _ | .expireLease _ _ | .cancel _ _
  | .release _ | .reopen _ _ => .isTrue trivial

/-- The states in which an operation keeps a job exclusive. -/
def Store.SparesJob (options : QueueOptions) (store : Store ι δ ο ε) (id : ι) :
    Op ι δ ο ε → Prop
  | .pop _ _ _ => id ∈ store.pendingCancellations → (store.view id).Cancellable
  | .postSuccess => id ∈ store.success.drop options.maxSuccess → id ∉ store.delayed
  | .postFail => id ∈ store.failed.drop options.maxFailed → id ∉ store.delayed
  | .release target => target = id → (store.view id).live = 0
  | _ => True

/-- A job of the empty store is exclusive. -/
theorem Store.exclusive_empty (id : ι) : ((Store.empty : Store ι δ ο ε).view id).Exclusive :=
  JobView.exclusive_of_dead rfl rfl

variable {store : Store ι δ ο ε} {id : ι}

/-- A slot that reads as failed has no live entry. -/
theorem Store.live_of_readsFailed (exclusive : (store.view id).Exclusive)
    (failed : store.readsFailed id) : (store.view id).live = 0 := by
  by_contra present
  have unfinished := exclusive.unfinished (Nat.pos_of_ne_zero present)
  simp only [Store.view] at unfinished
  simp only [Store.readsFailed, Store.getJob, jobOf, Bool.and_eq_true] at failed
  obtain ⟨finished, -⟩ := failed
  cases data : store.jobData id <;> simp [data, unfinished] at finished

/-- An operation that causes only events that are safe in every state keeps a job exclusive. -/
theorem Store.exclusive_of_safe (exclusive : (store.view id).Exclusive) (options : QueueOptions)
    (op : Op ι δ ο ε)
    (safe : ∀ (view : JobView ι δ ο ε) event, op.Causes id event → event.Safe view) :
    ((store.step options op).view id).Exclusive := by
  refine store.step_preserves options op id JobView.Exclusive ?_ exclusive
  intro view event before caused enabled
  exact before.apply options id event enabled (safe view event caused)

/-- Releasing a dedupe entry keeps a job exclusive, unless the entry is that of a live job. -/
theorem Store.exclusive_release (exclusive : (store.view id).Exclusive) {target : ι}
    (dead : target = id → (store.view id).live = 0) :
    ((store.removeFromDedupeSet target).view id).Exclusive := by
  by_cases named : id = target
  · subst named
    rw [store.view_release_self id]
    exact exclusive.apply {} id .release trivial (dead rfl)
  · rw [store.view_release_of_ne named]
    exact exclusive

/-- An operation in a state that spares the job keeps it exclusive. -/
theorem Store.exclusive_step (exclusive : (store.view id).Exclusive) (options : QueueOptions)
    (op : Op ι δ ο ε) (spared : store.SparesJob options id op) :
    ((store.step options op).view id).Exclusive := by
  cases op with
  | pop now popId batchSize =>
    refine (store.step_preserves options (.pop now popId batchSize) id
      (fun view => view.Exclusive ∧ (view.cancelling → view.Cancellable)) ?_
      ⟨exclusive, spared⟩).1
    rintro view event ⟨before, cancellable⟩ caused enabled
    exact before.popEvent cancellable options id caused enabled
  | postSuccess =>
    rw [Store.step, store.view_postSuccess options id]
    split
    · rename_i trimmed
      exact exclusive.apply options id _ (store.enabled_pruneSuccess options trimmed)
        (AList.lookup_eq_none.mpr (spared trimmed))
    · exact exclusive
  | postFail =>
    rw [Store.step, store.view_postFail options id]
    split
    · rename_i trimmed
      exact exclusive.apply options id _ (store.enabled_pruneFailed options trimmed)
        (AList.lookup_eq_none.mpr (spared trimmed))
    · exact exclusive
  | release target => exact Store.exclusive_release exclusive spared
  | reopen now job =>
    simp only [Store.step, Store.retryFailedSlot]
    split
    · rename_i failed
      have dead (named : job.id = id) : (store.view id).live = 0 := by
        subst named
        exact Store.live_of_readsFailed exclusive failed
      have released := Store.exclusive_release exclusive dead
      refine Store.exclusive_of_safe released options (.push now job) ?_
      rintro view event ⟨-, rfl⟩
      trivial
    · exact exclusive
  | _ =>
    refine Store.exclusive_of_safe exclusive options _ ?_
    rintro view event ⟨-, caused⟩
    cases event <;> simp_all [JobEvent.Safe]

end OpenEngine.Queue
