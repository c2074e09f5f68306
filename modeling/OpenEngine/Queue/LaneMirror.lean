import OpenEngine.Queue.OneLane

/-!
# One lane and the single-lane queue side by side

`Mirrors` is what a run keeps between the single-lane queue and a multilane queue with one lane:
twin keys, the same dedupe set, and no other lane. Pushes, completions and lease expiries keep it in
every state.
-/

namespace OpenEngine.Queue

variable {ι δ ο ε : Type} [LinearOrder ι]

/-- Neither the cleanup nor the promotion touches the dedupe set or the requested cancellations. -/
theorem Store.readied_keeps (store : Store ι δ ο ε) (now : Nat) :
    (store.readied now).dedupe = store.dedupe ∧
      (store.readied now).pendingCancellations = store.pendingCancellations := by
  have cleaned := PopState.foldl_keeps (ι := ι) PopState.cleanupLease
    (fun state : PopState ι δ ο ε => (state.store.dedupe, state.store.pendingCancellations))
    (fun state id => by
      rw [state.cleanupLease_eq]
      split <;> rfl) store.active.keys { store }
  have promoted := PopState.foldl_keeps PopState.promoteDelayed
    (fun state : PopState ι δ ο ε => (state.store.dedupe, state.store.pendingCancellations))
    (fun state id => by
      unfold PopState.promoteDelayed
      dsimp only
      split <;> rfl) (Redis.zrangeByScore store.cleaned.delayed now) { store := store.cleaned }
  have both := promoted.trans cleaned
  exact ⟨congrArg Prod.fst both, congrArg Prod.snd both⟩

/-- What a completion does to the dedupe set depends on it alone. -/
theorem Store.dedupe_applyCompletion {left right : Store ι δ ο ε}
    (same : right.dedupe = left.dedupe) (options : QueueOptions) (now : Nat) (job : Job ι δ)
    (one two : LeaseToken ι) (result : JobResult ο ε) :
    (right.applyCompletion options now { job, leaseToken := two } result).dedupe =
      (left.applyCompletion options now { job, leaseToken := one } result).dedupe := by
  cases result using JobResult.cases with
  | ok output =>
    simp only [applyCompletion, addSuccessOps, releaseActive]
    split <;> simp [removeFromDedupeSet, finish, endLease, expireLease, setMeta, same]
  | retry error delay position =>
    simp [applyCompletion, addNackOps, delayUntil, addErrorRecord, endLease, expireLease, setMeta,
      same]
  | nack error position =>
    cases position <;>
      simp [applyCompletion, addNackOps, addErrorRecord, endLease, expireLease, setMeta, same]
  | fail error =>
    simp only [applyCompletion, addFailOps, releaseActive]
    split <;>
      simp [removeFromDedupeSet, addErrorRecord, finish, endLease, expireLease, setMeta, same]
  | defer delay position =>
    simp [applyCompletion, addDeferOps, delayUntil, endLease, expireLease, setMeta, same]

/-- A completion requests no cancellation. -/
theorem Store.cancellations_applyCompletion (store : Store ι δ ο ε) (options : QueueOptions)
    (now : Nat) (job : BorrowedJob ι δ) (result : JobResult ο ε) :
    (store.applyCompletion options now job result).pendingCancellations =
      store.pendingCancellations := by
  cases result using JobResult.cases with
  | ok output =>
    simp only [applyCompletion, addSuccessOps, releaseActive]
    split <;> rfl
  | retry error delay position => rfl
  | nack error position => cases position <;> rfl
  | fail error =>
    simp only [applyCompletion, addFailOps, releaseActive]
    split <;> rfl
  | defer delay position => rfl

/-- What the two queues have in common after a run whose last pop was at a second, if there was
one. -/
structure Mirrors (popIdOf : Nat → String) (laneId : String) (last : Option Nat)
    (left : Store ι δ ο ε) (right : MultilaneStore ι δ ο ε) : Prop where
  /-- The lane's keys hold the jobs of the queue. -/
  twin : Store.Twin popIdOf left (right.laneKeys laneId)
  /-- The same ids are refused by both. -/
  dedupe : right.dedupe = left.dedupe
  /-- The queue has no cancellation to carry out. -/
  uncancelled : ∀ id, id ∉ left.pendingCancellations
  /-- Nor has the multilane queue. -/
  laneUncancelled : ∀ id, id ∉ right.pendingCancellations
  /-- Every job is in the lane its metadata names. -/
  settled : ∀ id, right.Settled id
  /-- A lane that holds a job is registered. -/
  registered : right.Registered
  /-- No other lane is. -/
  only : right.OnlyLane laneId (last.getD 0)
  /-- Before the first pop nothing is leased, and what is delayed is due after second zero. -/
  unpopped : last = none →
    left.active = ∅ ∧ ∀ id due, left.delayed.lookup id = some due → 0 < due

namespace Mirrors

variable {popIdOf : Nat → String} {laneId : String} {last : Option Nat} {left : Store ι δ ο ε}
  {right : MultilaneStore ι δ ο ε}

/-- The empty queues mirror each other. -/
theorem empty : Mirrors popIdOf laneId none (Store.empty : Store ι δ ο ε) .empty where
  twin :=
    { pending := rfl
      delayed := rfl
      active := rfl
      job := fun id =>
        TwinJob.of_dead (Store.exclusive_empty id) rfl
          (fun stamp => by simp [Store.empty, MultilaneStore.empty, MultilaneStore.laneKeys,
            Store.view])
          (fun named => by
            simp [MultilaneStore.empty, MultilaneStore.laneKeys, Store.view] at named)
          (fun named => by
            simp [MultilaneStore.empty, MultilaneStore.laneKeys, Store.view] at named) }
  dedupe := rfl
  uncancelled _ := AList.notMem_empty _
  laneUncancelled _ := AList.notMem_empty _
  settled := MultilaneStore.settled_empty
  registered := MultilaneStore.registered_after {} []
  only other score found := by simp [MultilaneStore.empty] at found
  unpopped _ := ⟨rfl, fun id due found => by simp [Store.empty] at found⟩

/-- Where a push of a new id goes in a queue. -/
theorem lists_push (store : Store ι δ ο ε) (now : Nat) (job : JobOptions ι δ)
    (fresh : job.id ∉ store.dedupe) :
    let delay := job.delay.getD ⟨.zero, .last⟩
    let delaySecs := delayToQueueSeconds delay.delay
    let pushed := (store.pushWithOutcome now job).2
    pushed.pending = (if 0 < delaySecs then store.pending else store.pending ++ [job.id]) ∧
      pushed.delayed =
        (if 0 < delaySecs then store.delayed.insert job.id (now + delaySecs) else store.delayed) ∧
      pushed.active = store.active ∧ pushed.dedupe = insert job.id store.dedupe ∧
      pushed.pendingCancellations = store.pendingCancellations := by
  unfold Store.pushWithOutcome
  dsimp only
  rw [if_neg fresh]
  split <;> exact ⟨rfl, rfl, rfl, rfl, rfl⟩

/-- Where it goes in a lane. -/
theorem lists_pushToLane (store : MultilaneStore ι δ ο ε) (now : Nat) (job : JobOptions ι δ)
    (fresh : job.id ∉ store.dedupe) :
    let delay := job.delay.getD ⟨.zero, .last⟩
    let delaySecs := delayToQueueSeconds delay.delay
    let lane := store.lane laneId
    let pushed := (store.pushToLane now laneId job).2
    pushed.lane laneId =
        (if 0 < delaySecs then
          { lane with delayed := lane.delayed.insert job.id (now + delaySecs) }
        else { lane with pending := lane.pending ++ [job.id] }) ∧
      pushed.dedupe = insert job.id store.dedupe ∧
      pushed.pendingCancellations = store.pendingCancellations ∧
      pushed.lanes = Redis.zaddNx store.lanes laneId 0 := by
  unfold MultilaneStore.pushToLane
  dsimp only
  rw [if_neg fresh]
  split <;> exact ⟨Function.update_self _ _ _, rfl, rfl, rfl⟩

/-- A push refused by one queue is refused by the other, and a push of a new id puts it in the same
place. -/
theorem push (mirrors : Mirrors popIdOf laneId last left right) (now : Nat)
    (job : JobOptions ι δ) :
    Mirrors popIdOf laneId last (left.pushWithOutcome now job).2
      (right.pushToLane now laneId job).2 := by
  by_cases known : job.id ∈ left.dedupe
  · have refused : (right.pushToLane now laneId job).2 = right := by
      unfold MultilaneStore.pushToLane
      dsimp only
      rw [if_pos (by rw [mirrors.dedupe]; exact known)]
    rw [left.push_duplicate now job known, refused]
    exact mirrors
  have fresh : job.id ∉ right.dedupe := by
    rw [mirrors.dedupe]
    exact known
  obtain ⟨pending, delayed, active, dedupe, cancellations⟩ := lists_push left now job known
  obtain ⟨lane, laneDedupe, laneCancellations, lanes⟩ :=
    @lists_pushToLane _ _ _ _ _ laneId right now job fresh
  have samePending : (right.lane laneId).pending = left.pending := mirrors.twin.pending
  have sameDelayed : (right.lane laneId).delayed = left.delayed := mirrors.twin.delayed
  have sameActive : (right.lane laneId).active = left.active := mirrors.twin.active
  refine
    { twin := ⟨?_, ?_, ?_, fun id => ?_⟩
      dedupe := by rw [laneDedupe, dedupe, mirrors.dedupe]
      uncancelled := fun id => by
        rw [cancellations]
        exact mirrors.uncancelled id
      laneUncancelled := fun id => by
        rw [laneCancellations]
        exact mirrors.laneUncancelled id
      settled := MultilaneStore.settled_step mirrors.settled {} (.push now laneId job)
      registered := mirrors.registered.pushToLane now laneId job
      only := fun other score found => ?_
      unpopped := fun never => ?_ }
  · show ((right.pushToLane now laneId job).2.lane laneId).pending = _
    rw [pending, lane]
    split
    · exact samePending
    · exact congrArg (· ++ [job.id]) samePending
  · show ((right.pushToLane now laneId job).2.lane laneId).delayed = _
    rw [delayed, lane]
    split
    · dsimp only
      rw [sameDelayed]
    · exact sameDelayed
  · show ((right.pushToLane now laneId job).2.lane laneId).active = _
    rw [active, lane]
    split <;> exact sameActive
  · by_cases named : id = job.id
    · subst named
      have view := right.laneView_push_home now laneId job fresh
      rw [left.view_push_self now job known]
      show TwinJob popIdOf job.id _ ((right.pushToLane now laneId job).2.laneView laneId job.id)
      rw [view]
      by_cases delay : 0 < delayToQueueSeconds (job.delay.getD ⟨.zero, .last⟩).delay
      · simp only [if_pos delay]
        exact (mirrors.twin.job job.id).push known now job rfl rfl rfl rfl rfl
      · simp only [if_neg delay]
        exact (mirrors.twin.job job.id).push known now job rfl rfl rfl rfl rfl
    · rw [left.view_push_of_ne now job named]
      show TwinJob popIdOf id _ ((right.pushToLane now laneId job).2.laneView laneId id)
      rw [right.laneView_push_of_ne now laneId job named]
      exact mirrors.twin.job id
  · rw [lanes] at found
    unfold Redis.zaddNx at found
    split at found
    · exact mirrors.only other score found
    · by_cases same : other = laneId
      · subst same
        rw [AList.lookup_insert] at found
        exact ⟨rfl, by have := Option.some.inj found; omega⟩
      · rw [AList.lookup_insert_ne same] at found
        exact mirrors.only other score found
  · obtain ⟨idle, later⟩ := mirrors.unpopped never
    refine ⟨active.trans idle, fun id due found => ?_⟩
    rw [delayed] at found
    split at found
    · by_cases same : id = job.id
      · subst same
        rw [AList.lookup_insert] at found
        have := Option.some.inj found
        omega
      · rw [AList.lookup_insert_ne same] at found
        exact later id due found
    · exact later id due found

/-- A lease expiry ends the same lease. -/
theorem expireLease (mirrors : Mirrors popIdOf laneId last left right) (options : QueueOptions)
    (id : ι) (stamp : Nat × Int) :
    Mirrors popIdOf laneId last (left.expireLease id (LeaseToken.single popIdOf id stamp))
      (right.expireLease id (LeaseToken.lane id stamp)) where
  twin :=
    { pending := mirrors.twin.pending
      delayed := mirrors.twin.delayed
      active := mirrors.twin.active
      job := fun other => by
        have before := mirrors.twin.job other
        have exclusive := Store.exclusive_step before.exclusive options
          (.expireLease id (LeaseToken.single popIdOf id stamp)) trivial
        have leases : ∀ held, LeaseToken.single popIdOf other held ∈
            ((left.expireLease id (LeaseToken.single popIdOf id stamp)).view other).leases ↔
            LeaseToken.lane other held ∈ (((right.expireLease id
              (LeaseToken.lane id stamp)).laneKeys laneId).view other).leases := by
          intro held
          by_cases same : other = id
          · subst same
            simp only [Store.view, Store.expireLease, MultilaneStore.expireLease,
              MultilaneStore.laneKeys, Function.update_self]
            exact before.leases_erase stamp held
          · simp only [Store.view, Store.expireLease, MultilaneStore.expireLease,
              MultilaneStore.laneKeys, Function.update_of_ne same]
            exact before.leases held
        exact
          { exclusive
            data := before.data
            attempts := before.attempts
            position := before.position
            token := before.token
            leases
            parked := before.parked
            leased := before.leased } }
  dedupe := mirrors.dedupe
  uncancelled := mirrors.uncancelled
  laneUncancelled := mirrors.laneUncancelled
  settled := MultilaneStore.settled_step mirrors.settled options
    (.expireLease id (LeaseToken.lane id stamp))
  registered := mirrors.registered
  only := mirrors.only
  unpopped := mirrors.unpopped

/-- A completion commits on both queues or on neither. -/
theorem complete (mirrors : Mirrors popIdOf laneId last left right) (options : QueueOptions)
    (now : Nat) (job : Job ι δ) (stamp : Nat × Int) (result : JobResult ο ε) :
    Mirrors popIdOf laneId last
      (left.complete options now
        { job, leaseToken := LeaseToken.single popIdOf job.id stamp } result).2
      (right.completeJob options now
        { job, leaseToken := LeaseToken.lane job.id stamp } result).2 := by
  have same := (mirrors.twin.job job.id).leases stamp
  by_cases issued : LeaseToken.single popIdOf job.id stamp ∈ left.leases job.id
  · have active := ((mirrors.twin.job job.id).exclusive.held _ issued).1
    have live := JobView.live_of_active active
    have laneActive : (right.laneView laneId job.id).active.isSome := by
      show (((right.laneKeys laneId).active).lookup job.id).isSome
      rw [mirrors.twin.active]
      exact active
    have home := (mirrors.settled job.id).home laneId (JobView.live_of_active laneActive)
    have committed : (right.completeJob options now
        { job, leaseToken := LeaseToken.lane job.id stamp } result).2 =
        right.writeKeys laneId ((right.laneKeys laneId).complete options now
          { job, leaseToken := LeaseToken.lane job.id stamp } result).2 := by
      unfold MultilaneStore.completeJob
      rw [home]
    have settled := MultilaneStore.settled_step mirrors.settled options
      (.complete now { job, leaseToken := LeaseToken.lane job.id stamp } result)
    have registered := mirrors.registered.completeJob mirrors.settled options now
      { job, leaseToken := LeaseToken.lane job.id stamp } result
    simp only [MultilaneStore.step] at settled
    rw [committed] at settled registered ⊢
    have twin := mirrors.twin.complete options now job stamp result
    have doneLeft : left.complete options now
        { job, leaseToken := LeaseToken.single popIdOf job.id stamp } result =
        (true, left.applyCompletion options now
          { job, leaseToken := LeaseToken.single popIdOf job.id stamp } result) :=
      if_pos ((left.holdsLease_iff { job, leaseToken := .single popIdOf job.id stamp }).mpr issued)
    have doneRight : (right.laneKeys laneId).complete options now
        { job, leaseToken := LeaseToken.lane job.id stamp } result =
        (true, (right.laneKeys laneId).applyCompletion options now
          { job, leaseToken := LeaseToken.lane job.id stamp } result) :=
      if_pos (((right.laneKeys laneId).holdsLease_iff
        { job, leaseToken := .lane job.id stamp }).mpr (same.mp issued))
    rw [doneLeft, doneRight] at twin
    rw [doneRight] at settled registered ⊢
    rw [doneLeft]
    refine
      { twin := ?_
        dedupe := Store.dedupe_applyCompletion mirrors.dedupe options now job
          (LeaseToken.single popIdOf job.id stamp) (LeaseToken.lane job.id stamp) result
        uncancelled := fun id => ?_
        laneUncancelled := fun id => ?_
        settled, registered
        only := mirrors.only
        unpopped := fun never => ?_ }
    · rw [MultilaneStore.laneKeys_writeKeys]
      exact twin
    · rw [Store.cancellations_applyCompletion]
      exact mirrors.uncancelled id
    · show id ∉ ((right.laneKeys laneId).applyCompletion options now
        { job, leaseToken := LeaseToken.lane job.id stamp } result).pendingCancellations
      rw [Store.cancellations_applyCompletion]
      exact mirrors.laneUncancelled id
    · have idle := (mirrors.unpopped never).1
      simp [Store.view, idle] at active
  · have unheldLeft : ¬left.holdsLease
        { job, leaseToken := LeaseToken.single popIdOf job.id stamp } :=
      fun held => issued ((left.holdsLease_iff _).mp held)
    have unissued : LeaseToken.lane job.id stamp ∉ right.leases job.id :=
      fun held => issued (same.mpr held)
    have skipped : (right.completeJob options now
        { job, leaseToken := LeaseToken.lane job.id stamp } result).2 = right := by
      unfold MultilaneStore.completeJob
      split
      · rfl
      · rename_i lane _
        have unheld : ¬(right.laneKeys lane).holdsLease
            { job, leaseToken := LeaseToken.lane job.id stamp } :=
          fun held => unissued (((right.laneKeys lane).holdsLease_iff _).mp held)
        simp only [Store.complete, if_neg unheld, MultilaneStore.writeKeys_laneKeys]
    rw [skipped, Store.complete, if_neg unheldLeft]
    exact mirrors

end Mirrors

end OpenEngine.Queue
