import OpenEngine.Queue.Exclusive

/-!
# Two stores with the same jobs in the same places

The single-lane queue and a lane of the multilane queue run the same scripts on their keys, up to
the pop. `Store.Twin` relates two stores that hold the same pending list, delayed set and active
hash, and the same data, attempts and requeue position of every live job; a lease token of the right
store is the left one without its pop id. What else is left of finished jobs may differ. The scripts
both queues run keep two stores twins.
-/

namespace OpenEngine.Queue

variable {ι δ ο ε : Type}

/-- The token of a single-lane pop at a second, with the pop id of that second. -/
def LeaseToken.single (popIdOf : Nat → String) (id : ι) (stamp : Nat × Int) : LeaseToken ι :=
  { now := stamp.1, jobId := id, attempts := stamp.2, popId := some (popIdOf stamp.1) }

/-- The token of a multilane pop at a second. -/
def LeaseToken.lane (id : ι) (stamp : Nat × Int) : LeaseToken ι :=
  { now := stamp.1, jobId := id, attempts := stamp.2, popId := none }

/-- A single-lane token determines its second and attempt. -/
theorem LeaseToken.single_inj {popIdOf : Nat → String} {id : ι} {one two : Nat × Int} :
    LeaseToken.single popIdOf id one = LeaseToken.single popIdOf id two ↔ one = two := by
  constructor
  · intro same
    simp only [LeaseToken.single, LeaseToken.mk.injEq] at same
    exact Prod.ext same.1 same.2.2.1
  · rintro rfl
    rfl

/-- A multilane token determines its second and attempt. -/
theorem LeaseToken.lane_inj {id : ι} {one two : Nat × Int} :
    LeaseToken.lane id one = LeaseToken.lane id two ↔ one = two := by
  constructor
  · intro same
    simp only [LeaseToken.lane, LeaseToken.mk.injEq] at same
    exact Prod.ext same.1 same.2.2.1
  · rintro rfl
    rfl

/-- What two queues agree on for one job: the left one is exclusive, and while the job is live both
have the same data, attempts, position and lease. A job that is not delayed has no position and one
that is not active no token on the right. -/
structure TwinJob (popIdOf : Nat → String) (id : ι) (left right : JobView ι δ ο ε) : Prop where
  /-- The left job is exclusive. -/
  exclusive : left.Exclusive
  /-- A live job has the same data. -/
  data : 0 < left.live → right.data = left.data
  /-- A live job has the same attempts. -/
  attempts : 0 < left.live → right.info.attempts = left.info.attempts
  /-- A live job re-enters at the same position. -/
  position : 0 < left.live → right.info.reentryPosition = left.info.reentryPosition
  /-- A live job's metadata name the same lease. -/
  token : 0 < left.live → ∃ stamp : Option (Nat × Int),
    left.info.leaseToken = stamp.map (LeaseToken.single popIdOf id) ∧
      right.info.leaseToken = stamp.map (LeaseToken.lane id)
  /-- The live lease keys are the same. -/
  leases : ∀ stamp, LeaseToken.single popIdOf id stamp ∈ left.leases ↔
    LeaseToken.lane id stamp ∈ right.leases
  /-- Only a delayed job has a position. -/
  parked : right.info.reentryPosition.isSome → left.delayed.isSome
  /-- Only an active job has a token. -/
  leased : right.info.leaseToken.isSome → left.active.isSome

namespace TwinJob

variable {popIdOf : Nat → String} {id : ι} {left right left' right' : JobView ι δ ο ε}

/-- An event that keeps the job live: only the attempts, the position and the lease of the two sides
have to be compared again. -/
theorem of_live (twin : TwinJob popIdOf id left right) (live : 0 < left.live)
    (exclusive : left'.Exclusive) (data : left'.data = left.data ∧ right'.data = right.data)
    (attempts : right'.info.attempts = left'.info.attempts)
    (position : right'.info.reentryPosition = left'.info.reentryPosition)
    (token : ∃ stamp : Option (Nat × Int),
      left'.info.leaseToken = stamp.map (LeaseToken.single popIdOf id) ∧
        right'.info.leaseToken = stamp.map (LeaseToken.lane id))
    (leases : ∀ stamp, LeaseToken.single popIdOf id stamp ∈ left'.leases ↔
      LeaseToken.lane id stamp ∈ right'.leases)
    (parked : right'.info.reentryPosition.isSome → left'.delayed.isSome)
    (leased : right'.info.leaseToken.isSome → left'.active.isSome) :
    TwinJob popIdOf id left' right' where
  exclusive := exclusive
  data _ := by rw [data.1, data.2, twin.data live]
  attempts _ := attempts
  position _ := position
  token _ := token
  leases := leases
  parked := parked
  leased := leased

/-- An event after which the job is not live. -/
theorem of_dead (exclusive : left'.Exclusive) (dead : left'.live = 0)
    (leases : ∀ stamp, LeaseToken.single popIdOf id stamp ∈ left'.leases ↔
      LeaseToken.lane id stamp ∈ right'.leases)
    (parked : right'.info.reentryPosition.isSome → left'.delayed.isSome)
    (leased : right'.info.leaseToken.isSome → left'.active.isSome) :
    TwinJob popIdOf id left' right' where
  exclusive := exclusive
  data live := absurd live (by omega)
  attempts live := absurd live (by omega)
  position live := absurd live (by omega)
  token live := absurd live (by omega)
  leases := leases
  parked := parked
  leased := leased

/-- Both sides see the same lapsed leases. -/
theorem gone_iff (twin : TwinJob popIdOf id left right) (live : 0 < left.live) :
    left.LeaseGone ↔ right.LeaseGone := by
  obtain ⟨stamp, one, two⟩ := twin.token live
  unfold JobView.LeaseGone
  rw [one, two]
  cases stamp with
  | none => simp
  | some stamp => simp [twin.leases stamp]

/-- Pushing an id neither side knows. -/
theorem push (twin : TwinJob popIdOf id left right) (fresh : ¬left.deduped) (now : Nat)
    (job : JobOptions ι δ) (data : right'.data = some job.data)
    (attempts : right'.info.attempts = some 0)
    (position : right'.info.reentryPosition =
      if 0 < delayToQueueSeconds (job.delay.getD ⟨.zero, .last⟩).delay then
        some (job.delay.getD ⟨.zero, .last⟩).position
      else right.info.reentryPosition)
    (token : right'.info.leaseToken = right.info.leaseToken)
    (leases : right'.leases = right.leases) : TwinJob popIdOf id (left.push now job) right' := by
  have dead : left.live = 0 := by
    by_contra present
    exact fresh (twin.exclusive.known (Nat.pos_of_ne_zero present))
  have idle := JobView.idle_of_live dead
  have undelayed := JobView.undelayed_of_live dead
  have unparked : right.info.reentryPosition = none := by
    cases place : right.info.reentryPosition with
    | none => rfl
    | some found =>
      have delayed := twin.parked (by rw [place]; rfl)
      rw [undelayed] at delayed
      contradiction
  have unleased : right.info.leaseToken = none := by
    cases named : right.info.leaseToken with
    | none => rfl
    | some found =>
      have active := twin.leased (by rw [named]; rfl)
      rw [idle] at active
      contradiction
  rw [unparked] at position
  rw [unleased] at token
  have exclusive := twin.exclusive.push fresh now job
  by_cases delay : 0 < delayToQueueSeconds (job.delay.getD ⟨.zero, .last⟩).delay
  · rw [if_pos delay] at position
    have pushed : left.push now job =
        { left with
          data := some job.data, errors := [], result := none, deduped := True
          info :=
            { createdAt := some now, attempts := some 0
              reentryPosition := some (job.delay.getD ⟨.zero, .last⟩).position }
          delayed := some (now +
            delayToQueueSeconds (job.delay.getD ⟨.zero, .last⟩).delay) } := by
      simp only [JobView.push, if_pos delay]
    rw [pushed] at exclusive ⊢
    exact
      { exclusive
        data := fun _ => data
        attempts := fun _ => attempts
        position := fun _ => position
        token := fun _ => ⟨none, rfl, token⟩
        leases := fun stamp => leases ▸ twin.leases stamp
        parked := fun _ => rfl
        leased := fun named => by rw [token] at named; contradiction }
  · rw [if_neg delay] at position
    have pushed : left.push now job =
        { left with
          data := some job.data, errors := [], result := none, deduped := True
          info := { createdAt := some now, attempts := some 0 }
          pending := left.pending + 1 } := by
      simp only [JobView.push, if_neg delay]
    rw [pushed] at exclusive ⊢
    exact
      { exclusive
        data := fun _ => data
        attempts := fun _ => attempts
        position := fun _ => position
        token := fun _ => ⟨none, rfl, token⟩
        leases := fun stamp => leases ▸ twin.leases stamp
        parked := fun named => by rw [position] at named; contradiction
        leased := fun named => by rw [token] at named; contradiction }

variable [DecidableEq ι] (options : QueueOptions)

/-- Requeuing a job whose lease is gone. -/
theorem requeue (twin : TwinJob popIdOf id left right) (active : left.active.isSome)
    (gone : left.LeaseGone) :
    TwinJob popIdOf id (JobView.apply options id left .requeue)
      (JobView.apply options id right .requeue) := by
  have live := JobView.live_of_active active
  refine twin.of_live live (twin.exclusive.requeue options id active gone) ⟨rfl, rfl⟩ ?_
    (twin.position live) ⟨none, rfl, rfl⟩ twin.leases twin.parked fun named => ?_
  · simp only [JobView.apply, JobMeta.incrAttempts, twin.attempts live]
  · simp [JobView.apply] at named

/-- Promoting a delayed job. -/
theorem promote (twin : TwinJob popIdOf id left right) (delayed : left.delayed.isSome) :
    TwinJob popIdOf id (JobView.apply options id left .promote)
      (JobView.apply options id right .promote) := by
  have live : 0 < left.live := by
    simp only [JobView.live, delayed, Bool.toNat_true]
    omega
  refine twin.of_live live (twin.exclusive.promote options id delayed) ⟨rfl, rfl⟩
    (twin.attempts live) rfl (twin.token live) twin.leases (fun named => ?_) twin.leased
  simp [JobView.apply] at named

/-- Ending a lease takes the same key from both sides. -/
theorem leases_erase (twin : TwinJob popIdOf id left right) (ended stamp : Nat × Int) :
    LeaseToken.single popIdOf id stamp ∈
        left.leases.erase (LeaseToken.single popIdOf id ended) ↔
      LeaseToken.lane id stamp ∈ right.leases.erase (LeaseToken.lane id ended) := by
  rw [Finset.mem_erase, Finset.mem_erase, twin.leases stamp]
  simp only [ne_eq, LeaseToken.single_inj, LeaseToken.lane_inj]

/-- A completion under the same lease. -/
theorem complete (twin : TwinJob popIdOf id left right) (now : Nat) (job : Job ι δ)
    (stamp : Nat × Int) (issued : LeaseToken.single popIdOf id stamp ∈ left.leases)
    (result : JobResult ο ε) :
    TwinJob popIdOf id
      (left.complete options now { job, leaseToken := LeaseToken.single popIdOf id stamp } result)
      (right.complete options now { job, leaseToken := LeaseToken.lane id stamp } result) := by
  have active := (twin.exclusive.held _ issued).1
  have live := JobView.live_of_active active
  have exclusive := twin.exclusive.complete options now
    { job, leaseToken := LeaseToken.single popIdOf id stamp } issued result
  have ending := twin.exclusive.live_complete options now
    { job, leaseToken := LeaseToken.single popIdOf id stamp } issued result
  have undelayed : left.delayed = none := by
    obtain ⟨-, -, empty⟩ := twin.exclusive.endLease issued
    cases delayed : left.delayed with
    | none => rfl
    | some due =>
      simp only [delayed, Option.isSome_some, Bool.toNat_true] at empty
      omega
  have unparked : right.info.reentryPosition.isSome = false := by
    cases position : right.info.reentryPosition with
    | none => rfl
    | some place =>
      have delayed := twin.parked (by rw [position]; rfl)
      rw [undelayed] at delayed
      contradiction
  have leases (other : Nat × Int) : LeaseToken.single popIdOf id other ∈
      (left.complete options now { job, leaseToken := LeaseToken.single popIdOf id stamp }
        result).leases ↔ LeaseToken.lane id other ∈ (right.complete options now
          { job, leaseToken := LeaseToken.lane id stamp } result).leases := by
    rw [JobView.leases_complete, JobView.leases_complete]
    exact twin.leases_erase stamp other
  cases result using JobResult.cases with
  | ok output =>
    refine of_dead exclusive ending leases (fun named => ?_) fun named => ?_
    · exact absurd named (by simp [JobView.complete, JobView.endLease, unparked])
    · exact absurd named (by simp [JobView.complete, JobView.endLease])
  | retry error delay place =>
    refine twin.of_live live exclusive ⟨rfl, rfl⟩ (twin.attempts live) rfl ⟨none, rfl, rfl⟩ leases
      (fun _ => rfl) fun named => ?_
    exact absurd named (by simp [JobView.complete, JobView.endLease])
  | nack error place =>
    refine twin.of_live live exclusive ⟨rfl, rfl⟩ (twin.attempts live) (twin.position live)
      ⟨none, rfl, rfl⟩ leases (fun named => ?_) fun named => ?_
    · exact absurd named (by
        simp [JobView.complete, JobView.addError, JobView.endLease, unparked])
    · exact absurd named (by simp [JobView.complete, JobView.addError, JobView.endLease])
  | fail error =>
    refine of_dead exclusive ending leases (fun named => ?_) fun named => ?_
    · exact absurd named (by simp [JobView.complete, JobView.endLease, unparked])
    · exact absurd named (by simp [JobView.complete, JobView.endLease])
  | defer delay place =>
    refine twin.of_live live exclusive ⟨rfl, rfl⟩ ?_ rfl ⟨none, rfl, rfl⟩ leases
      (fun _ => rfl) fun named => ?_
    · simp only [JobView.complete, JobView.endLease, JobMeta.incrAttempts, twin.attempts live]
    · exact absurd named (by simp [JobView.complete, JobView.endLease, JobMeta.incrAttempts])

/-- Leasing a pending job on both sides. -/
theorem lease (twin : TwinJob popIdOf id left right) (waiting : 0 < left.pending) (now : Nat)
    (data : right'.data = right.data)
    (attempts : right'.info.attempts = some (right.info.attempts.getD 0 + 1))
    (position : right'.info.reentryPosition = right.info.reentryPosition)
    (token : right'.info.leaseToken =
      some (LeaseToken.lane id (now, right.info.attempts.getD 0 + 1)))
    (leases : right'.leases =
      if options.leaseDuration.secs = 0 then
        right.leases.erase (LeaseToken.lane id (now, right.info.attempts.getD 0 + 1))
      else insert (LeaseToken.lane id (now, right.info.attempts.getD 0 + 1)) right.leases) :
    TwinJob popIdOf id (left.lease options id now (popIdOf now)) right' := by
  have live : 0 < left.live := by
    unfold JobView.live
    omega
  have same := twin.attempts live
  refine twin.of_live live (twin.exclusive.lease options id waiting now (popIdOf now))
    ⟨rfl, data⟩ ?_ (position.trans (twin.position live)) ?_ ?_ ?_ fun _ => rfl
  · rw [attempts, same]
    rfl
  · refine ⟨some (now, left.info.attempts.getD 0 + 1), rfl, ?_⟩
    rw [token, same]
    rfl
  · intro stamp
    rw [leases, same]
    simp only [JobView.lease, JobView.nextToken]
    split
    · exact twin.leases_erase (now, left.info.attempts.getD 0 + 1) stamp
    · rw [Finset.mem_insert, Finset.mem_insert, LeaseToken.lane_inj, ← twin.leases stamp,
        ← @LeaseToken.single_inj ι popIdOf id stamp]
      rfl
  · rw [position]
    exact twin.parked

end TwinJob

variable [LinearOrder ι]

/-- Two stores with the same jobs in the same places. -/
structure Store.Twin (popIdOf : Nat → String) (left right : Store ι δ ο ε) : Prop where
  /-- The same pending list. -/
  pending : right.pending = left.pending
  /-- The same delayed set. -/
  delayed : right.delayed = left.delayed
  /-- The same active hash. -/
  active : right.active = left.active
  /-- The same jobs. -/
  job : ∀ id, TwinJob popIdOf id (left.view id) (right.view id)

section Scripts

variable (options : QueueOptions)

/-- The keys of a requeued job and of any other. -/
theorem PopState.view_requeue (state : PopState ι δ ο ε) (id other : ι) :
    (state.requeue id).store.view other =
      if other = id then JobView.apply options id (state.store.view id) .requeue
      else state.store.view other := by
  by_cases same : other = id
  · subst same
    simp [requeue, Store.view, Store.setMeta, JobView.apply, JobMeta.incrAttempts]
  · have apart : ¬id = other := fun reverse => same reverse.symm
    simp [requeue, Store.view, Store.setMeta, same, apart, AList.lookup_erase_ne]

/-- The keys of a promoted job and of any other. -/
theorem PopState.view_promoteDelayed (state : PopState ι δ ο ε) (id other : ι) :
    (state.promoteDelayed id).store.view other =
      if other = id then JobView.apply options id (state.store.view id) .promote
      else state.store.view other := by
  unfold promoteDelayed
  by_cases same : other = id
  · subst same
    dsimp only
    split <;> simp [Store.view, Store.setMeta, JobView.apply, List.count_append]
  · have apart : ¬id = other := fun reverse => same reverse.symm
    dsimp only
    split <;>
      simp [Store.view, Store.setMeta, same, apart, AList.lookup_erase_ne, List.count_append]

/-- Where a promoted job goes. -/
theorem PopState.lists_promoteDelayed (state : PopState ι δ ο ε) (id : ι) :
    (state.promoteDelayed id).store.pending =
        (match (state.store.jobMeta id).reentryPosition.getD .last with
          | .first => id :: state.store.pending
          | .last => state.store.pending ++ [id]) ∧
      (state.promoteDelayed id).store.delayed = state.store.delayed.erase id ∧
      (state.promoteDelayed id).store.active = state.store.active := by
  unfold promoteDelayed
  cases place : (state.store.jobMeta id).reentryPosition.getD .last <;>
    simp [place, Store.setMeta]

variable {popIdOf : Nat → String} {left right : Store ι δ ο ε}

/-- An id of a live container is live. -/
theorem Store.live_of_mem (store : Store ι δ ο ε) {id : ι}
    (member : id ∈ store.pending ∨ id ∈ store.delayed ∨ id ∈ store.active) :
    0 < (store.view id).live := by
  unfold JobView.live
  rcases member with pending | delayed | active
  · have counted : 0 < (store.view id).pending := List.count_pos_iff.mpr pending
    omega
  · have found : (store.view id).delayed.isSome := AList.lookup_isSome.mpr delayed
    simp only [found, Bool.toNat_true]
    omega
  · have found : (store.view id).active.isSome := AList.lookup_isSome.mpr active
    simp only [found, Bool.toNat_true]
    omega

/-- Twins stay twins through step 1 of the pop for one active job. -/
theorem Store.Twin.cleanupLease {first second : PopState ι δ ο ε}
    (twin : Store.Twin popIdOf first.store second.store) {id : ι}
    (active : id ∈ first.store.active) :
    Store.Twin popIdOf (first.cleanupLease id).store (second.cleanupLease id).store := by
  have found : (first.store.view id).active.isSome := AList.lookup_isSome.mpr active
  have gone := (twin.job id).gone_iff (JobView.live_of_active found)
  rw [PopState.cleanupLease_eq, PopState.cleanupLease_eq]
  by_cases lapsed : (first.store.view id).LeaseGone
  · rw [if_pos lapsed, if_pos (gone.mp lapsed)]
    refine ⟨?_, twin.delayed, ?_, ?_⟩
    · simp only [PopState.requeue, twin.pending]
    · simp only [PopState.requeue, twin.active]
    · intro other
      rw [PopState.view_requeue {}, PopState.view_requeue {}]
      split
      · rename_i same
        subst same
        exact (twin.job other).requeue {} found lapsed
      · exact twin.job other
  · rw [if_neg lapsed, if_neg fun other => lapsed (gone.mpr other)]
    exact twin

/-- Step 1 for one job keeps the others active. -/
theorem PopState.active_cleanupLease (state : PopState ι δ ο ε) {id other : ι}
    (different : other ≠ id) (active : other ∈ state.store.active) :
    other ∈ (state.cleanupLease id).store.active := by
  rw [cleanupLease_eq]
  split
  · exact AList.mem_erase.mpr ⟨different, active⟩
  · exact active

/-- Twins stay twins through step 1 of the pop. -/
theorem Store.Twin.cleanup (ids : List ι) (distinct : ids.Nodup) {first second : PopState ι δ ο ε}
    (twin : Store.Twin popIdOf first.store second.store)
    (active : ∀ id ∈ ids, id ∈ first.store.active) :
    Store.Twin popIdOf (ids.foldl PopState.cleanupLease first).store
      (ids.foldl PopState.cleanupLease second).store := by
  induction ids generalizing first second with
  | nil => exact twin
  | cons id rest ih =>
    obtain ⟨absent, restDistinct⟩ := List.nodup_cons.mp distinct
    refine ih restDistinct (twin.cleanupLease (active id List.mem_cons_self)) ?_
    intro other member
    exact first.active_cleanupLease (fun same => absent (same ▸ member))
      (active other (List.mem_cons_of_mem _ member))

/-- Twins stay twins through step 3 of the pop for one delayed job. -/
theorem Store.Twin.promoteDelayed {first second : PopState ι δ ο ε}
    (twin : Store.Twin popIdOf first.store second.store) {id : ι}
    (delayed : id ∈ first.store.delayed) :
    Store.Twin popIdOf (first.promoteDelayed id).store (second.promoteDelayed id).store := by
  have found : (first.store.view id).delayed.isSome := AList.lookup_isSome.mpr delayed
  have live := first.store.live_of_mem (.inr (.inl delayed))
  have position : (second.store.jobMeta id).reentryPosition =
      (first.store.jobMeta id).reentryPosition := (twin.job id).position live
  obtain ⟨pendingOne, delayedOne, activeOne⟩ := first.lists_promoteDelayed id
  obtain ⟨pendingTwo, delayedTwo, activeTwo⟩ := second.lists_promoteDelayed id
  refine ⟨?_, ?_, ?_, ?_⟩
  · rw [pendingOne, pendingTwo, position, twin.pending]
  · rw [delayedOne, delayedTwo, twin.delayed]
  · rw [activeOne, activeTwo, twin.active]
  · intro other
    rw [PopState.view_promoteDelayed {}, PopState.view_promoteDelayed {}]
    split
    · rename_i same
      subst same
      exact (twin.job other).promote {} found
    · exact twin.job other

/-- Twins stay twins through step 3 of the pop. -/
theorem Store.Twin.promote (ids : List ι) (distinct : ids.Nodup) {first second : PopState ι δ ο ε}
    (twin : Store.Twin popIdOf first.store second.store)
    (delayed : ∀ id ∈ ids, id ∈ first.store.delayed) :
    Store.Twin popIdOf (ids.foldl PopState.promoteDelayed first).store
      (ids.foldl PopState.promoteDelayed second).store := by
  induction ids generalizing first second with
  | nil => exact twin
  | cons id rest ih =>
    obtain ⟨absent, restDistinct⟩ := List.nodup_cons.mp distinct
    refine ih restDistinct (twin.promoteDelayed (delayed id List.mem_cons_self)) ?_
    intro other member
    rw [(first.lists_promoteDelayed id).2.1]
    exact AList.mem_erase.mpr ⟨fun same => absent (same ▸ member),
      delayed other (List.mem_cons_of_mem _ member)⟩

/-- A pop's step 1 on its own: the jobs whose lease is gone are pending again. -/
def Store.cleaned (store : Store ι δ ο ε) : Store ι δ ο ε :=
  (store.active.keys.foldl PopState.cleanupLease { store }).store

/-- A pop's step 3 on its own: the jobs due at a second are pending. -/
def Store.promoted (now : Nat) (store : Store ι δ ο ε) : Store ι δ ο ε :=
  ((Redis.zrangeByScore store.delayed now).foldl PopState.promoteDelayed { store }).store

/-- The store a pop at a second takes its jobs from. -/
def Store.readied (now : Nat) (store : Store ι δ ο ε) : Store ι δ ο ε :=
  store.cleaned.promoted now

/-- The active jobs whose lease is gone. -/
def Store.lapsed (store : Store ι δ ο ε) : List ι :=
  store.active.keys.filter fun id => (store.view id).LeaseGone

/-- The jobs a pop at a second can hand out. -/
def Store.ready (now : Nat) (store : Store ι δ ο ε) : List ι :=
  store.pending ++ store.lapsed ++ Redis.zrangeByScore store.delayed now

/-- Twins stay twins through the cleanup and the promotion. -/
theorem Store.Twin.readied (twin : Store.Twin popIdOf left right) (now : Nat) :
    Store.Twin popIdOf (left.readied now) (right.readied now) := by
  have cleaned : Store.Twin popIdOf left.cleaned right.cleaned := by
    unfold Store.cleaned
    rw [twin.active]
    exact Store.Twin.cleanup left.active.keys left.active.keys_nodup twin fun _ member => member
  have due := cleaned.delayed
  unfold Store.readied Store.promoted
  rw [due]
  exact Store.Twin.promote _ (Redis.nodup_zrangeByScore _ now) cleaned
    fun _ member => Redis.mem_of_mem_zrangeByScore member

/-- Step 1 moves the jobs whose lease is gone to pending and keeps the delayed set. -/
theorem PopState.pending_cleanup (ids : List ι) (distinct : ids.Nodup)
    (state : PopState ι δ ο ε) :
    (ids.foldl PopState.cleanupLease state).store.pending.Perm
        (state.store.pending ++ ids.filter fun id => (state.store.view id).LeaseGone) ∧
      (ids.foldl PopState.cleanupLease state).store.delayed = state.store.delayed := by
  induction ids generalizing state with
  | nil => exact ⟨by simp, rfl⟩
  | cons id rest ih =>
    obtain ⟨absent, restDistinct⟩ := List.nodup_cons.mp distinct
    obtain ⟨moved, delayed⟩ := ih restDistinct (state.cleanupLease id)
    have others : (rest.filter fun other =>
          ((state.cleanupLease id).store.view other).LeaseGone) =
        rest.filter fun other => (state.store.view other).LeaseGone := by
      apply List.filter_congr
      intro other member
      have different : other ≠ id := fun same => absent (same ▸ member)
      rw [state.cleanupLease_eq]
      split
      · rw [state.view_requeue {}, if_neg different]
      · rfl
    rw [others, state.cleanupLease_eq] at moved
    rw [List.foldl_cons, delayed, state.cleanupLease_eq]
    by_cases gone : (state.store.view id).LeaseGone
    · rw [if_pos gone] at moved ⊢
      rw [List.filter_cons_of_pos (by simpa using gone)]
      exact ⟨moved.trans List.perm_middle.symm, rfl⟩
    · rw [if_neg gone] at moved ⊢
      rw [List.filter_cons_of_neg (by simpa using gone)]
      exact ⟨moved, rfl⟩

/-- Step 3 moves the due jobs to pending. -/
theorem PopState.pending_promote (ids : List ι) (state : PopState ι δ ο ε) :
    (ids.foldl PopState.promoteDelayed state).store.pending.Perm
      (state.store.pending ++ ids) := by
  induction ids generalizing state with
  | nil => simp
  | cons id rest ih =>
    have one : (state.promoteDelayed id).store.pending.Perm (id :: state.store.pending) := by
      rw [(state.lists_promoteDelayed id).1]
      split
      · exact .refl _
      · exact List.perm_append_singleton id _
    have all := (ih (state.promoteDelayed id)).trans (one.append_right rest)
    exact all.trans List.perm_middle.symm

/-- A pop takes from the jobs that are ready. -/
theorem Store.pending_readied (store : Store ι δ ο ε) (now : Nat) :
    (store.readied now).pending.Perm (store.ready now) := by
  obtain ⟨moved, delayed⟩ :=
    PopState.pending_cleanup store.active.keys store.active.keys_nodup { store }
  have due : store.cleaned.delayed = store.delayed := delayed
  have added := PopState.pending_promote (Redis.zrangeByScore store.delayed now)
    { store := store.cleaned }
  unfold readied promoted
  rw [due]
  exact added.trans (moved.append_right _)

/-- A pop that finds nothing to clean up or promote takes from the store as it is. -/
theorem Store.readied_of_calm {store : Store ι δ ο ε} {now : Nat} (unlapsed : store.lapsed = [])
    (undue : Redis.zrangeByScore store.delayed now = []) : store.readied now = store := by
  have still (ids : List ι) (held : ∀ id ∈ ids, ¬(store.view id).LeaseGone) :
      (ids.foldl PopState.cleanupLease { store }) = { store } := by
    induction ids with
    | nil => rfl
    | cons id rest ih =>
      rw [List.foldl_cons, PopState.cleanupLease_eq, if_neg (held id List.mem_cons_self)]
      exact ih fun other member => held other (List.mem_cons_of_mem _ member)
  have cleaned : store.cleaned = store := by
    unfold Store.cleaned
    rw [still store.active.keys]
    intro id member gone
    have inside : id ∈ store.lapsed := List.mem_filter.mpr ⟨member, by simpa using gone⟩
    rw [unlapsed] at inside
    exact List.not_mem_nil inside
  unfold readied promoted
  rw [cleaned, undue]
  rfl

/-- What a completion does to the pending list, the delayed set and the active hash depends on these
alone. -/
theorem Store.lists_applyCompletion (pending : right.pending = left.pending)
    (delayed : right.delayed = left.delayed) (active : right.active = left.active) (now : Nat)
    (job : Job ι δ) (one two : LeaseToken ι) (result : JobResult ο ε) :
    (right.applyCompletion options now { job, leaseToken := two } result).pending =
        (left.applyCompletion options now { job, leaseToken := one } result).pending ∧
      (right.applyCompletion options now { job, leaseToken := two } result).delayed =
        (left.applyCompletion options now { job, leaseToken := one } result).delayed ∧
      (right.applyCompletion options now { job, leaseToken := two } result).active =
        (left.applyCompletion options now { job, leaseToken := one } result).active := by
  cases result using JobResult.cases with
  | ok output =>
    simp only [applyCompletion, addSuccessOps, releaseActive]
    split <;>
      simp [removeFromDedupeSet, finish, endLease, expireLease, setMeta, pending, delayed, active]
  | retry error delay position =>
    simp [applyCompletion, addNackOps, delayUntil, addErrorRecord, endLease, expireLease, setMeta,
      pending, delayed, active]
  | nack error position =>
    cases position <;>
      simp [applyCompletion, addNackOps, addErrorRecord, endLease, expireLease, setMeta, pending,
        delayed, active]
  | fail error =>
    simp only [applyCompletion, addFailOps, releaseActive]
    split <;>
      simp [removeFromDedupeSet, addErrorRecord, finish, endLease, expireLease, setMeta, pending,
        delayed, active]
  | defer delay position =>
    simp [applyCompletion, addDeferOps, delayUntil, endLease, expireLease, setMeta, pending,
      delayed, active]

/-- Twins stay twins through a completion, which commits on both sides or on neither. -/
theorem Store.Twin.complete (twin : Store.Twin popIdOf left right) (now : Nat) (job : Job ι δ)
    (stamp : Nat × Int) (result : JobResult ο ε) :
    Store.Twin popIdOf
      (left.complete options now
        { job, leaseToken := LeaseToken.single popIdOf job.id stamp } result).2
      (right.complete options now
        { job, leaseToken := LeaseToken.lane job.id stamp } result).2 := by
  have same := (twin.job job.id).leases stamp
  have heldLeft := left.holdsLease_iff
    { job, leaseToken := LeaseToken.single popIdOf job.id stamp }
  have heldRight := right.holdsLease_iff { job, leaseToken := LeaseToken.lane job.id stamp }
  unfold Store.complete
  by_cases issued : LeaseToken.single popIdOf job.id stamp ∈ left.leases job.id
  · rw [if_pos (heldLeft.mpr issued), if_pos (heldRight.mpr (same.mp issued))]
    obtain ⟨pending, delayed, active⟩ := Store.lists_applyCompletion options twin.pending
      twin.delayed twin.active now job (LeaseToken.single popIdOf job.id stamp)
      (LeaseToken.lane job.id stamp) result
    refine ⟨pending, delayed, active, fun id => ?_⟩
    by_cases named : id = job.id
    · subst named
      rw [left.view_applyCompletion_self options now
          { job, leaseToken := LeaseToken.single popIdOf job.id stamp } result,
        right.view_applyCompletion_self options now
          { job, leaseToken := LeaseToken.lane job.id stamp } result]
      exact (twin.job job.id).complete options now job stamp issued result
    · rw [left.view_applyCompletion_of_ne options now _ result named,
        right.view_applyCompletion_of_ne options now _ result named]
      exact twin.job id
  · rw [if_neg fun held => issued (heldLeft.mp held),
      if_neg fun held => issued (same.mpr (heldRight.mp held))]
    exact twin

end Scripts

end OpenEngine.Queue
