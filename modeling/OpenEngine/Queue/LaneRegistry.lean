import OpenEngine.Queue.LaneInvariant

/-!
# Registered lanes

A push registers its lane, and a pop drops a lane whose keys it finds all empty. Every requeue acts
on a job that is in the lane already, so a lane that holds a job is registered in every reachable
state.
-/

namespace OpenEngine.Queue

variable {ι δ ο ε : Type}

/-- Some key of the lane is not empty. -/
def Lane.Occupied (lane : Lane ι) : Prop :=
  lane.pending ≠ [] ∨ lane.delayed ≠ ∅ ∨ lane.active ≠ ∅

instance [DecidableEq ι] (lane : Lane ι) : Decidable lane.Occupied :=
  inferInstanceAs (Decidable (lane.pending ≠ [] ∨ lane.delayed ≠ ∅ ∨ lane.active ≠ ∅))

/-- A lane that holds a job is in the lanes set. -/
def MultilaneStore.Registered (store : MultilaneStore ι δ ο ε) : Prop :=
  ∀ laneId, (store.lane laneId).Occupied → laneId ∈ store.lanes

variable {store : MultilaneStore ι δ ο ε}

/-- What neither fills an empty lane nor drops a lane in use keeps the lanes registered. -/
theorem MultilaneStore.Registered.of_lanes (registered : store.Registered)
    {after : MultilaneStore ι δ ο ε}
    (filled : ∀ laneId, (after.lane laneId).Occupied →
      (store.lane laneId).Occupied ∨ laneId ∈ after.lanes)
    (kept : ∀ laneId, (after.lane laneId).Occupied → laneId ∈ store.lanes →
      laneId ∈ after.lanes) : after.Registered := by
  intro laneId occupied
  rcases filled laneId occupied with before | present
  · exact kept laneId occupied (registered laneId before)
  · exact present

/-- A script on one lane that fills no empty lane keeps the lanes registered. -/
theorem MultilaneStore.Registered.writeKeys (registered : store.Registered) {laneId : String}
    {keys : Store ι δ ο ε}
    (filled : (Lane.mk keys.pending keys.delayed keys.active).Occupied →
      (store.lane laneId).Occupied ∨ laneId ∈ store.lanes) :
    (store.writeKeys laneId keys).Registered := by
  refine registered.of_lanes ?_ fun _ _ present => present
  intro other occupied
  by_cases same : other = laneId
  · subst same
    simp only [MultilaneStore.writeKeys, Function.update_self] at occupied
    exact filled occupied
  · simp only [MultilaneStore.writeKeys, Function.update_of_ne same] at occupied
    exact .inl occupied

/-- Only a lane whose keys are all empty is dropped. -/
theorem MultilaneStore.Registered.retireLane (registered : store.Registered) (retired : String) :
    (store.retireLane retired).Registered := by
  unfold MultilaneStore.retireLane
  dsimp only
  split
  · rename_i empty
    obtain ⟨noPending, noDelayed, noActive⟩ := empty
    refine registered.of_lanes (fun _ occupied => .inl occupied) ?_
    intro laneId occupied present
    refine AList.mem_erase.mpr ⟨fun same => ?_, present⟩
    subst same
    rcases occupied with pending | delayed | active
    · exact pending (List.length_eq_zero_iff.mp noPending)
    · exact delayed (AList.ext (List.map_eq_nil_iff.mp (List.length_eq_zero_iff.mp noDelayed)))
    · exact active (AList.ext (List.map_eq_nil_iff.mp (List.length_eq_zero_iff.mp noActive)))
  · exact registered

variable [LinearOrder ι]

/-- A visit's refresh registers its lane. -/
theorem LanePopState.registered_refreshLane {state : LanePopState ι δ ο ε}
    (registered : state.store.Registered) (now : Nat) (laneId : String) :
    (state.refreshLane now laneId).store.Registered := by
  refine registered.of_lanes ?_ fun _ _ present => (AList.mem_insert _).mpr (.inr present)
  intro other occupied
  by_cases same : other = laneId
  · exact .inr ((AList.mem_insert _).mpr (.inl same))
  · simp only [refreshLane, processDelayedJobs, cleanupLaneLeases, MultilaneStore.writeKeys,
      Function.update_of_ne same] at occupied
    exact .inl occupied

/-- A lane that gives a job was occupied before. -/
theorem MultilaneStore.Registered.popJobFromLane (registered : store.Registered)
    (options : QueueOptions) (now : Nat) (laneId : String) :
    (store.popJobFromLane options now laneId).2.Registered := by
  have occupied {first : List ι} {target : ι}
      (pending : (store.lane laneId).pending = first ++ [target]) :
      (store.lane laneId).Occupied := by
    left
    rw [pending]
    simp
  rcases store.popJobFromLane_cases options now laneId with
    ⟨-, popped⟩ | ⟨first, target, pending, -, popped⟩ | ⟨first, target, data, pending, -, popped⟩
  · rw [popped]
    exact registered
  · rw [popped]
    exact registered.writeKeys fun _ => .inl (occupied pending)
  · rw [popped]
    exact registered.writeKeys fun _ => .inl (occupied pending)

/-- Carrying out a cancellation touches no lane. -/
theorem LanePopState.registered_sweepCancellation {state : LanePopState ι δ ο ε}
    (registered : state.store.Registered) (now : Nat) (target : ι) :
    (state.sweepCancellation now target).store.Registered := by
  unfold sweepCancellation
  dsimp only
  split
  · exact registered
  split
  · exact registered
  split <;> exact registered

/-- A lane none of whose keys holds anything. -/
theorem Lane.empty_of_not_occupied {lane : Lane ι} (unoccupied : ¬lane.Occupied) :
    lane.pending = [] ∧ lane.delayed = ∅ ∧ lane.active = ∅ := by
  simpa [Lane.Occupied, not_or] using unoccupied

/-- A pop keeps the lanes registered. -/
theorem MultilaneStore.Registered.popBatchJobs (registered : store.Registered)
    (options : QueueOptions) (now batchSize : Nat) :
    (store.popBatchJobs options now batchSize).store.Registered :=
  store.popBatchJobs_preserves options now MultilaneStore.Registered
    (fun state target before => state.registered_sweepCancellation before now target)
    (fun state laneId before => state.registered_refreshLane before now laneId)
    (fun _ laneId before => before.popJobFromLane options now laneId)
    (fun _ laneId before => before.retireLane laneId) batchSize registered

/-- A completion under a live lease finds its job in the lane. -/
theorem MultilaneStore.Registered.completeJob (registered : store.Registered)
    (settled : ∀ id, store.Settled id) (options : QueueOptions) (now : Nat)
    (job : BorrowedJob ι δ) (result : JobResult ο ε) :
    (store.completeJob options now job result).2.Registered := by
  unfold MultilaneStore.completeJob
  split
  · exact registered
  rename_i laneId named
  refine registered.writeKeys fun occupied => .inl ?_
  by_cases held : (store.laneKeys laneId).holdsLease job
  · have issued := ((store.laneKeys laneId).holdsLease_iff job).mp held
    have active := (((settled job.job.id).guarded laneId named).held _ issued).1
    right; right
    intro empty
    simp [laneView, laneKeys, Store.view, empty] at active
  · rw [Store.complete, if_neg held] at occupied
    exact occupied

/-- A cancellation fills no lane. -/
theorem MultilaneStore.Registered.cancelJob (registered : store.Registered) (now : Nat)
    (target : ι) : (store.cancelJob now target).2.Registered := by
  unfold MultilaneStore.cancelJob
  split
  · exact registered
  rename_i laneId named
  refine registered.writeKeys fun occupied => .inl ?_
  by_contra unoccupied
  obtain ⟨pending, delayed, active⟩ := Lane.empty_of_not_occupied unoccupied
  have unchanged : ((store.laneKeys laneId).cancelJob now target).2 = store.laneKeys laneId := by
    simp [Store.cancelJob, laneKeys, pending, delayed, active]
  rw [unchanged] at occupied
  exact unoccupied occupied

/-- A push registers its lane. -/
theorem MultilaneStore.Registered.pushToLane (registered : store.Registered) (now : Nat)
    (pushed : String) (job : JobOptions ι δ) :
    (store.pushToLane now pushed job).2.Registered := by
  have kept (laneId : String) (present : laneId ∈ store.lanes) :
      laneId ∈ Redis.zaddNx store.lanes pushed 0 := by
    unfold Redis.zaddNx
    split
    · exact present
    · exact (AList.mem_insert _).mpr (.inr present)
  have added : pushed ∈ Redis.zaddNx store.lanes pushed 0 := by
    unfold Redis.zaddNx
    split
    · assumption
    · exact (AList.mem_insert _).mpr (.inl rfl)
  unfold MultilaneStore.pushToLane
  dsimp only
  split
  · exact registered
  split
  · refine registered.of_lanes ?_ fun laneId _ present => kept laneId present
    intro laneId occupied
    by_cases same : laneId = pushed
    · exact .inr (same ▸ added)
    · simp only [Function.update_of_ne same] at occupied
      exact .inl occupied
  · refine registered.of_lanes ?_ fun laneId _ present => kept laneId present
    intro laneId occupied
    by_cases same : laneId = pushed
    · exact .inr (same ▸ added)
    · simp only [Function.update_of_ne same] at occupied
      exact .inl occupied

/-- Every operation keeps the lanes registered. -/
theorem MultilaneStore.registered_step (registered : store.Registered)
    (settled : ∀ id, store.Settled id) (options : QueueOptions) (op : LaneOp ι δ ο ε) :
    (store.step options op).Registered := by
  cases op with
  | push now pushed job => exact registered.pushToLane now pushed job
  | pop now batchSize => exact registered.popBatchJobs options now batchSize
  | complete now job result => exact registered.completeJob settled options now job result
  | expireLease target token => exact registered
  | postSuccess =>
    rcases MultilaneStore.postSuccess_eq settled options with same | trimmed
    · rw [MultilaneStore.step, same]
      exact registered
    · rw [MultilaneStore.step, trimmed]
      exact registered
  | postFail =>
    rcases MultilaneStore.postFail_eq settled options with same | trimmed
    · rw [MultilaneStore.step, same]
      exact registered
    · rw [MultilaneStore.step, trimmed]
      exact registered
  | cancel now target => exact registered.cancelJob now target

/-- The lanes are registered after every run. -/
theorem MultilaneStore.registered_after (options : QueueOptions) (ops : List (LaneOp ι δ ο ε)) :
    (Transition.run (MultilaneStore.step options) MultilaneStore.empty ops).Registered := by
  let after := Transition.run (MultilaneStore.step options) MultilaneStore.empty ops
  suffices both : after.Registered ∧ ∀ id, after.Settled id from both.1
  refine Transition.run_always
    (fun store : MultilaneStore ι δ ο ε => store.Registered ∧ ∀ id, store.Settled id) ?_
    MultilaneStore.empty ops ⟨?_, MultilaneStore.settled_empty⟩
  · intro store op holds
    exact ⟨MultilaneStore.registered_step holds.1 holds.2 options op,
      MultilaneStore.settled_step holds.2 options op⟩
  · intro laneId occupied
    simp [Lane.Occupied, MultilaneStore.empty] at occupied

/-- In every reachable state, whatever the operations, batch sizes and clocks, a lane with a
pending, delayed or active job is a member of the lanes set. -/
theorem MultilaneStore.registered_run (options : QueueOptions) (ops : List (LaneOp ι δ ο ε)) :
    ∀ laneId, let store := Transition.run (MultilaneStore.step options) MultilaneStore.empty ops
      (store.lane laneId).Occupied → laneId ∈ store.lanes :=
  MultilaneStore.registered_after options ops

/-- A job that is popped, found alone in its lane and given back. -/
def popAndReturn : List (LaneOp Nat String Nat String) :=
  [.push 0 "a" { data := "tx", id := 7 },
    .pop 1 2,
    .complete 2
      { job :=
          { id := 7, data := "tx", attempts := 1, createdAt := 0, processedAt := some 1
            finishedAt := none }
        leaseToken := { now := 1, jobId := 7, attempts := 1, popId := none } }
      (.error (.nack "busy" none .last))]

/-- The lane of the returned job is registered. -/
theorem MultilaneStore.registered_popAndReturn :
    let store := Transition.run (MultilaneStore.step {}) MultilaneStore.empty popAndReturn
    (store.lane "a").pending = [7] ∧ "a" ∈ store.lanes := by
  intro store
  have pending : (store.lane "a").pending = [7] := by decide +kernel
  refine ⟨pending, MultilaneStore.registered_run {} popAndReturn "a" (.inl ?_)⟩
  rw [pending]
  simp

end OpenEngine.Queue
