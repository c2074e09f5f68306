import OpenEngine.Queue.LaneWorkLoop

/-!
# Polling without a free permit

`always_poll` has a worker poll even when all its permits are taken, so that local concurrency does
not hold up lapsed leases and due jobs. A batch of no job still does that housekeeping on the
single-lane queue. The multilane pop cleans a lane up when it visits it for a job, so a batch of no
job visits none.
-/

namespace OpenEngine.Queue

variable {ι δ ο ε : Type} [LinearOrder ι]

/-- An active job holds its lease. -/
def JobView.KeepsLease (view : JobView ι δ ο ε) : Prop := view.active.isSome → ¬view.LeaseGone

/-- The job is not in the delayed set, or it is due after `now`. -/
def JobView.NotDue (now : Nat) (view : JobView ι δ ο ε) : Prop :=
  ∀ until_ ∈ view.delayed, now < until_

omit [LinearOrder ι] in
/-- A job that keeps its place among the active jobs and its lease keeps its lease. -/
theorem JobView.KeepsLease.of_same {view after : JobView ι δ ο ε} (keeps : view.KeepsLease)
    (active : after.active = view.active) (leases : after.leases = view.leases)
    (token : after.info.leaseToken = view.info.leaseToken) : after.KeepsLease := by
  unfold JobView.KeepsLease JobView.LeaseGone
  rw [active, leases, token]
  exact keeps

variable (id : ι)

/-- A phase of the pop script that leaves an id in a state on its turn, and leaves it alone on the
turns of others, has it in that state in the end. -/
theorem PopState.foldl_settles (phase : PopState ι δ ο ε → ι → PopState ι δ ο ε)
    (property : JobView ι δ ο ε → Prop)
    (self : ∀ state, property ((phase state id).store.view id))
    (other : ∀ state turn, id ≠ turn → (phase state turn).store.view id = state.store.view id)
    (ids : List ι) (state : PopState ι δ ο ε)
    (start : id ∉ ids → property (state.store.view id)) :
    property ((ids.foldl phase state).store.view id) := by
  induction ids generalizing state with
  | nil => exact start (by simp)
  | cons turn rest ih =>
    refine ih _ fun absent => ?_
    by_cases same : id = turn
    · subst same
      exact self state
    · rw [other state turn same]
      exact start (by simp [same, absent])

/-- The cleanup leaves no job active without its lease. -/
theorem PopState.keepsLease_cleanup (state : PopState ι δ ο ε) :
    ((state.store.active.keys.foldl PopState.cleanupLease state).store.view id).KeepsLease := by
  refine PopState.foldl_settles id PopState.cleanupLease JobView.KeepsLease (fun state => ?_)
    (fun state turn different =>
      (PopState.cleanupLease_other {} id state turn different).view) _ state fun absent => ?_
  · rw [PopState.cleanupLease_eq]
    split
    · intro active
      simp [PopState.requeue, Store.view] at active
    · rename_i held
      exact fun _ => held
  · exact fun active => absurd (AList.lookup_isSome.mp active) absent

/-- What the sweep does to a job leaves its place among the active and the delayed jobs and its
lease alone. -/
theorem PopState.frame_sweep (now : Nat) (ids : List ι) (state : PopState ι δ ο ε) :
    let swept := ids.foldl (PopState.sweepCancellation now) state
    swept.store.active = state.store.active ∧ swept.store.delayed = state.store.delayed ∧
      swept.store.leases = state.store.leases ∧
      (swept.store.jobMeta id).leaseToken = (state.store.jobMeta id).leaseToken := by
  have kept := PopState.foldl_keeps (PopState.sweepCancellation now)
    (fun state => (state.store.active, state.store.delayed, state.store.leases,
      (state.store.jobMeta id).leaseToken)) (fun state target => ?_) ids state
  · simpa only [Prod.mk.injEq] using kept
  · unfold sweepCancellation
    dsimp only
    split
    · rfl
    · split
      · rfl
      · by_cases same : id = target
        · subst same
          simp [Store.setMeta]
        · simp [Store.setMeta, same]

/-- What the promotion of due jobs does to a job leaves its place among the active jobs and its
lease alone. -/
theorem PopState.frame_promote (ids : List ι) (state : PopState ι δ ο ε) :
    let promoted := ids.foldl PopState.promoteDelayed state
    promoted.store.active = state.store.active ∧ promoted.store.leases = state.store.leases ∧
      (promoted.store.jobMeta id).leaseToken = (state.store.jobMeta id).leaseToken := by
  have kept := PopState.foldl_keeps PopState.promoteDelayed
    (fun state => (state.store.active, state.store.leases,
      (state.store.jobMeta id).leaseToken)) (fun state target => ?_) ids state
  · simpa only [Prod.mk.injEq] using kept
  · unfold promoteDelayed
    dsimp only
    by_cases same : id = target
    · subst same
      split <;> simp [Store.setMeta]
    · split <;> simp [Store.setMeta, same]

/-- The promotion leaves no due job in the delayed set. -/
theorem PopState.notDue_promote (now : Nat) (state : PopState ι δ ο ε) :
    (((Redis.zrangeByScore state.store.delayed now).foldl PopState.promoteDelayed
      state).store.view id).NotDue now := by
  refine PopState.foldl_settles id PopState.promoteDelayed (JobView.NotDue now) (fun state => ?_)
    (fun state turn different =>
      (PopState.promoteDelayed_other {} id state turn different).view) _ state fun absent => ?_
  · intro until_ found
    unfold promoteDelayed at found
    dsimp only at found
    split at found <;> simp [Store.view] at found
  · intro until_ found
    by_contra due
    exact absent (Redis.mem_zrangeByScore_of_lookup found (Nat.le_of_not_lt due))

/-- A pop that asks for no job hands none out, and leaves no job active without its lease and none
delayed that is due. -/
theorem Store.housekeeping (store : Store ι δ ο ε) (options : QueueOptions) (now : Nat)
    (popId : String) :
    let after := store.popBatchJobs options now popId 0
    after.resultJobs = [] ∧
      (after.store.view id).KeepsLease ∧ (after.store.view id).NotDue now := by
  intro after
  have none : after.resultJobs = [] :=
    List.length_eq_zero_iff.mp (Nat.le_zero.mp (store.length_popBatchJobs options now popId 0))
  refine ⟨none, ?_⟩
  set cleaned := store.active.keys.foldl PopState.cleanupLease { store }
  set swept := cleaned.store.pendingCancellations.keys.foldl (PopState.sweepCancellation now)
    cleaned
  set promoted := (Redis.zrangeByScore swept.store.delayed now).foldl PopState.promoteDelayed swept
  have last : after.store.view id = promoted.store.view id := rfl
  have held : (cleaned.store.view id).KeepsLease :=
    PopState.keepsLease_cleanup id ({ store } : PopState ι δ ο ε)
  obtain ⟨active, -, leases, token⟩ :=
    PopState.frame_sweep id now cleaned.store.pendingCancellations.keys cleaned
  obtain ⟨still, kept, named⟩ :=
    PopState.frame_promote id (Redis.zrangeByScore swept.store.delayed now) swept
  have sweptHeld : (swept.store.view id).KeepsLease :=
    held.of_same (congrArg (·.lookup id) active) (congrFun leases id) token
  rw [last]
  exact ⟨sweptHeld.of_same (congrArg (·.lookup id) still) (congrFun kept id) named,
    PopState.notDue_promote id now swept⟩

/-- A multilane pop that asks for no job visits no lane: it hands none out and leaves the keys of
every lane, the lanes themselves and every lease as they were. -/
theorem MultilaneStore.no_housekeeping (store : MultilaneStore ι δ ο ε) (options : QueueOptions)
    (now : Nat) :
    let after := store.popBatchJobs options now 0
    after.resultJobs = [] ∧ after.timedOutJobs = [] ∧ after.store.lane = store.lane ∧
      after.store.lanes = store.lanes ∧ after.store.leases = store.leases := by
  let read (state : LanePopState ι δ ο ε) :=
    (state.resultJobs, state.timedOutJobs, state.store.lane, state.store.lanes, state.store.leases)
  have swept (state : LanePopState ι δ ο ε) (target : ι) :
      read (state.sweepCancellation now target) = read state := by
    unfold LanePopState.sweepCancellation
    dsimp only
    split
    · rfl
    · split
      · rfl
      · split <;> rfl
  have kept : read (store.popBatchJobs options now 0) = read { store } :=
    Transition.run_keeps read swept { store } store.pendingCancellations.keys
  simpa only [read, Prod.mk.injEq] using kept

/-- A worker that polls without a free permit is handed no job: its next tick and pop start no task,
and reach Redis as a pop of no job. -/
theorem WorkQueue.polls_for_none {σ β π Ω Λ : Type} (queue : WorkQueue σ β π Ω Λ ι δ ο ε)
    (options : WorkOptions) (parse : δ → Except ε Unit) (always : options.alwaysPoll = true)
    (pool : TaskPool.Pool queue.Connected β (Task β Λ ο ε)) (polling : pool.phase = .polling)
    (busy : pool.permits = 0) (input : π) :
    Transition.run (TaskPool.Pool.step (queue.worker options parse)) pool [.tick, .pop input] =
      { pool with
        source := queue.access pool.source (.op (queue.pop input 0))
        phase := .spawning [] } := by
  have none : queue.popped pool.source.store input 0 = [] :=
    List.length_eq_zero_iff.mp (Nat.le_zero.mp (queue.length_popped pool.source.store input 0))
  simp [TaskPool.Pool.step, worker, polling, busy, always, none, readBatch]

/-- Under `always_poll` a worker whose permits are all taken still polls: the next tick and its pop
start no task, with or without a permit, and leave no job active without its lease and none delayed
that is due. -/
theorem Worker.keeps_house (options : WorkOptions) (parse : δ → Except ε Unit)
    (always : options.alwaysPoll = true) (pool : Worker ι δ ο ε) (polling : pool.phase = .polling)
    (busy : pool.permits = 0) (now : Nat) (popId : String) :
    let after := Transition.run (TaskPool.Pool.step (worker options parse)) pool
      [.tick, .pop (now, popId)]
    after.phase = .spawning [] ∧ after.loose = pool.loose ∧
      (after.source.store.view id).KeepsLease ∧ (after.source.store.view id).NotDue now := by
  intro after
  obtain ⟨-, held, due⟩ := pool.source.store.housekeeping id options.toQueueOptions now popId
  have polled := (singleQueue options.toQueueOptions).polls_for_none options parse always pool
    polling busy (now, popId)
  rw [show after = _ from polled]
  exact ⟨rfl, rfl, held, due⟩

/-- A multilane worker whose permits are all taken polls to no effect: with `always_poll` or
without, the next tick and its pop start no task, with or without a permit, and leave every lane as
it was, its lapsed leases and its due jobs among it. -/
theorem LaneWorker.keeps_no_house (options : WorkOptions) (parse : δ → Except ε Unit)
    (pool : LaneWorker ι δ ο ε) (polling : pool.phase = .polling) (busy : pool.permits = 0)
    (now : Nat) :
    let after := Transition.run (TaskPool.Pool.step (laneWorker options parse)) pool
      [.tick, .pop now]
    after.source.store.lane = pool.source.store.lane ∧
      after.source.store.leases = pool.source.store.leases ∧ after.tasks = pool.tasks ∧
      after.loose = pool.loose ∧
      after.phase = if options.alwaysPoll then .spawning [] else .polling := by
  intro after
  obtain ⟨-, -, lane, -, leases⟩ :=
    pool.source.store.no_housekeeping options.toQueueOptions now
  cases always : options.alwaysPoll with
  | false =>
    have same : after = pool := by
      simp [after, TaskPool.Pool.step, polling, WorkQueue.worker, always, busy]
    rw [same]
    exact ⟨rfl, rfl, rfl, rfl, polling⟩
  | true =>
    have polled := (laneQueue options.toQueueOptions).polls_for_none options parse always pool
      polling busy now
    rw [show after = _ from polled]
    exact ⟨lane, leases, rfl, rfl, rfl⟩

/-- A worker of one permit under `always_poll`, busy with one job. -/
def busyWorker : List (WorkAction Nat String Nat String) :=
  [.outside (.op (.push 0 { data := "tx", id := 7 })),
    .outside (.op (.push 0 { data := "tx", id := 8, delay := some ⟨.fromSecs 5, .last⟩ })),
    .tick,
    .pop (0, "a"),
    .spawn,
    .spawn]

/-- Its next poll at second 9 promotes the delayed job. -/
theorem Worker.keeps_house_busyWorker :
    let machine := worker { localConcurrency := 1, alwaysPoll := true } (fun _ : String => .ok ())
    let pool := Transition.run (TaskPool.Pool.step machine)
      (TaskPool.Pool.fresh machine (.fresh Store.empty)) busyWorker
    ((Transition.run (TaskPool.Pool.step machine) pool
      [.tick, .pop (9, "b")]).source.store.view 8).NotDue 9 := by
  exact (Worker.keeps_house 8 { localConcurrency := 1, alwaysPoll := true }
    (fun _ : String => .ok ()) rfl _ (by decide +kernel) (by decide +kernel) 9 "b").2.2.2

/-- A multilane worker of one permit under `always_poll`, busy with one job of its only lane. -/
def busyLaneWorker : List (LaneWorkAction Nat String Nat String) :=
  [.outside (.op (.push 0 "a" { data := "tx", id := 7 })),
    .outside (.op (.push 0 "a" { data := "tx", id := 8, delay := some ⟨.fromSecs 5, .last⟩ })),
    .tick,
    .pop 0,
    .spawn,
    .spawn]

/-- Its next poll at second 9 leaves the lane, with a job due since second 5, as it was. -/
theorem LaneWorker.keeps_no_house_busyLaneWorker :
    let machine := laneWorker { localConcurrency := 1, alwaysPoll := true }
      (fun _ : String => .ok ())
    let pool := Transition.run (TaskPool.Pool.step machine)
      (TaskPool.Pool.fresh machine (.fresh MultilaneStore.empty)) busyLaneWorker
    (pool.source.store.lane "a").delayed.lookup 8 = some 5 ∧
      (Transition.run (TaskPool.Pool.step machine) pool [.tick, .pop 9]).source.store.lane =
        pool.source.store.lane := by
  refine ⟨by decide +kernel, ?_⟩
  exact (LaneWorker.keeps_no_house { localConcurrency := 1, alwaysPoll := true }
    (fun _ : String => .ok ()) _ (by decide +kernel) (by decide +kernel) 9).1

end OpenEngine.Queue
