import OpenEngine.Queue.LaneLeases
import OpenEngine.Queue.WorkLoop

/-!
# The worker of the multilane queue

The worker of the multilane queue is the same on its own store: a pop serves the lanes in turn, and
a completion first looks the job's lane up and then writes the keys of the lane it has found. A job
without a lane is not completed; where its data does not parse, its lane is taken to be `unknown`.
-/

namespace OpenEngine.Queue

variable {ι δ ο ε : Type} [LinearOrder ι]

/-- A turn around the lanes gives one job at most. -/
theorem LanePopState.length_seekJob (options : QueueOptions) (now : Nat)
    (lanes : List (String × Nat)) (state : LanePopState ι δ ο ε) :
    (state.seekJob options now lanes).1.resultJobs.length ≤ state.resultJobs.length + 1 := by
  induction lanes generalizing state with
  | nil => exact Nat.le_succ _
  | cons head rest ih =>
    obtain ⟨laneId, lastScore⟩ := head
    unfold seekJob
    dsimp only
    have told : (if lastScore ≠ now then state.refreshLane now laneId else state).resultJobs =
        state.resultJobs := by
      split <;> rfl
    cases (if lastScore ≠ now then state.refreshLane now laneId
      else state).store.popJobFromLane options now laneId with
    | mk job store =>
      cases job with
      | none =>
        refine Nat.le_trans (ih _) ?_
        dsimp only
        rw [told]
      | some job =>
        dsimp only
        rw [told, List.length_append, List.length_singleton]

/-- A pop returns no more jobs than it was asked for. -/
theorem MultilaneStore.length_popBatchJobs (store : MultilaneStore ι δ ο ε)
    (options : QueueOptions) (now batchSize : Nat) :
    (store.popBatchJobs options now batchSize).resultJobs.length ≤ batchSize := by
  have batch (wanted : Nat) (lanes : List (String × Nat)) (state : LanePopState ι δ ο ε) :
      (state.popLanes options now wanted lanes).resultJobs.length ≤
        state.resultJobs.length + wanted := by
    induction wanted generalizing state lanes with
    | zero => exact Nat.le_refl _
    | succ wanted ih =>
      have one := state.length_seekJob options now lanes
      unfold LanePopState.popLanes
      cases result : state.seekJob options now lanes with
      | mk after next =>
        rw [result] at one
        dsimp only at one
        cases next with
        | none =>
          dsimp only
          omega
        | some next =>
          have later := ih next after
          dsimp only
          omega
  have untold : (store.pendingCancellations.keys.foldl (LanePopState.sweepCancellation now)
      { store }).resultJobs = [] := by
    refine Transition.run_keeps LanePopState.resultJobs (fun state target => ?_) { store } _
    unfold LanePopState.sweepCancellation
    dsimp only
    split
    · rfl
    · split
      · rfl
      · split <;> rfl
  unfold popBatchJobs
  refine Nat.le_trans (batch _ _ _) ?_
  rw [untold, List.length_nil, Nat.zero_add]

/-- The lane a task finds for its job. -/
def MultilaneStore.lookUpLane (store : MultilaneStore ι δ ο ε) (job : BorrowedJob ι δ) :
    Report ο ε → Option String
  | .complete _ _ => (store.jobMeta job.job.id).laneId
  | .queueError _ _ => some ((store.jobMeta job.job.id).laneId.getD "unknown")

/-- The pipeline of a report, on the keys of a lane. -/
def MultilaneStore.applyReport (store : MultilaneStore ι δ ο ε) (options : QueueOptions)
    (laneId : String) (job : BorrowedJob ι δ) (report : Report ο ε) : MultilaneStore ι δ ο ε :=
  store.writeKeys laneId ((store.laneKeys laneId).applyReport options job report)

/-- A report takes away the lease key of its job and no other. -/
theorem MultilaneStore.leases_applyReport (store : MultilaneStore ι δ ο ε)
    (options : QueueOptions) (laneId : String) (job : BorrowedJob ι δ) (report : Report ο ε)
    (id : ι) :
    (store.applyReport options laneId job report).leases id =
      if id = job.job.id then (store.leases id).erase job.leaseToken else store.leases id :=
  (store.laneKeys laneId).leases_applyReport options job report id

/-- The lease keys an operation touches. -/
def MultilaneStore.touched (options : QueueOptions) (store : MultilaneStore ι δ ο ε) :
    LaneOp ι δ ο ε → List (ι × LeaseToken ι)
  | .expireLease id token => if token ∈ store.leases id then [(id, token)] else []
  | op =>
    store.consumed options op ++
      (store.handedOut options op).map fun entry => (entry.2.job.id, entry.2.leaseToken)

/-- The multilane queue, as its workers use it. A pop comes with its second. -/
def laneQueue (options : QueueOptions) :
    WorkQueue (MultilaneStore ι δ ο ε) (String × BorrowedJob ι δ) Nat (LaneOp ι δ ο ε) String ι δ ο
      ε where
  step := MultilaneStore.step options
  leases store := store.leases
  touched := MultilaneStore.touched options
  stamp := LaneOp.stamp
  borrowed entry := entry.2
  pop now batch := .pop now batch
  popStamp now := (now, none)
  popped store now batch := (store.popBatchJobs options now batch).resultJobs
  known := none
  lookUp store entry report := store.lookUpLane entry.2 report
  file filing store := store.applyReport options filing.lane filing.job.2 filing.report
  completion filing := .complete filing.report.now filing.job.2 filing.report.result
  current store filing :=
    decide ((store.jobMeta filing.job.2.job.id).laneId = some filing.lane) &&
      (store.laneKeys filing.lane).holdsLease filing.job.2
  postSuccess := .postSuccess
  postFail := .postFail
  step_completion store filing current := by
    obtain ⟨lane, held⟩ := Bool.and_eq_true_iff.mp current
    have found := of_decide_eq_true lane
    simp [MultilaneStore.step, MultilaneStore.completeJob, found, Store.complete, held,
      MultilaneStore.applyReport, Store.applyReport_eq]
  length_popped store now batch := store.length_popBatchJobs options now batch
  stamp_pop _ _ := rfl
  stamp_popped store now batch entry member :=
    (Option.some.inj (store.stamp_handedOut options (.pop now batch) member)).symm
  stamp_postSuccess := rfl
  stamp_postFail := rfl
  leases_step store op id token gone other := store.leases_step options op id gone other
  leases_file filing store id token gone := by
    rw [store.leases_applyReport]
    split
    · exact fun remaining => gone (Finset.mem_of_mem_erase remaining)
    · exact gone
  leases_filed filing store := by
    rw [store.leases_applyReport, if_pos rfl]
    exact Finset.notMem_erase _ _

/-- A worker between two steps. -/
abbrev LaneWorker (ι δ ο ε : Type) :=
  TaskPool.Pool (Redis.Connection (MultilaneStore ι δ ο ε) (ι × LeaseToken ι))
    (String × BorrowedJob ι δ) (Task (String × BorrowedJob ι δ) String ο ε)

/-- What reaches the Redis of the queue. -/
abbrev LaneAccess (ι δ ο ε : Type) :=
  Access ι (LaneOp ι δ ο ε) (Filing (String × BorrowedJob ι δ) String ο ε)

/-- What can happen to a worker. -/
abbrev LaneWorkAction (ι δ ο ε : Type) :=
  TaskPool.Action Nat (TaskInput ο ε) (LaneAccess ι δ ο ε)

/-- `work` of the multilane queue. -/
abbrev laneWorker (options : WorkOptions) (parse : δ → Except ε Unit) :
    TaskPool.Machine (Redis.Connection (MultilaneStore ι δ ο ε) (ι × LeaseToken ι))
      (String × BorrowedJob ι δ) (Task (String × BorrowedJob ι δ) String ο ε) Nat (TaskInput ο ε)
      (LaneAccess ι δ ο ε) :=
  (laneQueue options.toQueueOptions).worker options parse

/-- The store and the connection under a worker are what the accesses of the worker and of everyone
else make of them, in the order they reach Redis. While every report that is carried out finds its
lease, and its job in the lane that was looked up, the store is what the queue's operations among
them make of it. -/
theorem LaneWorker.lane_store_run (options : WorkOptions) (parse : δ → Except ε Unit)
    (pool : LaneWorker ι δ ο ε) (actions : List (LaneWorkAction ι δ ο ε)) :
    let queue := laneQueue options.toQueueOptions
    let step := TaskPool.Pool.step (laneWorker options parse)
    let sent := Transition.trace step (queue.accesses options parse).sent pool actions
    let source := (Transition.run step pool actions).source
    source = Transition.run queue.access pool.source sent ∧
      (Transition.Along queue.access queue.Current pool.source sent →
        source.store = Transition.run (MultilaneStore.step options.toQueueOptions) pool.source.store
          (Transition.trace queue.access queue.ops pool.source sent)) := by
  intro queue step sent source
  have ran : source = Transition.run queue.access pool.source sent :=
    (queue.accesses options parse).source_run pool actions
  refine ⟨ran, fun current => ?_⟩
  rw [ran]
  exact queue.store_of_current pool.source sent current

/-- The leases of a worker's jobs. -/
abbrev laneWorkerLeases (options : WorkOptions) (parse : δ → Except ε Unit) :
    TaskPool.Tenure (laneWorker options parse : TaskPool.Machine
      (Redis.Connection (MultilaneStore ι δ ο ε) (ι × LeaseToken ι)) _ _ _ _ _)
      (Nat × Option String) :=
  (laneQueue options.toQueueOptions).tenure options parse

/-- A multilane worker that has returned holds no lease: whatever its tasks, the other users of its
connection, other processes and lease timeouts did in whatever order, each job whose data parsed has
lost the lease it was popped under, unless it was abandoned. No two pops may be in one second. -/
theorem LaneWorker.lane_lets_go (options : WorkOptions) (parse : δ → Except ε Unit)
    (source : Redis.Connection (MultilaneStore ι δ ο ε) (ι × LeaseToken ι))
    (actions : List (LaneWorkAction ι δ ο ε)) :
    let step := TaskPool.Pool.step (laneWorker options parse)
    let fresh := TaskPool.Pool.fresh (laneWorker options parse) source
    let pool := Transition.run step fresh actions
    (Transition.trace step (laneWorkerLeases options parse).marks fresh actions).Nodup →
      pool.phase = .stopped →
      ∀ entry ∈ TaskPool.taken (Transition.trace step
          (TaskPool.Pool.events (laneWorker options parse)) fresh actions),
        entry ∈ Transition.trace step (laneWorkerLeases options parse).abandoned fresh actions ∨
          entry.2.leaseToken ∉ pool.source.store.leases entry.2.job.id :=
  (laneWorkerLeases options parse).stopped_run source actions

/-- One job of a lane is popped, run and completed, and the worker is told to stop. -/
def oneLaneJob : List (LaneWorkAction Nat String Nat String) :=
  [.outside (.op (.push 0 "a" { data := "tx", id := 7 })),
    .tick,
    .pop 0,
    .spawn,
    .spawn,
    .shutdown,
    .advance 0 (.returns 1 (.ok 5)),
    .advance 0 .answered,
    .advance 0 .answered,
    .advance 0 .answered,
    .advance 0 .answered,
    .advance 0 .answered,
    .drain,
    .drain]

/-- The worker of `oneLaneJob` returns, and its job's lease is gone. -/
theorem LaneWorker.lane_lets_go_oneLaneJob :
    let machine := laneWorker { localConcurrency := 1 } (fun _ : String => .ok ())
    let pool := Transition.run (TaskPool.Pool.step machine)
      (TaskPool.Pool.fresh machine (.fresh MultilaneStore.empty)) oneLaneJob
    poppedAtZero.leaseToken ∉ pool.source.store.leases 7 := by
  have outcome := LaneWorker.lane_lets_go { localConcurrency := 1 } (fun _ : String => .ok ())
    (.fresh MultilaneStore.empty) oneLaneJob (by decide +kernel) (by decide +kernel)
    ("a", poppedAtZero) (by decide +kernel)
  exact outcome.resolve_left (by decide +kernel)

end OpenEngine.Queue
