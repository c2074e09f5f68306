import OpenEngine.Queue.LeaseHistory
import OpenEngine.Queue.Watch
import OpenEngine.Queue.WorkTask

/-!
# The worker of the single-lane queue

The worker of the single-lane queue is a `WorkQueue`'s on the store of the queue scripts: every lane
is the one there is, and a report is the pipeline of its completion. Everything else that reaches
Redis meanwhile is an access from outside, so what holds of every run of one worker holds of each of
several.
-/

namespace OpenEngine.Queue

variable {ι δ ο ε : Type} [LinearOrder ι]

/-- The pipeline of `complete_job_queue_error`. -/
def Store.applyQueueError (store : Store ι δ ο ε) (options : QueueOptions) (now : Nat)
    (job : BorrowedJob ι δ) (error : ε) : Store ι δ ο ε :=
  let id := job.job.id
  let ended : Store ι δ ο ε :=
    { store.expireLease id job.leaseToken with
      active := store.active.erase id
      failed := id :: store.failed
      jobMeta := Function.update store.jobMeta id
        { store.jobMeta id with finishedAt := some now, leaseToken := none } }
  (ended.addErrorRecord options id
    { error, attempt := job.job.attempts, details := .fail, createdAt := now }).releaseActive
    options id

/-- Failing a job for its data is completing it with a failure. -/
theorem Store.applyQueueError_eq (store : Store ι δ ο ε) (options : QueueOptions) (now : Nat)
    (job : BorrowedJob ι δ) (error : ε) :
    store.applyQueueError options now job error =
      store.applyCompletion options now job (.error (.fail error)) := by
  simp [applyQueueError, applyCompletion, addFailOps, endLease, finish, setMeta, expireLease]

/-- The result a report completes its job with. -/
def Report.result : Report ο ε → JobResult ο ε
  | .complete _ result => result
  | .queueError _ error => .error (.fail error)

/-- The clock of a report. -/
def Report.now : Report ο ε → Nat
  | .complete now _ => now
  | .queueError now _ => now

/-- The pipeline of a report. -/
def Store.applyReport (store : Store ι δ ο ε) (options : QueueOptions) (job : BorrowedJob ι δ) :
    Report ο ε → Store ι δ ο ε
  | .complete now result => store.applyCompletion options now job result
  | .queueError now error => store.applyQueueError options now job error

/-- Both pipelines complete the job with the report's result. -/
theorem Store.applyReport_eq (store : Store ι δ ο ε) (options : QueueOptions)
    (job : BorrowedJob ι δ) (report : Report ο ε) :
    store.applyReport options job report =
      store.applyCompletion options report.now job report.result := by
  cases report with
  | complete now result => rfl
  | queueError now error => exact store.applyQueueError_eq options now job error

/-- A report issues no lease key. -/
theorem Store.leases_applyReport (store : Store ι δ ο ε) (options : QueueOptions)
    (job : BorrowedJob ι δ) (report : Report ο ε) (id : ι) :
    (store.applyReport options job report).leases id =
      if id = job.job.id then (store.leases id).erase job.leaseToken else store.leases id := by
  rw [store.applyReport_eq, Store.leases_applyCompletion]

/-- No more jobs are popped than were asked for. -/
theorem PopState.length_leaseJob (options : QueueOptions) (now : Nat) (popId : String)
    (taken : List ι) (state : PopState ι δ ο ε) :
    (taken.foldl (PopState.leaseJob options now popId) state).resultJobs.length ≤
      state.resultJobs.length + taken.length := by
  induction taken generalizing state with
  | nil => exact Nat.le_refl _
  | cons id rest ih =>
    rw [List.foldl_cons, List.length_cons]
    have one : (state.leaseJob options now popId id).resultJobs.length ≤
        state.resultJobs.length + 1 := by
      unfold PopState.leaseJob
      split
      · exact Nat.le_succ _
      · simp
    have later := ih (state.leaseJob options now popId id)
    omega

/-- A pop returns no more jobs than it was asked for. -/
theorem Store.length_popBatchJobs (store : Store ι δ ο ε) (options : QueueOptions) (now : Nat)
    (popId : String) (batchSize : Nat) :
    (store.popBatchJobs options now popId batchSize).resultJobs.length ≤ batchSize := by
  have cleaned (state : PopState ι δ ο ε) (id : ι) :
      (state.cleanupLease id).resultJobs = state.resultJobs := by
    rw [PopState.cleanupLease_eq]
    split <;> rfl
  have swept (state : PopState ι δ ο ε) (id : ι) :
      (state.sweepCancellation now id).resultJobs = state.resultJobs := by
    simp only [PopState.sweepCancellation]
    split
    · rfl
    · split <;> rfl
  have promoted (state : PopState ι δ ο ε) (id : ι) :
      (state.promoteDelayed id).resultJobs = state.resultJobs := rfl
  unfold Store.popBatchJobs
  refine Nat.le_trans (PopState.length_leaseJob options now popId _ _) ?_
  simp only [PopState.takePending, PopState.foldl_keeps _ PopState.resultJobs promoted,
    PopState.foldl_keeps _ PopState.resultJobs swept,
    PopState.foldl_keeps _ PopState.resultJobs cleaned, List.length_nil, Nat.zero_add,
    List.length_take]
  exact Nat.min_le_left _ _

/-- The single-lane queue, as its workers use it. A pop comes with its second and its pop id. -/
def singleQueue (options : QueueOptions) :
    WorkQueue (Store ι δ ο ε) (BorrowedJob ι δ) (Nat × String) (Op ι δ ο ε) Unit ι δ ο ε where
  step := Store.step options
  leases store := store.leases
  touched := Store.touched options
  stamp := Op.stamp
  borrowed job := job
  pop input batch := .pop input.1 input.2 batch
  popStamp input := (input.1, some input.2)
  popped store input batch := (store.popBatchJobs options input.1 input.2 batch).resultJobs
  known := some ()
  lookUp _ _ _ := some ()
  file filing store := store.applyReport options filing.job filing.report
  completion filing := .complete filing.report.now filing.job filing.report.result
  current store filing := store.holdsLease filing.job
  postSuccess := .postSuccess
  postFail := .postFail
  step_completion store filing held := by
    rw [store.applyReport_eq]
    simp [Store.step, Store.complete, held]
  length_popped store input batch := store.length_popBatchJobs options input.1 input.2 batch
  stamp_pop _ _ := rfl
  stamp_popped store input batch job member :=
    (Option.some.inj
      (store.stamp_handedOut options (.pop input.1 input.2 batch) member)).symm
  stamp_postSuccess := rfl
  stamp_postFail := rfl
  leases_step store op id token gone other := store.leases_step options op id gone other
  leases_file filing store id token gone := by
    rw [store.leases_applyReport]
    split
    · exact fun remaining => gone (Finset.mem_of_mem_erase remaining)
    · exact gone
  leases_filed filing store := by
    rw [store.leases_applyReport, if_pos rfl]
    exact Finset.notMem_erase _ _

/-- A worker between two steps. -/
abbrev Worker (ι δ ο ε : Type) :=
  TaskPool.Pool (Redis.Connection (Store ι δ ο ε) (ι × LeaseToken ι)) (BorrowedJob ι δ)
    (Task (BorrowedJob ι δ) Unit ο ε)

/-- What reaches the Redis of the queue. -/
abbrev QueueAccess (ι δ ο ε : Type) :=
  Access ι (Op ι δ ο ε) (Filing (BorrowedJob ι δ) Unit ο ε)

/-- What can happen to a worker. -/
abbrev WorkAction (ι δ ο ε : Type) :=
  TaskPool.Action (Nat × String) (TaskInput ο ε) (QueueAccess ι δ ο ε)

/-- `work`. -/
abbrev worker (options : WorkOptions) (parse : δ → Except ε Unit) :
    TaskPool.Machine (Redis.Connection (Store ι δ ο ε) (ι × LeaseToken ι)) (BorrowedJob ι δ)
      (Task (BorrowedJob ι δ) Unit ο ε) (Nat × String) (TaskInput ο ε) (QueueAccess ι δ ο ε) :=
  (singleQueue options.toQueueOptions).worker options parse

/-- The store and the connection under a worker are what the accesses of the worker and of everyone
else make of them, in the order they reach Redis. While every report that is carried out finds its
lease, the store is what the queue's operations among them make of it. -/
theorem Worker.store_run (options : WorkOptions) (parse : δ → Except ε Unit)
    (pool : Worker ι δ ο ε) (actions : List (WorkAction ι δ ο ε)) :
    let queue := singleQueue options.toQueueOptions
    let step := TaskPool.Pool.step (worker options parse)
    let sent := Transition.trace step (queue.accesses options parse).sent pool actions
    let source := (Transition.run step pool actions).source
    source = Transition.run queue.access pool.source sent ∧
      (Transition.Along queue.access queue.Current pool.source sent →
        source.store = Transition.run (Store.step options.toQueueOptions) pool.source.store
          (Transition.trace queue.access queue.ops pool.source sent)) := by
  intro queue step sent source
  have ran : source = Transition.run queue.access pool.source sent :=
    (queue.accesses options parse).source_run pool actions
  refine ⟨ran, fun current => ?_⟩
  rw [ran]
  exact queue.store_of_current pool.source sent current

/-- Over every run of a worker: its permits are free, with a task or taken back, so no more jobs
run than there are permits; a popped job gets its permit at once; and every job whose data parsed
has ended as often as it was popped, apart from those that run or are about to. When the worker
returns after a shutdown none do, and once none run it can return. -/
theorem Worker.shuts_down (options : WorkOptions) (parse : δ → Except ε Unit)
    (source : Redis.Connection (Store ι δ ο ε) (ι × LeaseToken ι))
    (actions : List (WorkAction ι δ ο ε)) :
    let machine := worker options parse
    let fresh := TaskPool.Pool.fresh machine source
    let pool := Transition.run (TaskPool.Pool.step machine) fresh actions
    let events := Transition.trace (TaskPool.Pool.step machine) (TaskPool.Pool.events machine) fresh
      actions
    pool.permits + pool.tasks.length + pool.phase.held options.localConcurrency =
        options.localConcurrency ∧
      (∀ job rest, pool.phase = .spawning (job :: rest) → 0 < pool.permits) ∧
      List.Perm (TaskPool.taken events) (TaskPool.ended events ++ pool.unfinished machine) ∧
      (pool.phase = .stopped →
        pool.tasks = [] ∧ List.Perm (TaskPool.taken events) (TaskPool.ended events)) ∧
      ∀ held, pool.phase = .draining held → pool.tasks = [] →
        (Transition.run (TaskPool.Pool.step machine) pool
          (List.replicate (options.localConcurrency - held + 1) .drain)).phase = .stopped :=
  TaskPool.Pool.graceful (worker options parse) source actions

/-- The leases of a worker's jobs. -/
abbrev workerLeases (options : WorkOptions) (parse : δ → Except ε Unit) :
    TaskPool.Tenure (worker options parse : TaskPool.Machine
      (Redis.Connection (Store ι δ ο ε) (ι × LeaseToken ι)) _ _ _ _ _) (Nat × Option String) :=
  (singleQueue options.toQueueOptions).tenure options parse

/-- A worker that has returned holds no lease: whatever its tasks, the other users of its
connection, other processes and lease timeouts did in whatever order, each job whose data parsed has
lost the lease it was popped under, unless it was abandoned. No two pops may have one second and pop
id. -/
theorem Worker.lets_go (options : WorkOptions) (parse : δ → Except ε Unit)
    (source : Redis.Connection (Store ι δ ο ε) (ι × LeaseToken ι))
    (actions : List (WorkAction ι δ ο ε)) :
    let step := TaskPool.Pool.step (worker options parse)
    let fresh := TaskPool.Pool.fresh (worker options parse) source
    let pool := Transition.run step fresh actions
    (Transition.trace step (workerLeases options parse).marks fresh actions).Nodup →
      pool.phase = .stopped →
      ∀ job ∈ TaskPool.taken (Transition.trace step
          (TaskPool.Pool.events (worker options parse)) fresh actions),
        job ∈ Transition.trace step (workerLeases options parse).abandoned fresh actions ∨
          job.leaseToken ∉ pool.source.store.leases job.job.id :=
  (workerLeases options parse).stopped_run source actions

/-- One job is pushed, popped, run and completed, and the worker is told to stop. -/
def oneJob : List (WorkAction Nat String Nat String) :=
  [.outside (.op (.push 0 { data := "tx", id := 7 })),
    .tick,
    .pop (0, "a"),
    .spawn,
    .spawn,
    .shutdown,
    .advance 0 (.returns 1 (.ok 5)),
    .advance 0 .answered,
    .advance 0 .answered,
    .drain,
    .advance 0 .answered,
    .advance 0 .answered,
    .drain,
    .drain]

/-- The worker of `oneJob` makes a push, a pop, a completion and a prune of the store. -/
theorem Worker.store_run_oneJob :
    let machine := worker { localConcurrency := 1 } (fun _ : String => .ok ())
    let start : Worker Nat String Nat String := TaskPool.Pool.fresh machine (.fresh Store.empty)
    (Transition.run (TaskPool.Pool.step machine) start oneJob).source.store.success =
      (Transition.run (Store.step {}) (Store.empty : Store Nat String Nat String)
        [.push 0 { data := "tx", id := 7 }, .pop 0 "a" 1,
          .complete 1 (borrowedAt 7 0 1 "a") (.ok 5), .postSuccess]).success := by
  have outcome := (Worker.store_run { localConcurrency := 1 } (fun _ : String => .ok ())
    (TaskPool.Pool.fresh (worker { localConcurrency := 1 } fun _ => .ok ()) (.fresh Store.empty))
    oneJob).2 (by decide +kernel)
  exact (congrArg Store.success outcome).trans (by decide +kernel)

/-- The worker of `oneJob` returns, and its job's lease is gone. -/
theorem Worker.lets_go_oneJob :
    let machine := worker { localConcurrency := 1 } (fun _ : String => .ok ())
    let pool := Transition.run (TaskPool.Pool.step machine)
      (TaskPool.Pool.fresh machine (.fresh Store.empty)) oneJob
    (borrowedAt 7 0 1 "a").leaseToken ∉ pool.source.store.leases 7 := by
  have outcome := Worker.lets_go { localConcurrency := 1 } (fun _ : String => .ok ())
    (.fresh Store.empty) oneJob (by decide +kernel) (by decide +kernel) (borrowedAt 7 0 1 "a")
    (by decide +kernel)
  exact outcome.resolve_left (by decide +kernel)

/-- A job is abandoned without any failure: while one task is between its `EXISTS` and its `EXEC`,
the lease that the other watches runs out. The `EXEC` is aborted, its task takes the report for
committed, and the worker returns under a lease that is live. -/
example :
    let machine : TaskPool.Machine _ _ (Task _ Unit Nat String) _ _ _ :=
      worker { localConcurrency := 2 } (fun _ : String => .ok ())
    let pool := Transition.run (TaskPool.Pool.step machine)
      (TaskPool.Pool.fresh machine (.fresh Store.empty))
      [.outside (.op (.push 0 { data := "tx", id := 7 })),
        .outside (.op (.push 0 { data := "tx", id := 8 })),
        .tick, .pop (0, "a"), .spawn, .spawn, .spawn, .shutdown,
        .advance 0 (.returns 1 (.ok 5)), .advance 1 (.returns 1 (.ok 6)),
        .advance 0 .answered, .advance 0 .answered, .advance 1 .answered,
        .outside (.op (.expireLease 8 (borrowedAt 8 0 1 "a").leaseToken)),
        .advance 0 .answered, .advance 0 .answered,
        .advance 0 .answered, .advance 0 .answered,
        .drain, .drain, .drain]
    pool.phase = .stopped ∧ (borrowedAt 7 0 1 "a").leaseToken ∈ pool.source.store.leases 7 := by
  decide +kernel

/-- A job whose data does not parse holds no permit: the worker returns while its task has yet to
fail it, under a lease that is live. -/
example :
    let machine : TaskPool.Machine _ _ (Task _ Unit Nat String) _ _ _ :=
      worker { localConcurrency := 1 } (fun _ : String => .error "unreadable")
    let pool := Transition.run (TaskPool.Pool.step machine)
      (TaskPool.Pool.fresh machine (.fresh Store.empty))
      [.outside (.op (.push 0 { data := "tx", id := 7 })), .tick, .pop (0, "a"), .spawn, .shutdown,
        .drain, .drain]
    pool.loose.length = 1 ∧
      (borrowedAt 7 0 1 "a").leaseToken ∈ pool.source.store.leases 7 := by
  decide +kernel

end OpenEngine.Queue
