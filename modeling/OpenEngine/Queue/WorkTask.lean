import Mathlib.Data.Finset.Basic
import OpenEngine.Queue.Job
import OpenEngine.Redis.Connection
import OpenEngine.TaskFleet

/-!
# Workers and the commands of their tasks

`work` of either queue polls it and runs each popped job as a task under one of `local_concurrency`
permits: the handler's `process`, then `complete_job`. A job whose data does not parse gets a task
without a permit that fails it. A completion is the commands of `run_lease_guarded`, and all tasks
of all workers of a queue send theirs over one connection, so they share its watch state; between
any two commands lease keys run out, and anyone else uses the queue.

The two queues differ in their stores and in that a multilane completion looks the lane of its job
up first. A `WorkQueue` is what a worker needs of either.
-/

namespace OpenEngine.Queue

variable {σ β π Ω Λ ι δ ο ε : Type}

/-- The fields of `QueueOptions` that `work` reads itself, with the source's defaults. -/
structure WorkOptions extends QueueOptions where
  localConcurrency : Nat := 100
  alwaysPoll : Bool := false

/-- What a task reports of its job, with the clock the completion reads. -/
inductive Report (ο ε : Type) where
  /-- `complete_job`. -/
  | complete (now : Nat) (result : JobResult ο ε)
  /-- `complete_job_queue_error`. -/
  | queueError (now : Nat) (error : ε)

/-- What the task of a job has left to do. -/
inductive Stage (Λ ο ε : Type) where
  /-- The handler's `process` runs. -/
  | processing
  /-- The data did not parse, and `on_queue_error` runs. -/
  | unreadable (error : ε)
  /-- The lane of the job is looked up. -/
  | lookingUp (report : Report ο ε)
  /-- The report is committed under the job's lease. -/
  | reporting (lane : Λ) (report : Report ο ε) (commit : Redis.Commit)
  /-- `post_success_completion`. -/
  | pruningSuccess
  /-- `post_fail_completion`. -/
  | pruningFailed

/-- The task of a job. -/
structure Task (β Λ ο ε : Type) where
  job : β
  stage : Stage Λ ο ε

/-- What a task meets at its next step. -/
inductive TaskInput (ο ε : Type) where
  /-- The handler returns. -/
  | returns (now : Nat) (result : JobResult ο ε)
  /-- Redis carries the command out and its reply arrives. -/
  | answered
  /-- Redis carries the command out and its reply is lost. -/
  | unheard
  /-- The handler panics, or Redis fails before it carries the command out. -/
  | fails

/-- What is left after a commit: the prune of the list the job went to. -/
def Report.afterCommit : Report ο ε → Option (Stage Λ ο ε)
  | .complete _ (.ok _) => some .pruningSuccess
  | .complete _ (.error (.fail _)) | .queueError _ _ => some .pruningFailed
  | .complete _ (.error (.nack _ _ _)) | .complete _ (.error (.defer _ _)) => none

/-- What is left after a command of the commit that was answered. -/
def Stage.afterCommand (lane : Λ) (report : Report ο ε) : Redis.Commit → Option (Stage Λ ο ε)
  | .returned true => report.afterCommit
  | .returned false => none
  | commit => some (.reporting lane report commit)

/-- What is left after a command without an answer: `EXEC` is tried again from its `WATCH` on, and
any other command ends the task. -/
def Stage.afterSilence (lane : Λ) (report : Report ο ε) : Redis.Commit → Option (Stage Λ ο ε)
  | .committing => some (.reporting lane report .watching)
  | _ => none

/-- The task at another stage. -/
def Task.at (task : Task β Λ ο ε) (stage : Stage Λ ο ε) : Task β Λ ο ε := { task with stage }

/-- A report on a job, with the lane its keys are in. -/
structure Filing (β Λ ο ε : Type) where
  lane : Λ
  job : β
  report : Report ο ε

/-- What a worker needs of its queue: the store with its operations and lease keys, the jobs a pop
returns, and the pipelines of their completions. -/
structure WorkQueue (σ β π Ω Λ ι δ ο ε : Type) where
  step : σ → Ω → σ
  /-- The lease keys. -/
  leases : σ → ι → Finset (LeaseToken ι)
  /-- The lease keys an operation touches. -/
  touched : σ → Ω → List (ι × LeaseToken ι)
  /-- The clock and pop id of a pop. -/
  stamp : Ω → Option (Nat × Option String)
  /-- A returned job with its lease. -/
  borrowed : β → BorrowedJob ι δ
  /-- The pop of up to so many jobs. -/
  pop : π → Nat → Ω
  /-- The stamp of a pop. -/
  popStamp : π → Nat × Option String
  /-- The jobs a pop returns. -/
  popped : σ → π → Nat → List β
  /-- The lane of every job, where it need not be looked up. -/
  known : Option Λ
  /-- The lane found for a job. -/
  lookUp : σ → β → Report ο ε → Option Λ
  /-- The pipeline of a report. -/
  file : Filing β Λ ο ε → σ → σ
  /-- The same as an operation, with its lookup and its lease check. -/
  completion : Filing β Λ ο ε → Ω
  /-- The lookup would find the lane of the report, and the check the lease. -/
  current : σ → Filing β Λ ο ε → Bool
  postSuccess : Ω
  postFail : Ω
  step_completion : ∀ store filing, current store filing →
    step store (completion filing) = file filing store
  length_popped : ∀ store input batch, (popped store input batch).length ≤ batch
  stamp_pop : ∀ input batch, stamp (pop input batch) = some (popStamp input)
  stamp_popped : ∀ store input batch, ∀ job ∈ popped store input batch,
    (borrowed job).leaseToken.stamp = popStamp input
  stamp_postSuccess : stamp postSuccess = none
  stamp_postFail : stamp postFail = none
  leases_step : ∀ store op id token, token ∉ leases store id → stamp op ≠ some token.stamp →
    token ∉ leases (step store op) id
  leases_file : ∀ filing store id token, token ∉ leases store id →
    token ∉ leases (file filing store) id
  leases_filed : ∀ filing store, (borrowed filing.job).leaseToken ∉
    leases (file filing store) (borrowed filing.job).job.id

/-- What reaches Redis. -/
inductive Access (ι Ω Γ : Type) where
  /-- `WATCH` over the connection. -/
  | watch (lease : ι × LeaseToken ι)
  /-- `UNWATCH` over the connection, or a new connection in its place. -/
  | unwatch
  /-- The pipeline of a report over the connection. -/
  | exec (filing : Γ)
  /-- The pipeline of a report that is carried out over another connection. -/
  | elsewhere (filing : Γ)
  /-- An operation of the queue over any connection. -/
  | op (op : Ω)

/-- The queue's store behind the connection of its tasks. -/
abbrev WorkQueue.Connected (_ : WorkQueue σ β π Ω Λ ι δ ο ε) :=
  Redis.Connection σ (ι × LeaseToken ι)

namespace WorkQueue

variable (queue : WorkQueue σ β π Ω Λ ι δ ο ε)

/-- The lease key of a job. -/
def lease (job : β) : ι × LeaseToken ι :=
  ((queue.borrowed job).job.id, (queue.borrowed job).leaseToken)

/-- What is left when the report is known. -/
def opening (report : Report ο ε) : Stage Λ ο ε :=
  match queue.known with
  | some lane => .reporting lane report .watching
  | none => .lookingUp report

variable [DecidableEq ι]

/-- The lease key of a job exists. -/
def held (store : σ) (job : β) : Bool :=
  decide ((queue.lease job).2 ∈ queue.leases store (queue.lease job).1)

/-- The commit of a report under the job's lease. -/
def guarded (filing : Filing β Λ ο ε) : Redis.Guarded σ (ι × LeaseToken ι) where
  key := queue.lease filing.job
  held store := queue.held store filing.job
  apply := queue.file filing

/-- The store and the connection after an access. -/
def access (connection : queue.Connected) : Access ι Ω (Filing β Λ ο ε) → queue.Connected
  | .watch lease => connection.watch lease
  | .unwatch => connection.unwatch
  | .exec filing => connection.exec (queue.file filing)
  | .elsewhere filing =>
    connection.touch (queue.file filing connection.store)
      (if queue.held connection.store filing.job then [queue.lease filing.job] else [])
  | .op op =>
    connection.touch (queue.step connection.store op) (queue.touched connection.store op)

/-- A task's next step. -/
def advance (connection : queue.Connected) (task : Task β Λ ο ε) :
    TaskInput ο ε → queue.Connected × Option (Task β Λ ο ε)
  | .returns now result =>
    match task.stage with
    | .processing => (connection, some (task.at (queue.opening (.complete now result))))
    | .unreadable error => (connection, some (task.at (queue.opening (.queueError now error))))
    | _ => (connection, some task)
  | .answered =>
    match task.stage with
    | .lookingUp report =>
      (connection, (queue.lookUp connection.store task.job report).map fun lane =>
        task.at (.reporting lane report .watching))
    | .reporting lane report commit =>
      let (connection, commit) := connection.command (queue.guarded ⟨lane, task.job, report⟩) commit
      (connection, (Stage.afterCommand lane report commit).map task.at)
    | .pruningSuccess => (queue.access connection (.op queue.postSuccess), none)
    | .pruningFailed => (queue.access connection (.op queue.postFail), none)
    | .processing | .unreadable _ => (connection, some task)
  | .unheard =>
    match task.stage with
    | .lookingUp _ => (connection, none)
    | .reporting lane report commit =>
      ((connection.command (queue.guarded ⟨lane, task.job, report⟩) commit).1,
        (Stage.afterSilence lane report commit).map task.at)
    | .pruningSuccess => (queue.access connection (.op queue.postSuccess), none)
    | .pruningFailed => (queue.access connection (.op queue.postFail), none)
    | .processing | .unreadable _ => (connection, some task)
  | .fails =>
    match task.stage with
    | .reporting lane report commit =>
      (connection, (Stage.afterSilence lane report commit).map task.at)
    | _ => (connection, none)

/-- What `pop_batch_jobs` makes of the reply: a job whose data `parse` takes is returned, any other
gets a task that fails it. -/
def readBatch (parse : δ → Except ε Unit) (jobs : List β) : List β × List (Task β Λ ο ε) :=
  (jobs.filter fun job => (parse (queue.borrowed job).job.data).isOk,
    jobs.filterMap fun job =>
      match parse (queue.borrowed job).job.data with
      | .ok _ => none
      | .error error => some { job, stage := .unreadable error })

/-- What is left of a task is the task at another stage. -/
theorem advance_at (connection : queue.Connected) (task : Task β Λ ο ε) (input : TaskInput ο ε) :
    ∃ stage : Option (Stage Λ ο ε),
      (queue.advance connection task input).2 = stage.map task.at := by
  obtain ⟨job, stage⟩ := task
  cases input with
  | returns now result => cases stage <;> exact ⟨some _, rfl⟩
  | answered =>
    cases stage with
    | processing => exact ⟨some .processing, rfl⟩
    | unreadable error => exact ⟨some (.unreadable error), rfl⟩
    | lookingUp report =>
      refine ⟨(queue.lookUp connection.store job report).map (.reporting · report .watching), ?_⟩
      rw [Option.map_map]
      rfl
    | reporting lane report commit => exact ⟨_, rfl⟩
    | pruningSuccess => exact ⟨none, rfl⟩
    | pruningFailed => exact ⟨none, rfl⟩
  | unheard =>
    cases stage with
    | processing => exact ⟨some .processing, rfl⟩
    | unreadable error => exact ⟨some (.unreadable error), rfl⟩
    | reporting lane report commit => exact ⟨_, rfl⟩
    | _ => exact ⟨none, rfl⟩
  | fails =>
    cases stage with
    | reporting lane report commit => exact ⟨_, rfl⟩
    | _ => exact ⟨none, rfl⟩

/-- A task stays with its job. -/
theorem job_advance (connection : queue.Connected) (task : Task β Λ ο ε) (input : TaskInput ο ε) :
    ∀ left ∈ (queue.advance connection task input).2, left.job = task.job := by
  obtain ⟨stage, moved⟩ := queue.advance_at connection task input
  intro left goes
  rw [moved] at goes
  obtain ⟨later, -, rfl⟩ := Option.map_eq_some_iff.mp goes
  rfl

/-- `work`, as a pool on the store behind the connection. -/
def worker (options : WorkOptions) (parse : δ → Except ε Unit) :
    TaskPool.Machine queue.Connected β (Task β Λ ο ε) π (TaskInput ο ε)
      (Access ι Ω (Filing β Λ ο ε)) where
  limit := options.localConcurrency
  alwaysPoll := options.alwaysPoll
  pop connection input batch :=
    (queue.access connection (.op (queue.pop input batch)),
      queue.readBatch parse (queue.popped connection.store input batch))
  start job := { job, stage := .processing }
  advance := queue.advance
  outside := queue.access
  job := Task.job
  short connection input batch :=
    Nat.le_trans (List.length_filter_le _ _) (queue.length_popped connection.store input batch)
  job_start _ := rfl
  job_advance := queue.job_advance

/-! The accesses of a worker. -/

/-- The access of a command of a commit. `EXISTS` only reads. -/
def commandSends (filing : Filing β Λ ο ε) : Redis.Commit → List (Access ι Ω (Filing β Λ ο ε))
  | .watching => [.watch (queue.lease filing.job)]
  | .unwatching => [.unwatch]
  | .committing => [.exec filing]
  | .checking | .returned _ => []

/-- The access a task makes at its next step. -/
def sends (task : Task β Λ ο ε) : TaskInput ο ε → List (Access ι Ω (Filing β Λ ο ε))
  | .answered | .unheard =>
    match task.stage with
    | .reporting lane report commit => queue.commandSends ⟨lane, task.job, report⟩ commit
    | .pruningSuccess => [.op queue.postSuccess]
    | .pruningFailed => [.op queue.postFail]
    | .processing | .unreadable _ | .lookingUp _ => []
  | .returns _ _ | .fails => []

/-- A command of a commit is its access. -/
theorem command_access (connection : queue.Connected) (filing : Filing β Λ ο ε)
    (commit : Redis.Commit) :
    (connection.command (queue.guarded filing) commit).1 =
      Transition.run queue.access connection (queue.commandSends filing commit) := by
  cases commit <;> rfl

/-- A task's step is the access it makes. -/
theorem advance_access (connection : queue.Connected) (task : Task β Λ ο ε)
    (input : TaskInput ο ε) :
    (queue.advance connection task input).1 =
      Transition.run queue.access connection (queue.sends task input) := by
  obtain ⟨job, stage⟩ := task
  cases input with
  | returns now result => cases stage <;> rfl
  | fails => cases stage <;> rfl
  | answered =>
    cases stage with
    | reporting lane report commit =>
      exact queue.command_access connection ⟨lane, job, report⟩ commit
    | _ => rfl
  | unheard =>
    cases stage with
    | reporting lane report commit =>
      exact queue.command_access connection ⟨lane, job, report⟩ commit
    | _ => rfl

/-- The operations of the queue an access is. An `EXEC` that is aborted is none. -/
def ops (connection : queue.Connected) : Access ι Ω (Filing β Λ ο ε) → List Ω
  | .watch _ | .unwatch => []
  | .exec filing => if connection.dirty then [] else [queue.completion filing]
  | .elsewhere filing => [queue.completion filing]
  | .op op => [op]

/-- A report that is carried out finds its lane and its lease. -/
def Current (connection : queue.Connected) : Access ι Ω (Filing β Λ ο ε) → Prop
  | .exec filing => connection.dirty = false → queue.current connection.store filing
  | .elsewhere filing => queue.current connection.store filing
  | .watch _ | .unwatch | .op _ => True

instance (connection : queue.Connected) :
    ∀ access : Access ι Ω (Filing β Λ ο ε), Decidable (queue.Current connection access)
  | .exec filing => inferInstanceAs (Decidable (connection.dirty = false →
      queue.current connection.store filing = true))
  | .elsewhere filing => inferInstanceAs (Decidable (queue.current connection.store filing = true))
  | .watch _ | .unwatch | .op _ => .isTrue trivial

/-- An access with a current report is its operations. -/
theorem access_store {connection : queue.Connected} {access : Access ι Ω (Filing β Λ ο ε)}
    (current : queue.Current connection access) :
    (queue.access connection access).store =
      Transition.run queue.step connection.store (queue.ops connection access) := by
  cases access with
  | exec filing =>
    cases dirty : connection.dirty with
    | true => simp [WorkQueue.access, Redis.Connection.exec, ops, dirty]
    | false =>
      have filed := queue.step_completion connection.store filing (current dirty)
      simp [WorkQueue.access, Redis.Connection.exec, ops, dirty, filed]
  | elsewhere filing => exact (queue.step_completion connection.store filing current).symm
  | _ => rfl

/-- While every report that is carried out is current, the store behind the connection is what the
queue's operations make of it. -/
theorem store_of_current (connection : queue.Connected) (sent : List (Access ι Ω (Filing β Λ ο ε)))
    (current : Transition.Along queue.access queue.Current connection sent) :
    (Transition.run queue.access connection sent).store =
      Transition.run queue.step connection.store
        (Transition.trace queue.access queue.ops connection sent) := by
  induction sent generalizing connection with
  | nil => rfl
  | cons access rest ih =>
    rw [Transition.run_cons, ih _ current.2, Transition.trace, Transition.run_append,
      queue.access_store current.1]

variable (options : WorkOptions) (parse : δ → Except ε Unit)

/-- The worker's accesses. -/
def accesses : TaskPool.Accesses (queue.worker options parse) (Access ι Ω (Filing β Λ ο ε)) where
  step := queue.access
  request input batch := [.op (queue.pop input batch)]
  sends := queue.sends
  others access := [access]
  pop_source _ _ _ := rfl
  advance_source := queue.advance_access
  outside_source _ _ := rfl

/-- Anyone can make them. -/
def relay : TaskPool.Relay (queue.accesses options parse) where
  act access := access
  outside_act _ _ := rfl

/-! The leases of a worker's jobs. -/

/-- The commit is behind the task, or its lease is. -/
def past (task : Task β Λ ο ε) : Bool :=
  match task.stage with
  | .pruningSuccess | .pruningFailed | .reporting _ _ .unwatching
  | .reporting _ _ (.returned _) => true
  | _ => false

/-- The task ends or takes its report for committed while the job's lease may stand: the handler
panics, the job has no lane, Redis fails the task before its `EXEC`, or it aborts the `EXEC`. -/
def abandons (connection : queue.Connected) (task : Task β Λ ο ε) (input : TaskInput ο ε) : Bool :=
  match input with
  | .returns _ _ => false
  | .answered =>
    match task.stage with
    | .lookingUp report => (queue.lookUp connection.store task.job report).isNone
    | .reporting _ _ .committing => connection.dirty
    | _ => false
  | .unheard =>
    match task.stage with
    | .lookingUp _ | .reporting _ _ .watching | .reporting _ _ .checking => true
    | _ => false
  | .fails =>
    match task.stage with
    | .reporting _ _ .committing => false
    | _ => true

/-- The stamp of an access. -/
def accessStamp : Access ι Ω (Filing β Λ ο ε) → Option (Nat × Option String)
  | .op op => queue.stamp op
  | _ => none

/-- An access issues no lease key but those of its own stamp. -/
theorem gone_access (connection : queue.Connected) (access : Access ι Ω (Filing β Λ ο ε)) (id : ι)
    (token : LeaseToken ι) (gone : token ∉ queue.leases connection.store id)
    (other : queue.accessStamp access ≠ some token.stamp) :
    token ∉ queue.leases (queue.access connection access).store id := by
  cases access with
  | watch lease => exact gone
  | unwatch => exact gone
  | exec filing =>
    simp only [WorkQueue.access, Redis.Connection.exec]
    split
    · exact gone
    · exact queue.leases_file filing _ id token gone
  | elsewhere filing => exact queue.leases_file filing _ id token gone
  | op op => exact queue.leases_step _ op id token gone other

omit [DecidableEq ι] in
/-- No command of a task issues a lease key. -/
theorem unstamped_sends (task : Task β Λ ο ε) (input : TaskInput ο ε) :
    ∀ access ∈ queue.sends task input, queue.accessStamp access = none := by
  have sent (filing : Filing β Λ ο ε) (commit : Redis.Commit) :
      ∀ access ∈ queue.commandSends filing commit, queue.accessStamp access = none := by
    cases commit <;> simp [commandSends, accessStamp]
  have carriedOut : ∀ access ∈ queue.sends task .answered, queue.accessStamp access = none := by
    obtain ⟨job, stage⟩ := task
    cases stage with
    | reporting lane report commit => exact sent ⟨lane, job, report⟩ commit
    | pruningSuccess => simp [sends, accessStamp, queue.stamp_postSuccess]
    | pruningFailed => simp [sends, accessStamp, queue.stamp_postFail]
    | _ => exact List.forall_mem_nil _
  cases input with
  | answered => exact carriedOut
  | unheard => exact carriedOut
  | _ => exact List.forall_mem_nil _

/-- A lease that is gone stays gone through a task's step. -/
theorem gone_advance (connection : queue.Connected) (task : Task β Λ ο ε) (input : TaskInput ο ε)
    (id : ι) (token : LeaseToken ι) (gone : token ∉ queue.leases connection.store id) :
    token ∉ queue.leases (queue.advance connection task input).1.store id := by
  rw [queue.advance_access]
  refine Transition.run_invariant
    (fun connection : queue.Connected => token ∉ queue.leases connection.store id) ?_ connection _
    gone (Transition.along_of_forall connection _ (queue.unstamped_sends task input))
  intro connection access before unstamped
  exact queue.gone_access connection access id token before (by simp [unstamped])

/-- A command of a commit that leads past it has found the lease key gone or has deleted it. -/
theorem lease_command (connection : queue.Connected) (filing : Filing β Λ ο ε)
    {commit : Redis.Commit} (ready : commit = .checking ∧ queue.held connection.store filing.job =
      false ∨ commit = .committing ∧ connection.dirty = false) :
    (queue.borrowed filing.job).leaseToken ∉
      queue.leases (connection.command (queue.guarded filing) commit).1.store
        (queue.borrowed filing.job).job.id := by
  rcases ready with ⟨rfl, lost⟩ | ⟨rfl, clean⟩
  · exact of_decide_eq_false lost
  · have filed := queue.leases_filed filing connection.store
    simpa [Redis.Connection.command, Redis.Connection.exec, clean, guarded] using filed

/-- A task that has its lease before it and does not abandon it has it still before it after a step,
or it is gone. -/
theorem lease_advance (connection : queue.Connected) (task : Task β Λ ο ε) (input : TaskInput ο ε)
    (before : past task = false) (keeps : queue.abandons connection task input = false) :
    (∃ left, (queue.advance connection task input).2 = some left ∧ past left = false) ∨
      (queue.borrowed task.job).leaseToken ∉
        queue.leases (queue.advance connection task input).1.store
          (queue.borrowed task.job).job.id := by
  have opened (report : Report ο ε) : past (task.at (queue.opening report)) = false := by
    unfold opening
    split <;> rfl
  obtain ⟨job, stage⟩ := task
  cases input with
  | returns now result =>
    cases stage with
    | processing => exact .inl ⟨_, rfl, opened _⟩
    | unreadable error => exact .inl ⟨_, rfl, opened _⟩
    | _ => exact .inl ⟨_, rfl, before⟩
  | answered =>
    cases stage with
    | processing => exact .inl ⟨_, rfl, rfl⟩
    | unreadable error => exact .inl ⟨_, rfl, rfl⟩
    | lookingUp report =>
      have found : (queue.lookUp connection.store job report).isSome := by
        simpa [abandons] using keeps
      obtain ⟨lane, found⟩ := Option.isSome_iff_exists.mp found
      exact .inl ⟨⟨job, .reporting lane report .watching⟩, by simp [advance, found, Task.at], rfl⟩
    | reporting lane report commit =>
      cases commit with
      | watching => exact .inl ⟨_, rfl, rfl⟩
      | checking =>
        cases lost : queue.held connection.store job with
        | true =>
          refine .inl ⟨⟨job, .reporting lane report .committing⟩, ?_, rfl⟩
          simp [advance, Redis.Connection.command, guarded, lost, Stage.afterCommand, Task.at]
        | false => exact .inr (queue.lease_command connection ⟨lane, job, report⟩ (.inl ⟨rfl, lost⟩))
      | committing =>
        exact .inr (queue.lease_command connection ⟨lane, job, report⟩ (.inr ⟨rfl, keeps⟩))
      | _ => contradiction
    | _ => contradiction
  | unheard =>
    cases stage with
    | processing => exact .inl ⟨_, rfl, rfl⟩
    | unreadable error => exact .inl ⟨_, rfl, rfl⟩
    | reporting lane report commit =>
      cases commit with
      | committing => exact .inl ⟨_, rfl, rfl⟩
      | _ => contradiction
    | _ => contradiction
  | fails =>
    cases stage with
    | reporting lane report commit =>
      cases commit with
      | committing => exact .inl ⟨_, rfl, rfl⟩
      | _ => contradiction
    | _ => contradiction

/-- The leases of a worker's jobs: a pop marks them with its stamp. -/
def tenure : TaskPool.Tenure (queue.worker options parse) (Nat × Option String) where
  Gone connection job :=
    (queue.borrowed job).leaseToken ∉ queue.leases connection.store (queue.borrowed job).job.id
  mark job := (queue.borrowed job).leaseToken.stamp
  request := queue.popStamp
  others access := (queue.accessStamp access).toList
  past := past
  abandons := queue.abandons
  start_past _ := rfl
  pop_mark connection input batch job member :=
    queue.stamp_popped connection.store input batch job (List.mem_of_mem_filter member)
  pop_gone connection input batch job other gone := by
    refine queue.gone_access connection (.op (queue.pop input batch)) _ _ gone fun same => other ?_
    exact (Option.some.inj ((queue.stamp_pop input batch).symm.trans same)).symm
  outside_gone connection access job other gone :=
    queue.gone_access connection access _ _ gone fun same => other (by simp [same])
  advance_gone connection task input job gone :=
    queue.gone_advance connection task input _ _ gone
  done connection task input before keeps after := by
    rcases queue.lease_advance connection task input before keeps with ⟨left, goes, short⟩ | gone
    · rw [after left (Option.mem_def.mpr goes)] at short
      contradiction
    · exact gone

/-- As accesses of someone else, a worker's bear the stamps of its pops. -/
theorem tenure_passes : (queue.tenure options parse).Passes (queue.relay options parse) where
  request input batch := by
    simp [accesses, tenure, relay, accessStamp, queue.stamp_pop]
  sends task input := by
    refine List.flatMap_eq_nil_iff.mpr fun access member => ?_
    have unstamped := queue.unstamped_sends task input access member
    simp [tenure, relay, unstamped]
  others access := by simp [accesses, tenure, relay]

end WorkQueue

end OpenEngine.Queue
