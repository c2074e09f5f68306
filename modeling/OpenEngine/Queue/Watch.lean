import OpenEngine.Queue.Conservation
import OpenEngine.Redis.Connection

/-!
# Commits over one shared connection

`run_lease_guarded` watches the lease key, checks that it exists and sends the pipeline as one
`MULTI`/`EXEC`. The tasks of a process do this over clones of one connection, so they share its
watch state, and a task whose `EXEC` Redis aborts reports a commit.

`Process` is the connection with its tasks. A step is one command of a task, a lease key running
out, or an operation of another process.
-/

namespace OpenEngine.Queue

/-- What a task completes: the job it borrowed, with its result and the clock it read. -/
structure Completion (ι δ ο ε : Type) where
  now : Nat
  job : BorrowedJob ι δ
  result : JobResult ο ε

variable {κ ι δ ο ε : Type}

/-- The lease key a completion runs under. -/
def Completion.lease (completion : Completion ι δ ο ε) : ι × LeaseToken ι :=
  (completion.job.job.id, completion.job.leaseToken)

/-- The queue's keys behind the shared connection, which watches lease keys, and the tasks that use
it. -/
structure Process (κ ι δ ο ε : Type) extends
    Redis.Connection (Store ι δ ο ε) (ι × LeaseToken ι) where
  /-- Where each task is in `run_lease_guarded`. -/
  tasks : κ → Redis.Commit

/-- Nothing stored, nothing watched, every task before its `WATCH`. -/
def Process.empty : Process κ ι δ ο ε := ⟨.fresh Store.empty, fun _ => .watching⟩

/-- A command of a task, a lease key running out, or an operation of another process. -/
inductive ProcessStep (κ ι δ ο ε : Type) where
  | task (who : κ)
  | expire (id : ι) (token : LeaseToken ι)
  | beside (op : Op ι δ ο ε)

variable [LinearOrder ι] [DecidableEq κ]

/-- The lease keys an operation touches: it deletes one, one runs out, or a pop issues some. -/
def Store.touched (options : QueueOptions) (store : Store ι δ ο ε) :
    Op ι δ ο ε → List (ι × LeaseToken ι)
  | .expireLease id token => if token ∈ store.leases id then [(id, token)] else []
  | op =>
    store.consumed op ++
      (store.handedOut options op).map fun job => (job.job.id, job.leaseToken)

/-- The commit of a completion under its lease. -/
def Completion.guarded (completion : Completion ι δ ο ε) (options : QueueOptions) :
    Redis.Guarded (Store ι δ ο ε) (ι × LeaseToken ι) where
  key := completion.lease
  held store := store.holdsLease completion.job
  apply store := store.applyCompletion options completion.now completion.job completion.result

/-- The process after a task's next command. -/
def Process.advance (completion : Completion ι δ ο ε) (options : QueueOptions)
    (process : Process κ ι δ ο ε) (who : κ) : Process κ ι δ ο ε :=
  let (connection, commit) :=
    process.toConnection.command (completion.guarded options) (process.tasks who)
  { toConnection := connection, tasks := Function.update process.tasks who commit }

/-- The process after an operation, of whichever process. -/
def Process.operate (options : QueueOptions) (process : Process κ ι δ ο ε) (op : Op ι δ ο ε) :
    Process κ ι δ ο ε :=
  { process with
    toConnection :=
      process.touch (process.store.step options op) (process.store.touched options op) }

/-- The process after a step. -/
def Process.step (completions : κ → Completion ι δ ο ε) (options : QueueOptions)
    (process : Process κ ι δ ο ε) : ProcessStep κ ι δ ο ε → Process κ ι δ ο ε
  | .task who => process.advance (completions who) options who
  | .expire id token => process.operate options (.expireLease id token)
  | .beside op => process.operate options op

/-- The task whose operations the step applies. -/
def Process.applied (process : Process κ ι δ ο ε) : ProcessStep κ ι δ ο ε → List κ
  | .task who => if process.tasks who = .committing ∧ process.dirty = false then [who] else []
  | _ => []

/-- Operations that neither commit a completion nor end a lease. -/
def Op.isBeside : Op ι δ ο ε → Bool
  | .complete _ _ _ | .expireLease _ _ => false
  | _ => true

/-- The steps that keep commits guarded. A lease key goes, by running out or by the commit of
another task, only while no task that has found it is about to commit under it, and no `EXEC` is
sent while a watched key has been touched. -/
def Process.Guarded (completions : κ → Completion ι δ ο ε) (process : Process κ ι δ ο ε) :
    ProcessStep κ ι δ ο ε → Prop
  | .task who => process.tasks who = .committing → process.dirty = false ∧
      ∀ other, other ≠ who → process.tasks other = .committing →
        (completions other).lease ≠ (completions who).lease
  | .expire id token => ∀ who, process.tasks who = .committing →
      (completions who).lease ≠ (id, token)
  | .beside op => op.isBeside

/-- A task about to commit finds its lease, and without a lease duration there are no leases. -/
structure Process.Covered (completions : κ → Completion ι δ ο ε) (options : QueueOptions)
    (process : Process κ ι δ ο ε) : Prop where
  held : ∀ who, process.tasks who = .committing →
    process.store.holdsLease (completions who).job
  bare : options.leaseDuration.secs = 0 → ∀ id, process.store.leases id = ∅

section Leases

omit [DecidableEq κ]

/-- Under a lease duration, an operation beside the commits keeps every lease key. -/
theorem Store.leases_kept (store : Store ι δ ο ε) {options : QueueOptions}
    (lasting : options.leaseDuration.secs ≠ 0) {op : Op ι δ ο ε} (beside : op.isBeside) (id : ι) :
    store.leases id ⊆ (store.step options op).leases id := by
  refine store.step_preserves options op id (fun view => store.leases id ⊆ view.leases) ?_
    subset_rfl
  intro view event before caused _
  rcases view.leases_cases options id event with
    same | ⟨now, popId, rfl, leased⟩ | ⟨token, -, ended⟩
  · rw [same]
    exact before
  · rw [leased, if_neg lasting]
    exact before.trans (Finset.subset_insert _ _)
  · rcases ended with ⟨now, job, result, rfl, -⟩ | rfl <;>
      cases op <;> simp_all [Op.Causes, JobEvent.OfPop, Op.isBeside]

/-- Without a lease duration there never is a lease key. -/
theorem Store.leases_bare (store : Store ι δ ο ε) {options : QueueOptions}
    (instant : options.leaseDuration.secs = 0) (op : Op ι δ ο ε) {id : ι}
    (bare : store.leases id = ∅) : (store.step options op).leases id = ∅ := by
  refine store.step_preserves options op id (fun view => view.leases = ∅) ?_ bare
  intro view event before _ _
  rcases view.leases_cases options id event with
    same | ⟨now, popId, rfl, leased⟩ | ⟨token, erased, -⟩
  · rw [same, before]
  · rw [leased, if_pos instant, before]
    rfl
  · rw [erased, before]
    rfl

/-- A lease key that runs out takes no other with it. -/
theorem Store.leases_expireLease (store : Store ι δ ο ε) (expired : ι) (token : LeaseToken ι)
    (id : ι) :
    (store.expireLease expired token).leases id =
      if id = expired then (store.leases id).erase token else store.leases id := by
  by_cases named : id = expired
  · subst named
    simp [Store.expireLease]
  · simp [Store.expireLease, named]

/-- A committed completion takes away its own lease key and no other. -/
theorem Store.leases_applyCompletion (store : Store ι δ ο ε) (options : QueueOptions) (now : Nat)
    (job : BorrowedJob ι δ) (result : JobResult ο ε) (id : ι) :
    (store.applyCompletion options now job result).leases id =
      if id = job.job.id then (store.leases id).erase job.leaseToken else store.leases id := by
  split
  · rename_i named
    subst named
    have applied := store.view_applyCompletion_self options now job result
    have erased := congrArg JobView.leases applied
    rw [JobView.leases_complete] at erased
    exact erased
  · rename_i different
    exact congrArg JobView.leases
      (store.view_applyCompletion_of_ne options now job result different)

/-- A completion keeps the leases of other completions. -/
theorem Store.holdsLease_applyCompletion (store : Store ι δ ο ε) (options : QueueOptions)
    (now : Nat) (job other : BorrowedJob ι δ) (result : JobResult ο ε)
    (different : (other.job.id, other.leaseToken) ≠ (job.job.id, job.leaseToken))
    (held : store.holdsLease other) :
    (store.applyCompletion options now job result).holdsLease other := by
  have issued : other.leaseToken ∈ store.leases other.job.id := by
    simpa [Store.holdsLease] using held
  simp only [Store.holdsLease, decide_eq_true_eq]
  rw [store.leases_applyCompletion options now job result]
  split
  · rename_i named
    refine Finset.mem_erase.mpr ⟨fun same => different ?_, issued⟩
    rw [named, same]
  · exact issued

end Leases

section Steps

variable {completions : κ → Completion ι δ ο ε} {options : QueueOptions}
  {process : Process κ ι δ ο ε}

/-- A task's command keeps the leases of the tasks about to commit. -/
theorem Process.Covered.advance (covered : process.Covered completions options) (who : κ)
    (guarded : process.Guarded completions (.task who)) :
    (process.advance (completions who) options who).Covered completions options := by
  -- Where the store stays, only the task that moves can have become ready.
  have stays (commit : Redis.Commit) (connection : Redis.Connection (Store ι δ ο ε) _)
      (same : connection.store = process.store)
      (ready : commit = .committing → process.store.holdsLease (completions who).job) :
      (⟨connection, Function.update process.tasks who commit⟩ :
        Process κ ι δ ο ε).Covered completions options := by
    refine ⟨fun other waiting => ?_, fun instant id => ?_⟩
    · dsimp only at waiting ⊢
      rw [same]
      by_cases named : other = who
      · subst named
        exact ready (by simpa using waiting)
      · exact covered.held other (by simpa [Function.update_of_ne named] using waiting)
    · dsimp only
      rw [same]
      exact covered.bare instant id
  unfold Process.advance
  cases commit : process.tasks who with
  | watching => exact stays .checking _ rfl nofun
  | unwatching => exact stays (.returned false) _ rfl nofun
  | returned committed => exact stays (.returned committed) _ rfl nofun
  | checking =>
    refine stays _ _ rfl fun found => ?_
    by_contra lost
    simp [Completion.guarded, lost] at found
  | committing =>
    obtain ⟨clean, apart⟩ := guarded commit
    simp only [Redis.Connection.command, Redis.Connection.exec, clean, Bool.false_eq_true,
      ↓reduceIte]
    refine ⟨fun other ready => ?_, fun instant id => ?_⟩
    · by_cases same : other = who
      · subst same
        simp at ready
      · have waiting : process.tasks other = .committing := by
          simpa [Function.update_of_ne same] using ready
        exact process.store.holdsLease_applyCompletion options _ _ _ _ (apart other same waiting)
          (covered.held other waiting)
    · have bare := covered.bare instant id
      simp only [Completion.guarded]
      rw [Store.leases_applyCompletion]
      split
      · rw [bare]
        rfl
      · exact bare

/-- A guarded step keeps the leases of the tasks about to commit. -/
theorem Process.Covered.step (covered : process.Covered completions options)
    (action : ProcessStep κ ι δ ο ε) (guarded : process.Guarded completions action) :
    (process.step completions options action).Covered completions options := by
  cases action with
  | task who => exact covered.advance who guarded
  | expire id token =>
    refine ⟨fun who ready => ?_, fun instant other => ?_⟩
    · have held := covered.held who ready
      have different := guarded who ready
      simp only [Store.holdsLease, decide_eq_true_eq] at held ⊢
      simp only [Process.step, Process.operate, Redis.Connection.touch, Store.step]
      rw [Store.leases_expireLease]
      split
      · rename_i named
        refine Finset.mem_erase.mpr ⟨fun same => different ?_, held⟩
        simp only [Completion.lease, named, same]
      · exact held
    · exact process.store.leases_bare instant (.expireLease id token) (covered.bare instant other)
  | beside op =>
    refine ⟨fun who ready => ?_, fun instant id => ?_⟩
    · have held := covered.held who ready
      simp only [Store.holdsLease, decide_eq_true_eq] at held
      by_cases instant : options.leaseDuration.secs = 0
      · rw [covered.bare instant] at held
        simp at held
      · simp only [Store.holdsLease, decide_eq_true_eq]
        exact process.store.leases_kept instant guarded _ held
    · exact process.store.leases_bare instant op (covered.bare instant id)

/-- A guarded step returns a commit exactly to the task whose operations it applies. -/
theorem Process.returned_step (action : ProcessStep κ ι δ ο ε)
    (guarded : process.Guarded completions action) (who : κ) :
    (process.step completions options action).tasks who = .returned true ↔
      process.tasks who = .returned true ∨ who ∈ process.applied action := by
  cases action with
  | expire id token => simp [Process.step, Process.operate, Process.applied]
  | beside op => simp [Process.step, Process.operate, Process.applied]
  | task turn =>
    by_cases same : who = turn
    · subst same
      simp only [Process.step, Process.advance]
      cases commit : process.tasks who with
      | watching => simp [Process.applied, commit, Redis.Connection.command]
      | checking =>
        by_cases held : (completions who).guarded options |>.held process.store <;>
          simp [Process.applied, commit, Redis.Connection.command, held]
      | unwatching => simp [Process.applied, commit, Redis.Connection.command]
      | committing =>
        have clean := (guarded commit).1
        simp [Process.applied, commit, clean, Redis.Connection.command]
      | returned committed => simp [Process.applied, commit, Redis.Connection.command]
    · have untouched : (process.step completions options (.task turn)).tasks who =
          process.tasks who := by
        simp [Process.step, Process.advance, Function.update_of_ne same]
      rw [untouched]
      simp only [Process.applied]
      split <;> simp [same]

/-- Over a guarded run the tasks that return a commit are those whose operations were applied. -/
theorem Process.returned_run (actions : List (ProcessStep κ ι δ ο ε))
    (process : Process κ ι δ ο ε)
    (guarded : Transition.Along (Process.step completions options)
      (Process.Guarded completions) process actions) (who : κ) :
    (Transition.run (Process.step completions options) process actions).tasks who =
        .returned true ↔
      process.tasks who = .returned true ∨
        who ∈ Transition.trace (Process.step completions options) Process.applied process
          actions := by
  induction actions generalizing process with
  | nil => simp [Transition.trace]
  | cons action rest ih =>
    rw [Transition.run_cons, ih _ guarded.2, Process.returned_step action guarded.1 who,
      Transition.trace, List.mem_append, or_assoc]

end Steps

/-- Over any interleaving of the tasks of one connection with lease expiry and other processes, as
long as each step is guarded: a task's operations are applied only while its own lease key exists,
and a task has returned `Ok(true)` exactly when its operations were applied. -/
theorem Process.lease_guarded (completions : κ → Completion ι δ ο ε) (options : QueueOptions)
    (actions : List (ProcessStep κ ι δ ο ε))
    (guarded : Transition.Along (Process.step completions options)
      (Process.Guarded completions) Process.empty actions) :
    let after := Transition.run (Process.step completions options)
      (Process.empty : Process κ ι δ ο ε)
    (∀ first action last who, actions = first ++ action :: last →
      who ∈ (after first).applied action →
      (after first).store.holdsLease (completions who).job) ∧
    ∀ who committed, (after actions).tasks who = .returned committed →
      (committed = true ↔ who ∈ Transition.trace (Process.step completions options)
        Process.applied (Process.empty : Process κ ι δ ο ε) actions) := by
  intro after
  refine ⟨?_, ?_⟩
  · rintro first action last who rfl applies
    have guardedFirst := ((Transition.along_append _ _ _).mp guarded).1
    have covered : (after first).Covered completions options := by
      refine Transition.run_invariant
        (fun process : Process κ ι δ ο ε => process.Covered completions options)
        (fun process action before allowed => before.step action allowed) Process.empty first ?_
        guardedFirst
      exact ⟨nofun, fun _ _ => rfl⟩
    cases action with
    | task turn =>
      simp only [Process.applied] at applies
      split at applies
      · rename_i ready
        obtain rfl : who = turn := List.mem_singleton.mp applies
        exact covered.held who ready.1
      · simp at applies
    | expire id token => simp [Process.applied] at applies
    | beside op => simp [Process.applied] at applies
  · intro who committed returned
    have applied := Process.returned_run actions Process.empty guarded who
    have fresh : ¬(Process.empty : Process κ ι δ ο ε).tasks who = .returned true := nofun
    rw [or_iff_right fresh] at applied
    rw [← applied]
    change committed = true ↔ (after actions).tasks who = .returned true
    rw [returned, Redis.Commit.returned.injEq]

/-- Two tasks, for the jobs 7 and 8 that one pop handed out. -/
def twoTasks (who : Bool) : Completion Nat String Nat String where
  now := 5
  job := borrowedAt (if who then 8 else 7) 0 1 "a"
  result := .ok 1

/-- Both jobs are pushed and handed out, and the first task has found its lease. -/
def firstReady : List (ProcessStep Bool Nat String Nat String) :=
  [.beside (.push 0 { data := "tx", id := 7 }), .beside (.push 0 { data := "tx", id := 8 }),
    .beside (.pop 0 "a" 2), .task false, .task false]

instance : ∀ (process : Process Bool Nat String Nat String) action,
    Decidable (process.Guarded twoTasks action)
  | process, .task who => inferInstanceAs (Decidable (process.tasks who = .committing →
      process.dirty = false ∧ ∀ other, other ≠ who → process.tasks other = .committing →
        (twoTasks other).lease ≠ (twoTasks who).lease))
  | process, .expire id token => inferInstanceAs (Decidable (∀ who,
      process.tasks who = .committing → (twoTasks who).lease ≠ (id, token)))
  | _, .beside op => inferInstanceAs (Decidable (op.isBeside))

/-- The second task loses its lease between its `WATCH` and its `EXISTS` and applies nothing; the
first commits under its own. -/
theorem Process.lease_guarded_firstReady :
    let actions := firstReady ++ [.task false, .task true,
      .expire 8 (borrowedAt 8 0 1 "a").leaseToken, .task true, .task true]
    let process := Transition.run (Process.step twoTasks {}) Process.empty actions
    process.tasks false = .returned true ∧ process.tasks true = .returned false ∧
      (false ∈ Transition.trace (Process.step twoTasks {}) Process.applied Process.empty
        actions) := by
  intro actions process
  have reported := (Process.lease_guarded twoTasks {} actions (by decide +kernel)).2
  have returned : process.tasks false = .returned true := by decide +kernel
  exact ⟨returned, by decide +kernel, (reported false true returned).mp rfl⟩

/-- Two ways a commit goes wrong. The second task's `EXEC` clears the first task's watch, so the
first applies its operations after its lease key has run out; and a lease key that runs out between
`EXISTS` and `EXEC` aborts the `EXEC`, whose task returns `Ok(true)` with nothing applied. -/
theorem Process.unguarded_commits :
    let expiry := ProcessStep.expire 7 (borrowedAt 7 0 1 "a").leaseToken
    let cleared := Transition.run (Process.step twoTasks {}) Process.empty
      (firstReady ++ [.task true, .task true, .task true, expiry])
    let aborted := Transition.run (Process.step twoTasks {}) Process.empty (firstReady ++ [expiry])
    (cleared.applied (.task false) = [false] ∧
      cleared.store.holdsLease (twoTasks false).job = false) ∧
    (aborted.applied (.task false) = [] ∧
      (aborted.step twoTasks {} (.task false)).tasks false = .returned true) := by
  decide +kernel

end OpenEngine.Queue
