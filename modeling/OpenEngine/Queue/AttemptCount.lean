import OpenEngine.Queue.Attempts
import OpenEngine.Queue.Reported

/-!
# What the attempt counter counts

A pop counts the run it hands out and a deferral takes the count back. The pop that finds a lease
gone counts the job once more, although the lost run was counted when it was handed out. So the
counter is the number of runs that were not deferred exactly while no run of the job was lost.
-/

namespace OpenEngine.Queue

variable {ι δ ο ε : Type}

/-- A pop handed the job out. -/
def Deed.isPopped : Deed ο ε → Bool
  | .popped => true
  | .completed _ => false

/-- The runs handed out, less those that ended in a committed `Defer`. -/
def realRuns (deeds : List (Deed ο ε)) : Int :=
  (deeds.countP Deed.isPopped : Int) - deeds.countP Deed.isDefer

/-- Pushes, replacements, pops, completions under their lease and lease expiry. -/
def Op.isHandling : Op ι δ ο ε → Bool
  | .complete _ _ _ => true
  | op => op.isIntake

/-- A pop finds the lease gone and requeues the job. -/
def JobEvent.isRequeue : JobEvent ι δ ο ε → Bool
  | .requeue => true
  | _ => false

/-- Runs add up. -/
theorem realRuns_append (first second : List (Deed ο ε)) :
    realRuns (first ++ second) = realRuns first + realRuns second := by
  unfold realRuns
  rw [List.countP_append, List.countP_append]
  omega

namespace JobView

variable [DecidableEq ι] {options : QueueOptions} {id : ι}

/-- What an event does to the counter: it counts the runs the event tells, and a requeue once. -/
theorem attempts_apply (view : JobView ι δ ο ε) (event : JobEvent ι δ ο ε)
    (enabled : event.Enabled options view) (created : ∀ now job, event ≠ .push now job)
    (unpruned : (∀ kept, event ≠ .pruneSuccess kept) ∧ ∀ kept, event ≠ .pruneFailed kept)
    {count : Int} (counted : view.info.attempts = some count) :
    (apply options id view event).info.attempts =
      some (count + realRuns (view.deeds event) + if event.isRequeue then 1 else 0) := by
  cases event with
  | push now job => exact absurd rfl (created now job)
  | requeue => simp [apply, JobMeta.incrAttempts, counted, deeds, realRuns, JobEvent.isRequeue]
  | lease now popId =>
    have stored : view.data.isSome := enabled.2
    simp [apply, JobView.lease, leasedInfo, JobMeta.incrAttempts, counted, deeds, stored, realRuns,
      Deed.isPopped, Deed.isDefer, JobEvent.isRequeue]
  | complete now job result =>
    cases result using JobResult.cases <;>
      simp [apply, JobView.complete, JobView.endLease, addError, JobMeta.incrAttempts, counted,
        deeds, realRuns, Deed.isPopped, Deed.isDefer, JobEvent.isRequeue]
  | pruneSuccess kept => exact absurd rfl (unpruned.1 kept)
  | pruneFailed kept => exact absurd rfl (unpruned.2 kept)
  | sweep now =>
    simp only [apply]
    split <;> simp [counted, deeds, realRuns, JobEvent.isRequeue]
  | _ => simp [apply, counted, deeds, realRuns, JobEvent.isRequeue]

end JobView

variable [LinearOrder ι]

/-- A pop finds the job active and its lease gone. -/
def Store.LosesLease (store : Store ι δ ο ε) (id : ι) : Op ι δ ο ε → Prop
  | .pop _ _ _ => id ∈ store.active ∧ (store.view id).LeaseGone
  | _ => False

instance (store : Store ι δ ο ε) (id : ι) : ∀ op : Op ι δ ο ε, Decidable (store.LosesLease id op)
  | .pop _ _ _ => inferInstanceAs (Decidable (_ ∧ _))
  | .push _ _ | .replace _ _ | .complete _ _ _ | .expireLease _ _ | .postSuccess | .postFail
  | .cancel _ _ | .release _ | .reopen _ _ => .isFalse not_false

/-- Step 1 times out the active jobs whose lease is gone. -/
theorem PopState.mem_timedOutJobs_cleanup (options : QueueOptions) (ids : List ι)
    (distinct : ids.Nodup) (state : PopState ι δ ο ε) (id : ι) :
    id ∈ (ids.foldl cleanupLease state).timedOutJobs ↔
      id ∈ state.timedOutJobs ∨ id ∈ ids ∧ (state.store.view id).LeaseGone := by
  induction ids generalizing state with
  | nil => simp
  | cons turn rest ih =>
    obtain ⟨absent, restDistinct⟩ := List.nodup_cons.mp distinct
    rw [List.foldl_cons, ih restDistinct]
    by_cases same : id = turn
    · subst same
      have once : id ∈ (state.cleanupLease id).timedOutJobs ↔
          id ∈ state.timedOutJobs ∨ (state.store.view id).LeaseGone := by
        rw [cleanupLease_eq]
        split
        · simp [requeue, *]
        · simp [*]
      rw [once]
      simp [absent]
    · have idle := cleanupLease_other options id state turn same
      have kept : id ∈ (state.cleanupLease turn).timedOutJobs ↔ id ∈ state.timedOutJobs := by
        simpa using idle.timedOut
      rw [kept, idle.view]
      simp [same]

/-- The pop times out the jobs step 1 requeued, and no others. -/
theorem Store.mem_timedOutJobs_pop (store : Store ι δ ο ε) (options : QueueOptions) (now : Nat)
    (popId : String) (batchSize : Nat) (id : ι) :
    id ∈ (store.popBatchJobs options now popId batchSize).timedOutJobs ↔
      id ∈ store.active ∧ (store.view id).LeaseGone := by
  have cleaned := PopState.mem_timedOutJobs_cleanup options store.active.keys
    store.active.keys_nodup { store } id
  have leases := PopState.foldl_keeps (PopState.leaseJob options now popId)
    (fun state : PopState ι δ ο ε => state.timedOutJobs) fun state id => by
      unfold PopState.leaseJob
      split <;> rfl
  have promotes := PopState.foldl_keeps PopState.promoteDelayed
    (fun state : PopState ι δ ο ε => state.timedOutJobs) fun _ _ => rfl
  have sweeps := PopState.foldl_keeps (PopState.sweepCancellation now)
    (fun state : PopState ι δ ο ε => state.timedOutJobs) fun state id => by
      unfold PopState.sweepCancellation
      dsimp only
      split
      · rfl
      · split <;> rfl
  unfold Store.popBatchJobs
  dsimp only
  rw [leases, PopState.takePending, promotes, sweeps, cleaned]
  simp [AList.mem_keys]

/-- What an operation does to one job is a run of its events that tells the same deeds and requeues
the job exactly if the operation loses its lease. -/
theorem Store.step_requeues (store : Store ι δ ο ε) (options : QueueOptions) (op : Op ι δ ο ε)
    (id : ι) :
    ∃ events : List (JobEvent ι δ ο ε), (∀ event ∈ events, op.Causes id event) ∧
      Transition.Along (JobView.apply options id) (JobEvent.Enabled options) (store.view id)
        events ∧
      (store.step options op).view id =
        Transition.run (JobView.apply options id) (store.view id) events ∧
      deedsOf id (store.deeds options op) =
        Transition.trace (JobView.apply options id) JobView.deeds (store.view id) events ∧
      (.requeue ∈ events ↔ store.LosesLease id op) := by
  by_cases pops : ∃ now popId batchSize, op = .pop now popId batchSize
  · obtain ⟨now, popId, batchSize, rfl⟩ := pops
    obtain ⟨events, allowed, follows, tells⟩ := store.pop_deeds options now popId batchSize id
    refine ⟨events, allowed, follows.enabled, follows.view, tells, ?_⟩
    have timedOut := follows.timedOut
    rw [store.mem_timedOutJobs_pop options now popId batchSize id] at timedOut
    simpa [Store.LosesLease] using timedOut.symm
  · obtain ⟨events, caused, enabled, followed, tells⟩ := store.step_deeds options op id
    refine ⟨events, caused, enabled, followed, tells, iff_of_false (fun member => ?_) ?_⟩
    · have cause := caused _ member
      cases op with
      | pop now popId batchSize => exact pops ⟨now, popId, batchSize, rfl⟩
      | _ => simp [Op.Causes] at cause
    · cases op with
      | pop now popId batchSize => exact fun _ => pops ⟨now, popId, batchSize, rfl⟩
      | _ => exact not_false

/-- A run of events that neither push nor prune the job adds to its counter the runs they tell, and
one for each requeue. -/
theorem JobView.attempts_run (options : QueueOptions) (id : ι) (events : List (JobEvent ι δ ο ε))
    (view : JobView ι δ ο ε)
    (enabled : Transition.Along (apply options id) (JobEvent.Enabled options) view events)
    (mild : ∀ event ∈ events, (∀ now job, event ≠ .push now job) ∧
      (∀ kept, event ≠ .pruneSuccess kept) ∧ ∀ kept, event ≠ .pruneFailed kept)
    {count : Int} (counted : view.info.attempts = some count) :
    (Transition.run (apply options id) view events).info.attempts =
      some (count + realRuns (Transition.trace (apply options id) deeds view events) +
        events.countP JobEvent.isRequeue) := by
  induction events generalizing view count with
  | nil => simpa [Transition.trace, realRuns] using counted
  | cons event rest ih =>
    obtain ⟨created, unpruned⟩ := mild event List.mem_cons_self
    have first : (apply options id view event).info.attempts = _ :=
      view.attempts_apply event enabled.1 created unpruned counted
    have restMild := fun event member => mild event (List.mem_cons_of_mem _ member)
    have later := ih _ enabled.2 restMild first
    rw [Transition.run_cons, later, Transition.trace, realRuns_append, List.countP_cons,
      Option.some.injEq]
    by_cases requeue : event.isRequeue
    · simp only [requeue, ↓reduceIte]
      omega
    · simp only [requeue, Bool.false_eq_true, ↓reduceIte]
      omega

/-- What a handling operation does to the counter of a job it does not create: it counts the runs
the operation tells, and something more exactly if the operation loses the job's lease. -/
theorem Store.attempts_step (store : Store ι δ ο ε) (options : QueueOptions) (op : Op ι δ ο ε)
    (id : ι) (handling : op.isHandling) (uncreated : store.creates id op = false) {count : Int}
    (counted : (store.jobMeta id).attempts = some count) :
    ∃ lost : Nat, ((store.step options op).jobMeta id).attempts =
        some (count + realRuns (deedsOf id (store.deeds options op)) + lost) ∧
      (lost = 0 ↔ ¬store.LosesLease id op) := by
  by_cases pushes : ∃ now job, op = .push now job
  · obtain ⟨now, job, rfl⟩ := pushes
    have same : (store.step options (.push now job)).view id = store.view id := by
      by_cases named : job.id = id
      · have known : job.id ∈ store.dedupe := by
          by_contra fresh
          simp [Store.creates, named, store.push_created now job fresh] at uncreated
        rw [Store.step, store.push_duplicate now job known]
      · exact store.view_push_of_ne now job (Ne.symm named)
    have info : (store.step options (.push now job)).jobMeta id = store.jobMeta id :=
      congrArg JobView.info same
    exact ⟨0, by simp [info, counted, Store.deeds, deedsOf, realRuns], by simp [Store.LosesLease]⟩
  · obtain ⟨events, caused, enabled, followed, tells, requeued⟩ :=
      store.step_requeues options op id
    have mild : ∀ event ∈ events, (∀ now job, event ≠ .push now job) ∧
        (∀ kept, event ≠ .pruneSuccess kept) ∧ ∀ kept, event ≠ .pruneFailed kept := by
      intro event member
      have cause := caused event member
      cases op with
      | push now job => exact absurd ⟨now, job, rfl⟩ pushes
      | replace target data => simp [cause.2]
      | pop now popId batchSize => cases event <;> simp_all [Op.Causes, JobEvent.OfPop]
      | complete now job result => simp [cause.2]
      | expireLease target token => simp [cause.2]
      | _ => contradiction
    have ran := JobView.attempts_run options id events (store.view id) enabled mild counted
    refine ⟨events.countP JobEvent.isRequeue, ?_, ?_⟩
    · rw [tells, ← ran, ← followed]
      rfl
    · rw [← requeued, List.countP_eq_zero]
      constructor
      · intro none member
        exact none _ member rfl
      · intro absent event member isRequeue
        cases event <;> simp_all [JobEvent.isRequeue]

/-- Since the push that created it, a job's counter has counted its runs, and something more exactly
if a pop lost its lease. -/
theorem Store.attempts_since (options : QueueOptions) (id : ι) (since : List (Op ι δ ο ε))
    (store : Store ι δ ο ε) (handling : ∀ op ∈ since, op.isHandling)
    (latest : Transition.Along (Store.step options)
      (fun store op => store.creates id op = false) store since)
    {count : Int} (counted : (store.jobMeta id).attempts = some count) :
    ∃ lost : Nat, ((Transition.run (Store.step options) store since).jobMeta id).attempts =
        some (count + realRuns (deedsOf id
          (Transition.trace (Store.step options) (Store.deeds options) store since)) + lost) ∧
      (lost = 0 ↔ Transition.Along (Store.step options)
        (fun store op => ¬store.LosesLease id op) store since) := by
  induction since generalizing store count with
  | nil =>
    refine ⟨0, ?_, iff_of_true rfl trivial⟩
    simpa [Transition.trace, deedsOf, realRuns] using counted
  | cons op rest ih =>
    obtain ⟨now, first, nowLost⟩ := store.attempts_step options op id
      (handling op List.mem_cons_self) latest.1 counted
    obtain ⟨later, second, laterLost⟩ := ih _
      (fun op member => handling op (List.mem_cons_of_mem _ member)) latest.2 first
    refine ⟨now + later, ?_, ?_⟩
    · rw [Transition.run_cons, second, Transition.trace, deedsOf_append, realRuns_append]
      congr 1
      push_cast
      omega
    · rw [Nat.add_eq_zero_iff, nowLost, laterLost]
      rfl

/-- The push that creates a job starts its counter. -/
theorem Store.attempts_created (store : Store ι δ ο ε) (options : QueueOptions) (now : Nat)
    (job : JobOptions ι δ) (created : store.creates job.id (.push now job)) :
    ((store.step options (.push now job)).jobMeta job.id).attempts = some 0 := by
  simp only [Store.creates, true_and, decide_eq_true_eq] at created
  have fresh : job.id ∉ store.dedupe := by
    intro known
    rw [store.push_duplicate now job known] at created
    cases created
  have started : ((store.view job.id).push now job).info.attempts = some 0 := by
    unfold JobView.push
    dsimp only
    split <;> rfl
  have info : (store.step options (.push now job)).jobMeta job.id =
      ((store.view job.id).push now job).info :=
    congrArg JobView.info (store.view_push_self now job fresh)
  rw [info, started]

/-- A job's counter is the number of times it was handed out since it was pushed, less the runs that
ended in a committed `Defer`, exactly if no pop since its push found it active with its lease
gone. -/
theorem Store.attempts_count_runs_iff (options : QueueOptions) (before since : List (Op ι δ ο ε))
    (now : Nat) (job : JobOptions ι δ)
    (created : (Transition.run (Store.step options) Store.empty before).creates job.id
      (.push now job))
    (handling : ∀ op ∈ since, op.isHandling)
    (latest : Transition.Along (Store.step options)
      (fun store op => store.creates job.id op = false)
      (Transition.run (Store.step options) Store.empty (before ++ [.push now job])) since) :
    let pushed : Store ι δ ο ε :=
      Transition.run (Store.step options) Store.empty (before ++ [.push now job])
    let deeds := deedsOf job.id
      (Transition.trace (Store.step options) (Store.deeds options) pushed since)
    ((Transition.run (Store.step options) pushed since).jobMeta job.id).attempts =
        some ((deeds.countP Deed.isPopped : Int) - deeds.countP Deed.isDefer) ↔
      Transition.Along (Store.step options)
        (fun store op => ¬store.LosesLease job.id op) pushed since := by
  intro pushed deeds
  have start : (pushed.jobMeta job.id).attempts = some 0 := by
    simp only [pushed, Transition.run_append]
    exact Store.attempts_created _ options now job created
  obtain ⟨lost, counted, kept⟩ :=
    Store.attempts_since options job.id since pushed handling latest start
  rw [counted, ← kept, Int.zero_add]
  simp only [Option.some.injEq]
  show realRuns deeds + (lost : Int) = realRuns deeds ↔ lost = 0
  omega

/-- Job 7 is pushed, then runs three times: one run is deferred, one is nacked and one succeeds. -/
def ranThrice : List (Op Nat String Nat String) :=
  [.pop 0 "a" 1,
    .complete 1 (borrowedAt 7 0 1 "a") (.error (.defer (.fromSecs 5) .last)),
    .pop 10 "b" 1,
    .complete 11 (borrowedAt 7 10 1 "b") (.error (.nack "busy" none .last)),
    .pop 12 "c" 1,
    .complete 13 (borrowedAt 7 12 2 "c") (.ok 5)]

/-- The store in which job 7 was just pushed. -/
def pushedSeven : Store Nat String Nat String :=
  Transition.run (Store.step {}) Store.empty ([] ++ [.push 0 { data := "tx", id := 7 }])

/-- The counter is the number of its runs that were not deferred. -/
theorem Store.attempts_count_runs_ranThrice :
    ((Transition.run (Store.step {}) pushedSeven ranThrice).jobMeta 7).attempts =
      some (realRuns (deedsOf 7
        (Transition.trace (Store.step {}) (Store.deeds {}) pushedSeven ranThrice))) := by
  have created : (Transition.run (Store.step {}) (Store.empty : Store Nat String Nat String)
      []).creates 7 (.push 0 { data := "tx", id := 7 }) := by decide +kernel
  have latest : Transition.Along (Store.step {}) (fun store op => store.creates 7 op = false)
      pushedSeven ranThrice := by decide +kernel
  have kept : Transition.Along (Store.step {}) (fun store op => ¬store.LosesLease 7 op)
      pushedSeven ranThrice := by decide +kernel
  exact (Store.attempts_count_runs_iff {} [] ranThrice 0 { data := "tx", id := 7 } created
    (by decide) latest).mpr kept

/-- A job whose first lease expired was handed out twice, and its counter says three. -/
theorem Store.lost_run_counted_twice :
    let store : Store Nat String Nat String := Transition.run (Store.step {}) Store.empty
      [.push 0 { data := "tx", id := 7 }]
    let since : List (Op Nat String Nat String) :=
      [.pop 0 "a" 1, .expireLease 7 (borrowedAt 7 0 1 "a").leaseToken, .pop 40 "b" 1]
    let deeds := deedsOf 7 (Transition.trace (Store.step {}) (Store.deeds {}) store since)
    ((Transition.run (Store.step {}) store since).jobMeta 7).attempts = some 3 ∧
      deeds.countP Deed.isPopped = 2 ∧ deeds.countP Deed.isDefer = 0 := by
  decide +kernel

end OpenEngine.Queue
