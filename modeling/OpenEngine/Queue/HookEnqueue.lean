import OpenEngine.Queue.Exclusive

/-!
# Enqueueing from a hook

`TransactionContext::queue_job` (`queue/src/hooks.rs`) adds a job by raw commands in the transaction
of a completion, next to the push script of `push_with_outcome`. It asks no dedupe set, drops no
residue of an earlier job with the id, and takes a delay of zero for a delay. Where none of the
three shows, the two enqueue alike, and runs in which every hook enqueues so keep every job in one
place.
-/

namespace OpenEngine.Queue

variable {ι δ ο ε : Type} [LinearOrder ι]

/-- The metadata of a job enqueued from a hook: the fields that are written, over what is there. -/
def JobMeta.enqueued (info : JobMeta ι) (now : Nat) : JobMeta ι :=
  { info with createdAt := some now, attempts := some 0 }

/-- `queue_job`, once its transaction is committed. -/
def Store.queueJob (store : Store ι δ ο ε) (now : Nat) (job : JobOptions ι δ) : Store ι δ ο ε :=
  let info := (store.jobMeta job.id).enqueued now
  let written : Store ι δ ο ε :=
    { store with
      jobData := Function.update store.jobData job.id (some job.data)
      dedupe := insert job.id store.dedupe }
  match job.delay with
  | some delay =>
    let processAt := now + delayToQueueSeconds delay.delay
    { written.setMeta job.id { info with reentryPosition := some delay.position } with
      delayed := store.delayed.insert job.id processAt }
  | none => { written.setMeta job.id info with pending := store.pending ++ [job.id] }

/-- Two stores hold the same keys; the order of a hash is not observable. -/
structure Store.SameKeys (left right : Store ι δ ο ε) : Prop where
  pending : left.pending = right.pending
  success : left.success = right.success
  failed : left.failed = right.failed
  view : ∀ id, left.view id = right.view id

/-- No earlier job with the id left a result, an error record or a mark of its life. -/
structure JobView.Unmarked (view : JobView ι δ ο ε) : Prop where
  result : view.result = none
  errors : view.errors = []
  processedAt : view.info.processedAt = none
  leaseToken : view.info.leaseToken = none
  finishedAt : view.info.finishedAt = none
  retryAt : view.info.retryAt = none
  deferredUntil : view.info.deferredUntil = none
  laneId : view.info.laneId = none

/-- The keys already hold exactly this delayed job. -/
structure JobView.Holds (view : JobView ι δ ο ε) (now : Nat) (job : JobOptions ι δ)
    (delay : DelayOptions) : Prop where
  data : view.data = some job.data
  delayed : view.delayed = some (now + delayToQueueSeconds delay.delay)
  createdAt : view.info.createdAt = some now
  attempts : view.info.attempts = some 0
  reentryPosition : view.info.reentryPosition = some delay.position

/-- When a hook enqueues as the push script does: the id is unknown and unmarked and its delay, if
there is one, is not zero, or the job is known and already held as it is. -/
def Store.EnqueuesAsPush (store : Store ι δ ο ε) (now : Nat) (job : JobOptions ι δ) : Prop :=
  match job.delay with
  | none => job.id ∉ store.dedupe ∧ (store.view job.id).Unmarked ∧
      (store.jobMeta job.id).reentryPosition = none
  | some delay =>
    (job.id ∉ store.dedupe ∧ (store.view job.id).Unmarked ∧ 0 < delayToQueueSeconds delay.delay) ∨
      (job.id ∈ store.dedupe ∧ (store.view job.id).Holds now job delay)

/-- A job as a hook's enqueue leaves it. -/
def JobView.enqueue (now : Nat) (job : JobOptions ι δ) (view : JobView ι δ ο ε) :
    JobView ι δ ο ε :=
  match job.delay with
  | some delay =>
    { view with
      data := some job.data
      deduped := True
      info := { view.info.enqueued now with reentryPosition := some delay.position }
      delayed := some (now + delayToQueueSeconds delay.delay) }
  | none =>
    { view with
      data := some job.data
      deduped := True
      info := view.info.enqueued now
      pending := view.pending + 1 }

omit [LinearOrder ι] in
/-- The marks of an earlier life, field by field. -/
theorem JobView.unmarked_iff (view : JobView ι δ ο ε) : view.Unmarked ↔
    view.errors = [] ∧ view.result = none ∧ view.info.processedAt = none ∧
      view.info.leaseToken = none ∧ view.info.finishedAt = none ∧ view.info.retryAt = none ∧
      view.info.deferredUntil = none ∧ view.info.laneId = none := by
  constructor
  · intro unmarked
    exact ⟨unmarked.errors, unmarked.result, unmarked.processedAt, unmarked.leaseToken,
      unmarked.finishedAt, unmarked.retryAt, unmarked.deferredUntil, unmarked.laneId⟩
  · rintro ⟨errors, result, processedAt, leaseToken, finishedAt, retryAt, deferredUntil, laneId⟩
    exact ⟨result, errors, processedAt, leaseToken, finishedAt, retryAt, deferredUntil, laneId⟩

omit [LinearOrder ι] in
/-- A job enqueued without a delay is the pushed job exactly if the id is unmarked. -/
theorem JobView.enqueue_undelayed_iff (view : JobView ι δ ο ε) (now : Nat) (job : JobOptions ι δ)
    (undelayed : job.delay = none) : view.enqueue now job = view.push now job ↔
      view.Unmarked ∧ view.info.reentryPosition = none := by
  have zero : ¬0 < delayToQueueSeconds Duration.zero := by decide
  unfold JobView.enqueue JobView.push
  rw [undelayed]
  dsimp only [Option.getD_none]
  rw [if_neg zero, JobView.ext_iff, JobView.unmarked_iff]
  simp only [JobMeta.enqueued, JobMeta.mk.injEq, true_and, and_true]
  tauto

omit [LinearOrder ι] in
/-- A job enqueued with a delay is the pushed job exactly if the delay is not zero and the id is
unmarked. -/
theorem JobView.enqueue_delayed_iff (view : JobView ι δ ο ε) (now : Nat) (job : JobOptions ι δ)
    {delay : DelayOptions} (delayed : job.delay = some delay) :
    view.enqueue now job = view.push now job ↔
      view.Unmarked ∧ 0 < delayToQueueSeconds delay.delay := by
  unfold JobView.enqueue JobView.push
  rw [delayed]
  dsimp only [Option.getD_some]
  by_cases positive : 0 < delayToQueueSeconds delay.delay
  · rw [if_pos positive, JobView.ext_iff, JobView.unmarked_iff]
    simp only [JobMeta.enqueued, JobMeta.mk.injEq, true_and, and_true]
    tauto
  · rw [if_neg positive]
    constructor
    · intro same
      have pending : view.pending = view.pending + 1 := congrArg JobView.pending same
      omega
    · intro both
      exact absurd both.2 positive

omit [LinearOrder ι] in
/-- A known job is left alone exactly if it was already held as it is. -/
theorem JobView.enqueue_eq_self_iff (view : JobView ι δ ο ε) (now : Nat) (job : JobOptions ι δ)
    (known : view.deduped) : view.enqueue now job = view ↔
      ∃ delay, job.delay = some delay ∧ view.Holds now job delay := by
  unfold JobView.enqueue
  cases job.delay with
  | none =>
    constructor
    · intro same
      have pending : view.pending + 1 = view.pending := congrArg JobView.pending same
      omega
    · rintro ⟨delay, absurdity, -⟩
      cases absurdity
  | some delay =>
    constructor
    · intro same
      have data : some job.data = view.data := congrArg JobView.data same
      have due : some (now + delayToQueueSeconds delay.delay) = view.delayed :=
        congrArg JobView.delayed same
      have info := congrArg JobView.info same
      exact ⟨delay, rfl, data.symm, due.symm, (congrArg JobMeta.createdAt info).symm,
        (congrArg JobMeta.attempts info).symm, (congrArg JobMeta.reentryPosition info).symm⟩
    · rintro ⟨other, same, holds⟩
      obtain rfl := Option.some.inj same
      have info : { view.info.enqueued now with reentryPosition := some delay.position } =
          view.info := by
        rw [JobMeta.enqueued, ← holds.createdAt, ← holds.attempts, ← holds.reentryPosition]
      dsimp only
      rw [info, ← holds.data, ← holds.delayed, ← eq_true known]

/-- Enqueueing another id leaves a job alone. -/
theorem Store.view_queueJob_of_ne (store : Store ι δ ο ε) (now : Nat) (job : JobOptions ι δ)
    {id : ι} (different : id ≠ job.id) : (store.queueJob now job).view id = store.view id := by
  unfold Store.queueJob
  cases job.delay with
  | none => simp [Store.view, Store.setMeta, different, different.symm, List.count_append]
  | some delay => simp [Store.view, Store.setMeta, different, AList.lookup_insert_ne]

/-- What a hook's enqueue makes of its job. -/
theorem Store.view_queueJob_self (store : Store ι δ ο ε) (now : Nat) (job : JobOptions ι δ) :
    (store.queueJob now job).view job.id = (store.view job.id).enqueue now job := by
  unfold Store.queueJob JobView.enqueue
  cases job.delay with
  | none => simp [Store.view, Store.setMeta, List.count_append]
  | some delay => simp [Store.view, Store.setMeta]

/-- A hook's enqueue touches no finished list, and the pending list only without a delay. -/
theorem Store.queueJob_lists (store : Store ι δ ο ε) (now : Nat) (job : JobOptions ι δ) :
    (store.queueJob now job).success = store.success ∧
      (store.queueJob now job).failed = store.failed ∧
      (store.queueJob now job).pending =
        if job.delay = none then store.pending ++ [job.id] else store.pending := by
  unfold Store.queueJob
  cases job.delay with
  | none => exact ⟨rfl, rfl, rfl⟩
  | some delay => exact ⟨rfl, rfl, rfl⟩

/-- A push of an unknown id touches no finished list, and the pending list only without a delay. -/
theorem Store.push_lists (store : Store ι δ ο ε) (now : Nat) (job : JobOptions ι δ)
    (fresh : job.id ∉ store.dedupe) :
    (store.pushWithOutcome now job).2.success = store.success ∧
      (store.pushWithOutcome now job).2.failed = store.failed ∧
      (store.pushWithOutcome now job).2.pending =
        if 0 < delayToQueueSeconds (job.delay.getD ⟨.zero, .last⟩).delay then store.pending
        else store.pending ++ [job.id] := by
  unfold Store.pushWithOutcome
  dsimp only
  rw [if_neg fresh]
  split
  · exact ⟨rfl, rfl, rfl⟩
  · exact ⟨rfl, rfl, rfl⟩

/-- Two enqueues that agree on the lists and on their own job agree. -/
theorem Store.sameKeys_of_self {left right store : Store ι δ ο ε} {id : ι}
    (pending : left.pending = right.pending) (success : left.success = right.success)
    (failed : left.failed = right.failed) (self : left.view id = right.view id)
    (leftOther : ∀ other, other ≠ id → left.view other = store.view other)
    (rightOther : ∀ other, other ≠ id → right.view other = store.view other) :
    left.SameKeys right := by
  refine ⟨pending, success, failed, fun other => ?_⟩
  by_cases own : other = id
  · rw [own]
    exact self
  · rw [leftOther other own, rightOther other own]

/-- A hook enqueues a known id as the push script does exactly if the job is already held. -/
theorem Store.queueJob_known_iff (store : Store ι δ ο ε) (now : Nat) (job : JobOptions ι δ)
    (known : job.id ∈ store.dedupe) :
    (store.queueJob now job).SameKeys (store.pushWithOutcome now job).2 ↔
      ∃ delay, job.delay = some delay ∧ (store.view job.id).Holds now job delay := by
  obtain ⟨success, failed, pending⟩ := store.queueJob_lists now job
  rw [store.push_duplicate now job known, ← JobView.enqueue_eq_self_iff _ now job known,
    ← store.view_queueJob_self]
  constructor
  · intro same
    exact same.view job.id
  · intro self
    have delayed : job.delay ≠ none := by
      intro undelayed
      rw [if_pos undelayed] at pending
      have counted : (store.queueJob now job).pending.count job.id =
          store.pending.count job.id := congrArg JobView.pending self
      rw [pending, List.count_append, List.count_singleton_self] at counted
      omega
    rw [if_neg delayed] at pending
    exact Store.sameKeys_of_self pending success failed self
      (fun other own => store.view_queueJob_of_ne now job own) (fun _ _ => rfl)

/-- A hook enqueues an unknown id as the push script does exactly if the two make the same of it. -/
theorem Store.queueJob_unknown_iff (store : Store ι δ ο ε) (now : Nat) (job : JobOptions ι δ)
    (fresh : job.id ∉ store.dedupe) :
    (store.queueJob now job).SameKeys (store.pushWithOutcome now job).2 ↔
      (store.view job.id).enqueue now job = (store.view job.id).push now job := by
  obtain ⟨success, failed, pending⟩ := store.queueJob_lists now job
  obtain ⟨pushSuccess, pushFailed, pushPending⟩ := store.push_lists now job fresh
  rw [← store.view_queueJob_self, ← store.view_push_self now job fresh]
  constructor
  · intro same
    exact same.view job.id
  · intro self
    have lists : (store.queueJob now job).pending = (store.pushWithOutcome now job).2.pending := by
      have counted : (store.queueJob now job).pending.count job.id =
          (store.pushWithOutcome now job).2.pending.count job.id := congrArg JobView.pending self
      rw [pending, pushPending] at counted ⊢
      split <;> split <;> simp_all
    exact Store.sameKeys_of_self lists (success.trans pushSuccess.symm)
      (failed.trans pushFailed.symm) self
      (fun other own => store.view_queueJob_of_ne now job own)
      (fun other own => store.view_push_of_ne now job own)

/-- A hook enqueues as the push script does exactly in the states that say so. -/
theorem Store.queueJob_sameKeys_iff (store : Store ι δ ο ε) (now : Nat) (job : JobOptions ι δ) :
    (store.queueJob now job).SameKeys (store.pushWithOutcome now job).2 ↔
      store.EnqueuesAsPush now job := by
  unfold Store.EnqueuesAsPush
  by_cases known : job.id ∈ store.dedupe
  · rw [store.queueJob_known_iff now job known]
    cases delayed : job.delay with
    | none => simp [known]
    | some delay => simp [known]
  · rw [store.queueJob_unknown_iff now job known]
    cases delayed : job.delay with
    | none =>
      rw [JobView.enqueue_undelayed_iff _ now job delayed]
      simp only [known, not_false_iff, true_and]
      rfl
    | some delay =>
      rw [JobView.enqueue_delayed_iff _ now job delayed]
      simp [known]

/-- A step of a queue that hooks of other completions enqueue into. -/
inductive HookedOp (ι δ ο ε : Type) where
  | queue (op : Op ι δ ο ε)
  | enqueue (now : Nat) (job : JobOptions ι δ)

/-- The store after a step. -/
def Store.hookedStep (options : QueueOptions) (store : Store ι δ ο ε) :
    HookedOp ι δ ο ε → Store ι δ ο ε
  | .queue op => store.step options op
  | .enqueue now job => store.queueJob now job

/-- The steps under which the queue keeps every job in one place: an operation that does by itself,
or a hook that enqueues as the push script does. -/
def Store.KeepsPlaces (options : QueueOptions) (store : Store ι δ ο ε) :
    HookedOp ι δ ο ε → Prop
  | .queue op => ∀ id, store.SparesJob options id op
  | .enqueue now job => store.EnqueuesAsPush now job

/-- Such a step keeps every job exclusive. -/
theorem Store.exclusive_hookedStep {store : Store ι δ ο ε} {options : QueueOptions}
    (exclusive : ∀ id, (store.view id).Exclusive) (step : HookedOp ι δ ο ε)
    (keeps : store.KeepsPlaces options step) (id : ι) :
    ((store.hookedStep options step).view id).Exclusive := by
  cases step with
  | queue op => exact Store.exclusive_step (exclusive id) options op (keeps id)
  | enqueue now job =>
    have pushed : ((store.step options (.push now job)).view id).Exclusive :=
      Store.exclusive_step (exclusive id) options (.push now job) trivial
    have same := (store.queueJob_sameKeys_iff now job).mpr keeps
    rw [Store.hookedStep, same.view id]
    exact pushed

/-- A committed `queue_job` has the effect of `push_with_outcome` exactly if the id is unknown and
unmarked and its delay, if any, is not zero, or the job is already held as it is; and runs in which
every hook enqueues so have no id twice in pending, and none in both pending and active. -/
theorem Store.hook_enqueues_as_push (options : QueueOptions) :
    (∀ (store : Store ι δ ο ε) (now : Nat) (job : JobOptions ι δ),
      (store.queueJob now job).SameKeys (store.pushWithOutcome now job).2 ↔
        store.EnqueuesAsPush now job) ∧
    ∀ steps : List (HookedOp ι δ ο ε),
      Transition.Along (Store.hookedStep options) (Store.KeepsPlaces options) Store.empty steps →
      ∀ id,
        (Transition.run (Store.hookedStep options) Store.empty steps).pending.count id ≤ 1 ∧
        ¬(id ∈ (Transition.run (Store.hookedStep options) Store.empty steps).pending ∧
          id ∈ (Transition.run (Store.hookedStep options) Store.empty steps).active) := by
  refine ⟨Store.queueJob_sameKeys_iff, fun steps along id => ?_⟩
  have exclusive :
      ((Transition.run (Store.hookedStep options) Store.empty steps).view id).Exclusive :=
    Transition.run_invariant (fun store : Store ι δ ο ε => ∀ id, (store.view id).Exclusive)
      (fun _ step before keeps id => Store.exclusive_hookedStep before step keeps id) _ steps
      Store.exclusive_empty along id
  have one := exclusive.one
  unfold JobView.live at one
  constructor
  · exact Nat.le_trans (Nat.le_trans (Nat.le_add_right _ _) (Nat.le_add_right _ _)) one
  · rintro ⟨listed, running⟩
    have waiting : 0 < ((Transition.run (Store.hookedStep options) Store.empty steps).view
      id).pending := List.count_pos_iff.mpr listed
    have active : ((Transition.run (Store.hookedStep options) Store.empty steps).view
      id).active.isSome := AList.lookup_isSome.mpr running
    rw [active, Bool.toNat_true] at one
    omega

/-- A job is pushed and handed out. -/
def pushAndPop : List (Op Nat String Nat String) :=
  [.push 0 { data := "tx", id := 7 }, .pop 0 "a" 1]

/-- A hook enqueues a job that runs: it is pending and active at once, where the push script does
nothing. -/
theorem Store.hook_enqueues_active :
    let store := Transition.run (Store.step {}) Store.empty pushAndPop
    7 ∈ store.dedupe ∧ 7 ∈ (store.queueJob 1 { data := "other", id := 7 }).pending ∧
      7 ∈ (store.queueJob 1 { data := "other", id := 7 }).active ∧
      ¬(store.queueJob 1 { data := "other", id := 7 }).SameKeys
        (store.pushWithOutcome 1 { data := "other", id := 7 }).2 := by
  intro store
  have known : 7 ∈ store.dedupe := by decide +kernel
  have active : 7 ∈ (store.queueJob 1 { data := "other", id := 7 }).active := by decide +kernel
  have pending : 7 ∈ (store.queueJob 1 { data := "other", id := 7 }).pending :=
    List.mem_append_right _ List.mem_cons_self
  refine ⟨known, pending, active, fun same => ?_⟩
  have idle : 7 ∉ (store.pushWithOutcome 1 { data := "other", id := 7 }).2.pending := by
    rw [store.push_duplicate 1 _ known]
    decide +kernel
  rw [same.pending] at pending
  exact idle pending

end OpenEngine.Queue
