import OpenEngine.Queue.Reported

/-!
# Replacing the data of a waiting job

The replace script looks at the data, the active hash and the end stamp, and infers from them that
a job waits. In a run without cancelling and reopening these three tell every state apart. A store
whose job got other data goes through every later operation as it would have without, so nothing
but the data that is handed out depends on the replacement.
-/

namespace OpenEngine.Queue

variable {ι δ ο ε : Type} [LinearOrder ι]

/-- The store with other data stored for one id. -/
def Store.withData (store : Store ι δ ο ε) (id : ι) (data : δ) : Store ι δ ο ε :=
  { store with jobData := Function.update store.jobData id (some data) }

/-- The borrowed job with other data, if it is the job of the id. -/
def BorrowedJob.withData (id : ι) (data : δ) (job : BorrowedJob ι δ) : BorrowedJob ι δ :=
  if job.job.id = id then { job with job := { job.job with data } } else job

/-- A pop under way in a store with other data stored for one id. -/
def PopState.withData (state : PopState ι δ ο ε) (id : ι) (data : δ) : PopState ι δ ο ε :=
  { state with
    store := state.store.withData id data
    resultJobs := state.resultJobs.map (BorrowedJob.withData id data) }

/-- What the replace script answers for an id. -/
def Store.replaceAnswer (store : Store ι δ ο ε) (id : ι) : ReplaceOutcome :=
  if (store.jobData id).isNone then .notFound
  else if id ∈ store.active then .active
  else if (store.jobMeta id).finishedAt.isSome then .finished
  else .replaced

/-- The operation replaces the data of the job. -/
def Store.Replaces (store : Store ι δ ο ε) (id : ι) : Op ι δ ο ε → Prop
  | .replace target data => target = id ∧ (store.tryReplacePendingData target data).1 = .replaced
  | _ => False

/-- The operation prunes the job. -/
def Store.Prunes (options : QueueOptions) (store : Store ι δ ο ε) (id : ι) : Op ι δ ο ε → Prop
  | .postSuccess => id ∈ store.success.drop options.maxSuccess
  | .postFail => id ∈ store.failed.drop options.maxFailed
  | _ => False

/-- The operation neither replaces the data of the job nor prunes it. -/
def Store.KeepsData (options : QueueOptions) (store : Store ι δ ο ε) (id : ι) (op : Op ι δ ο ε) :
    Prop :=
  ¬store.Replaces id op ∧ ¬store.Prunes options id op

/-- A job of the id carries the other data. -/
theorem BorrowedJob.data_withData {id : ι} {data : δ} (job : BorrowedJob ι δ)
    (own : (job.withData id data).job.id = id) : (job.withData id data).job.data = data := by
  unfold BorrowedJob.withData at own ⊢
  split at own
  · rename_i same
    rw [if_pos same]
  · rename_i different
    exact absurd own different

namespace PopState

variable (id : ι) (data : δ) (state : PopState ι δ ο ε) (turn : ι)

theorem cleanupLease_withData :
    (state.withData id data).cleanupLease turn = (state.cleanupLease turn).withData id data := by
  have same : ((state.withData id data).store.view turn).LeaseGone ↔
      (state.store.view turn).LeaseGone := Iff.rfl
  rw [cleanupLease_eq, cleanupLease_eq]
  by_cases gone : (state.store.view turn).LeaseGone
  · rw [if_pos gone, if_pos (same.mpr gone)]
    rfl
  · rw [if_neg gone, if_neg (mt same.mp gone)]

theorem sweepCancellation_withData (now : Nat) :
    (state.withData id data).sweepCancellation now turn =
      (state.sweepCancellation now turn).withData id data := by
  unfold sweepCancellation
  dsimp only [PopState.withData, Store.withData]
  split
  · rfl
  · split <;> rfl

theorem promoteDelayed_withData :
    (state.withData id data).promoteDelayed turn = (state.promoteDelayed turn).withData id data := by
  unfold promoteDelayed
  dsimp only [PopState.withData, Store.withData]
  cases (state.store.jobMeta turn).reentryPosition.getD .last <;> rfl

theorem leaseJob_withData (options : QueueOptions) (now : Nat) (popId : String)
    (stored : (state.store.jobData id).isSome) :
    leaseJob options now popId (state.withData id data) turn =
      (leaseJob options now popId state turn).withData id data := by
  unfold leaseJob
  by_cases same : turn = id
  · subst same
    obtain ⟨old, found⟩ := Option.isSome_iff_exists.mp stored
    simp [PopState.withData, Store.withData, found, BorrowedJob.withData, Store.grantLease,
      Store.setMeta]
  · cases found : state.store.jobData turn with
    | none => simp [PopState.withData, Store.withData, found, same]
    | some other =>
      simp [PopState.withData, Store.withData, found, same, BorrowedJob.withData, Store.grantLease,
        Store.setMeta]

/-- A phase of the pop that keeps all data and commutes with the other data does so over all its
ids. -/
theorem foldl_withData (phase : PopState ι δ ο ε → ι → PopState ι δ ο ε)
    (kept : ∀ state turn, (phase state turn).store.jobData = state.store.jobData)
    (commutes : ∀ (state : PopState ι δ ο ε) turn, (state.store.jobData id).isSome →
      phase (state.withData id data) turn = (phase state turn).withData id data)
    (ids : List ι) (stored : (state.store.jobData id).isSome) :
    ((ids.foldl phase state).store.jobData id).isSome ∧
      ids.foldl phase (state.withData id data) = (ids.foldl phase state).withData id data := by
  constructor
  · rw [foldl_keeps phase (·.store.jobData) kept]
    exact stored
  · refine Transition.run_commutes (·.withData id data)
      (fun state => (state.store.jobData id).isSome) ?_ ?_ state ids stored
      (Transition.along_true state ids)
    · intro state turn stored _
      rw [kept]
      exact stored
    · intro state turn stored _
      exact commutes state turn stored

end PopState

/-- No phase of the pop changes the data. -/
theorem PopState.jobData_phases (state : PopState ι δ ο ε) (turn : ι) (options : QueueOptions)
    (now : Nat) (popId : String) :
    (state.cleanupLease turn).store.jobData = state.store.jobData ∧
      (state.sweepCancellation now turn).store.jobData = state.store.jobData ∧
      (state.promoteDelayed turn).store.jobData = state.store.jobData ∧
      (leaseJob options now popId state turn).store.jobData = state.store.jobData := by
  refine ⟨?_, ?_, ?_, ?_⟩
  · rw [cleanupLease_eq]
    split <;> rfl
  · unfold sweepCancellation
    dsimp only
    split
    · rfl
    · split <;> rfl
  · unfold promoteDelayed
    dsimp only
    split <;> rfl
  · unfold leaseJob
    split <;> rfl

variable (store : Store ι δ ο ε) (options : QueueOptions) {id : ι} (data : δ)

/-- A pop hands out the jobs it would have handed out, with the other data. -/
theorem Store.pop_withData (now : Nat) (popId : String) (batchSize : Nat)
    (stored : (store.jobData id).isSome) :
    (store.withData id data).popBatchJobs options now popId batchSize =
      (store.popBatchJobs options now popId batchSize).withData id data := by
  have phases (state : PopState ι δ ο ε) (turn : ι) :=
    state.jobData_phases turn options now popId
  have cleanup (state : PopState ι δ ο ε) (ids : List ι) :=
    state.foldl_withData id data PopState.cleanupLease (fun state turn => (phases state turn).1)
      (fun state turn _ => state.cleanupLease_withData id data turn) ids
  have sweep (state : PopState ι δ ο ε) (ids : List ι) :=
    state.foldl_withData id data (PopState.sweepCancellation now)
      (fun state turn => (phases state turn).2.1)
      (fun state turn _ => state.sweepCancellation_withData id data turn now) ids
  have promote (state : PopState ι δ ο ε) (ids : List ι) :=
    state.foldl_withData id data PopState.promoteDelayed
      (fun state turn => (phases state turn).2.2.1)
      (fun state turn _ => state.promoteDelayed_withData id data turn) ids
  have lease (state : PopState ι δ ο ε) (ids : List ι) :=
    state.foldl_withData id data (PopState.leaseJob options now popId)
      (fun state turn => (phases state turn).2.2.2)
      (fun state turn => state.leaseJob_withData id data turn options now popId) ids
  obtain ⟨storedFirst, cleaned⟩ := cleanup { store } store.active.keys stored
  set first := store.active.keys.foldl PopState.cleanupLease { store } with firstIs
  obtain ⟨storedSecond, swept⟩ := sweep first first.store.pendingCancellations.keys storedFirst
  set second := first.store.pendingCancellations.keys.foldl (PopState.sweepCancellation now) first
    with secondIs
  obtain ⟨storedThird, promoted⟩ :=
    promote second (Redis.zrangeByScore second.store.delayed now) storedSecond
  set third := (Redis.zrangeByScore second.store.delayed now).foldl PopState.promoteDelayed second
    with thirdIs
  obtain ⟨-, leased⟩ :=
    lease (third.takePending batchSize) (third.store.pending.take batchSize) storedThird
  unfold Store.popBatchJobs
  dsimp only
  rw [← firstIs, ← secondIs, ← thirdIs, ← leased]
  have firstWith : (store.withData id data).active.keys.foldl PopState.cleanupLease
      { store := store.withData id data } = first.withData id data := cleaned
  have secondWith : (first.withData id data).store.pendingCancellations.keys.foldl
      (PopState.sweepCancellation now) (first.withData id data) = second.withData id data := swept
  have thirdWith : (Redis.zrangeByScore (second.withData id data).store.delayed now).foldl
      PopState.promoteDelayed (second.withData id data) = third.withData id data := promoted
  rw [firstWith, secondWith, thirdWith]
  clear_value third
  rfl

/-- Handing out from a store with other data. -/
theorem Store.handedOut_withData (op : Op ι δ ο ε) (stored : (store.jobData id).isSome) :
    (store.withData id data).handedOut options op =
      (store.handedOut options op).map (BorrowedJob.withData id data) := by
  cases op with
  | pop now popId batchSize =>
    exact congrArg PopState.resultJobs (store.pop_withData options data now popId batchSize stored)
  | _ => rfl

/-- Pushing into a store with other data, while the id is in the dedupe set. -/
theorem Store.push_withData (now : Nat) (job : JobOptions ι δ) (known : id ∈ store.dedupe) :
    ((store.withData id data).pushWithOutcome now job).2 =
      (store.pushWithOutcome now job).2.withData id data := by
  by_cases duplicate : job.id ∈ store.dedupe
  · have also : job.id ∈ (store.withData id data).dedupe := duplicate
    rw [store.push_duplicate now job duplicate, Store.push_duplicate _ now job also]
  · have different : job.id ≠ id := fun same => duplicate (same ▸ known)
    unfold Store.pushWithOutcome
    simp only [Store.withData, duplicate, ↓reduceIte]
    split <;> simp only [Store.setMeta, Function.update_comm different]

/-- What the replace script answers does not depend on the new data, and it changes the store only
when it answers `Replaced`. -/
theorem Store.tryReplacePendingData_eq (id : ι) (data : δ) :
    store.tryReplacePendingData id data = (store.replaceAnswer id,
      if store.replaceAnswer id = .replaced then store.withData id data else store) := by
  unfold Store.tryReplacePendingData Store.replaceAnswer
  by_cases unknown : (store.jobData id).isNone
  · rw [if_pos unknown, if_pos unknown]
    rfl
  rw [if_neg unknown, if_neg unknown]
  by_cases active : id ∈ store.active
  · rw [if_pos active, if_pos active]
    rfl
  rw [if_neg active, if_neg active]
  by_cases finished : (store.jobMeta id).finishedAt.isSome
  · rw [if_pos finished, if_pos finished]
    rfl
  rw [if_neg finished, if_neg finished]
  rfl

/-- Other data for a job that has data leaves every answer of the replace script as it was. -/
theorem Store.replaceAnswer_withData (target : ι) (stored : (store.jobData id).isSome) :
    (store.withData id data).replaceAnswer target = store.replaceAnswer target := by
  have present : ((store.withData id data).jobData target).isNone =
      (store.jobData target).isNone := by
    by_cases same : target = id
    · subst same
      obtain ⟨old, found⟩ := Option.isSome_iff_exists.mp stored
      simp [Store.withData, found]
    · simp [Store.withData, same]
  unfold Store.replaceAnswer
  rw [present]
  rfl

/-- Replacing in a store with other data leaves it in place, unless it is replaced itself. -/
theorem Store.replace_withData (target : ι) (new : δ) (stored : (store.jobData id).isSome)
    (kept : ¬store.Replaces id (.replace target new)) :
    ((store.withData id data).tryReplacePendingData target new).2 =
      (store.tryReplacePendingData target new).2.withData id data := by
  rw [Store.tryReplacePendingData_eq, Store.tryReplacePendingData_eq,
    store.replaceAnswer_withData data target stored]
  dsimp only
  split
  · rename_i replaced
    have different : target ≠ id := fun same =>
      kept ⟨same, by rw [Store.tryReplacePendingData_eq, replaced]⟩
    simp only [Store.withData, Function.update_comm different]
  · rfl

/-- Completing a job in a store with other data. -/
theorem Store.complete_withData (now : Nat) (job : BorrowedJob ι δ) (result : JobResult ο ε) :
    ((store.withData id data).complete options now job result).2 =
      (store.complete options now job result).2.withData id data := by
  have leased : (store.withData id data).holdsLease job = store.holdsLease job := rfl
  have applied : (store.withData id data).applyCompletion options now job result =
      (store.applyCompletion options now job result).withData id data := by
    cases result using JobResult.cases with
    | ok output =>
      simp only [Store.applyCompletion, Store.addSuccessOps, Store.releaseActive]
      split <;> rfl
    | retry error delay position => rfl
    | nack error position => cases position <;> rfl
    | fail error =>
      simp only [Store.applyCompletion, Store.addFailOps, Store.releaseActive]
      split <;> rfl
    | defer delay position => rfl
  unfold Store.complete
  rw [leased, applied]
  split <;> rfl

/-- A prune of other ids, by a script that forgets ids or spares them. -/
theorem Store.foldl_withData (prune : Store ι δ ο ε → ι → Store ι δ ο ε) {tail : List ι}
    (absent : id ∉ tail)
    (commutes : ∀ store turn, turn ≠ id →
      prune (Store.withData store id data) turn = (prune store turn).withData id data) :
    tail.foldl prune (store.withData id data) = (tail.foldl prune store).withData id data := by
  have others : Transition.Along prune (fun _ turn => turn ≠ id) store tail :=
    Transition.along_of_forall store tail fun turn member same => absent (same ▸ member)
  refine Transition.run_commutes (·.withData id data) (fun _ => True)
    (fun _ _ _ _ => trivial) ?_ store tail trivial others
  intro store turn _ different
  exact commutes store turn different

/-- Forgetting another id in a store with other data. -/
theorem Store.forget_withData {turn : ι} (different : turn ≠ id) :
    (store.withData id data).forget turn = (store.forget turn).withData id data := by
  simp only [Store.forget, Store.withData, Function.update_comm different]

/-- The success prune in a store with other data for an id it does not meet. -/
theorem Store.postSuccess_withData (absent : id ∉ store.success.drop options.maxSuccess) :
    (store.withData id data).postSuccessCompletion options =
      (store.postSuccessCompletion options).withData id data := by
  have pruned := store.foldl_withData data Store.pruneSucceeded absent
    (fun store turn different => by
      have live : (store.withData id data).isLive turn = store.isLive turn := rfl
      unfold Store.pruneSucceeded
      rw [live, store.forget_withData data different]
      split <;> rfl)
  have list : (store.withData id data).success = store.success := rfl
  unfold Store.postSuccessCompletion
  simp only [Redis.lrange_from, list, pruned]
  split <;> rfl

/-- The failed prune in a store with other data for an id it does not meet. -/
theorem Store.postFail_withData (absent : id ∉ store.failed.drop options.maxFailed) :
    (store.withData id data).postFailCompletion options =
      (store.postFailCompletion options).withData id data := by
  have pruned := store.foldl_withData data Store.pruneFailed absent (fun store turn different => by
    have live : (store.withData id data).isLive turn = store.isLive turn := rfl
    unfold Store.pruneFailed
    rw [live, store.forget_withData data different]
    split <;> rfl)
  have list : (store.withData id data).failed = store.failed := rfl
  unfold Store.postFailCompletion
  simp only [Redis.lrange_from, list, pruned]
  split <;> rfl

/-- An operation that keeps the data of a known job does the same in a store with other data for
it. -/
theorem Store.step_withData (op : Op ι δ ο ε) (core : op.isCore) (known : id ∈ store.dedupe)
    (stored : (store.jobData id).isSome) (keeps : store.KeepsData options id op) :
    (store.withData id data).step options op = (store.step options op).withData id data := by
  cases op with
  | push now job => exact store.push_withData data now job known
  | replace target new => exact store.replace_withData data target new stored keeps.1
  | pop now popId batchSize =>
    exact congrArg PopState.store (store.pop_withData options data now popId batchSize stored)
  | complete now job result => exact store.complete_withData options data now job result
  | expireLease target token => rfl
  | postSuccess => exact store.postSuccess_withData options data keeps.2
  | postFail => exact store.postFail_withData options data keeps.2
  | _ => contradiction

/-- What the replace script answers names the container the job is in. -/
structure Store.AnswersContainer (store : Store ι δ ο ε) (id : ι) : Prop where
  replaced : store.replaceAnswer id = .replaced ↔ store.Waits id
  active : store.replaceAnswer id = .active ↔ id ∈ store.active
  finished : store.replaceAnswer id = .finished ↔ id ∈ store.success ∨ id ∈ store.failed
  notFound : store.replaceAnswer id = .notFound ↔ store.places id = 0

omit options in
/-- The answer for a job whose report is in step names the container it is in. -/
theorem Store.answersContainer_of_view {store : Store ι δ ο ε} {latest : Option (Deed ο ε)}
    (conserved : (store.view id).Conserved) (reported : (store.view id).Reported latest) :
    store.AnswersContainer id := by
  have places := store.places_view id
  rcases Store.container_cases conserved with unknown | ⟨known, container⟩
  · obtain ⟨unknown, noSuccess, noFailed, noActive, idle⟩ := unknown
    have absent : store.jobData id = none := by
      have none := mt conserved.stored.mp unknown
      simpa [Store.view] using none
    have answer : store.replaceAnswer id = .notFound := by simp [Store.replaceAnswer, absent]
    have empty := places.symm.trans (conserved.unknown unknown)
    exact ⟨by simp [answer, idle], by simp [answer, noActive],
      by simp [answer, noSuccess, noFailed], by simp [answer, empty]⟩
  have counted : store.places id ≠ 0 := by
    have one := conserved.known known
    omega
  obtain ⟨data, stored⟩ := Option.isSome_iff_exists.mp (conserved.stored.mpr known)
  have held : store.jobData id = some data := stored
  have finished : (store.jobMeta id).finishedAt.isSome ↔
      id ∈ store.success ∨ id ∈ store.failed := by
    rw [← List.count_pos_iff, ← List.count_pos_iff, ← Nat.add_pos_iff_pos_or_pos]
    exact reported.finished
  rcases container with done | failed | active | waiting
  · obtain ⟨listed, noFailed, noActive, idle⟩ := done
    have answer : store.replaceAnswer id = .finished := by
      simp [Store.replaceAnswer, held, noActive, finished, listed]
    exact ⟨by simp [answer, idle], by simp [answer, noActive], by simp [answer, listed],
      by simp [answer, counted]⟩
  · obtain ⟨noSuccess, listed, noActive, idle⟩ := failed
    have answer : store.replaceAnswer id = .finished := by
      simp [Store.replaceAnswer, held, noActive, finished, listed]
    exact ⟨by simp [answer, idle], by simp [answer, noActive], by simp [answer, listed],
      by simp [answer, counted]⟩
  · obtain ⟨noSuccess, noFailed, running, idle⟩ := active
    have answer : store.replaceAnswer id = .active := by
      simp [Store.replaceAnswer, held, running]
    exact ⟨by simp [answer, idle], by simp [answer, running],
      by simp [answer, noSuccess, noFailed], by simp [answer, counted]⟩
  · obtain ⟨noSuccess, noFailed, noActive, waits⟩ := waiting
    have answer : store.replaceAnswer id = .replaced := by
      simp [Store.replaceAnswer, held, noActive, finished, noSuccess, noFailed]
    exact ⟨by simp [answer, waits], by simp [answer, noActive],
      by simp [answer, noSuccess, noFailed], by simp [answer, counted]⟩

/-- What the replace script does to one job: what each answer says of where the job is, what it
leaves of the store, and what is handed out of a replaced job until it is replaced again or
pruned. -/
structure Store.ReplacesExactly (options : QueueOptions) (store : Store ι δ ο ε) (id : ι)
    (data : δ) : Prop where
  /-- `Replaced` for a waiting job. -/
  replaced : (store.tryReplacePendingData id data).1 = .replaced ↔ store.Waits id
  /-- `Active` for an active job. -/
  active : (store.tryReplacePendingData id data).1 = .active ↔ id ∈ store.active
  /-- `Finished` for a job on a finished list. -/
  finished : (store.tryReplacePendingData id data).1 = .finished ↔
    id ∈ store.success ∨ id ∈ store.failed
  /-- `NotFound` for an id in no container. -/
  notFound : (store.tryReplacePendingData id data).1 = .notFound ↔ store.places id = 0
  /-- `Replaced` writes the data and nothing else. -/
  written : (store.tryReplacePendingData id data).1 = .replaced →
    (store.tryReplacePendingData id data).2 = store.withData id data
  /-- Every other answer leaves the store as it was. -/
  unchanged : (store.tryReplacePendingData id data).1 ≠ .replaced →
    (store.tryReplacePendingData id data).2 = store
  /-- Every later pop of the job hands out the new data. -/
  served : (store.tryReplacePendingData id data).1 = .replaced →
    ∀ later : List (Op ι δ ο ε), (∀ op ∈ later, op.isCore) →
      Transition.Along (Store.step options) (Store.KeepsData options · id)
        (store.withData id data) later →
      ∀ op, ∀ job ∈ (Transition.run (Store.step options) (store.withData id data)
        later).handedOut options op, job.job.id = id → job.job.data = data
  /-- Apart from that data every later store, and all a pop hands out, is as it would have been
  without the replacement. -/
  unaffected : (store.tryReplacePendingData id data).1 = .replaced →
    ∀ later : List (Op ι δ ο ε), (∀ op ∈ later, op.isCore) →
      Transition.Along (Store.step options) (Store.KeepsData options · id)
        (store.withData id data) later →
      ∀ old, store.jobData id = some old →
        let after := Transition.run (Store.step options) (store.withData id data) later
        let without := Transition.run (Store.step options) store later
        without = after.withData id old ∧ ∀ op, without.handedOut options op =
          (after.handedOut options op).map (BorrowedJob.withData id old)

section Runs

variable {options} (permanent : options.idempotencyMode = .permanent)
  (someSuccess : 0 < options.maxSuccess) (someFailed : 0 < options.maxFailed)

include permanent someSuccess someFailed

/-- A conserved store in which a known job is given other data goes through every run that keeps the
data of the job as the store does. -/
theorem Store.run_withData {store : Store ι δ ο ε} (conserved : store.Conserved)
    (known : id ∈ store.dedupe) (later : List (Op ι δ ο ε)) (core : ∀ op ∈ later, op.isCore)
    (keeps : Transition.Along (Store.step options) (Store.KeepsData options · id) store later) :
    Transition.run (Store.step options) (store.withData id data) later =
        (Transition.run (Store.step options) store later).withData id data ∧
      ∀ op, (Transition.run (Store.step options) (store.withData id data) later).handedOut
          options op =
        ((Transition.run (Store.step options) store later).handedOut options op).map
          (BorrowedJob.withData id data) := by
  have kept : ∀ (store : Store ι δ ο ε) (op : Op ι δ ο ε),
      (store.Conserved ∧ id ∈ store.dedupe) → (op.isCore ∧ store.KeepsData options id op) →
      (store.step options op).Conserved ∧ id ∈ (store.step options op).dedupe := by
    rintro store op ⟨conserved, known⟩ ⟨allowed, keeps⟩
    refine ⟨conserved.step permanent someSuccess someFailed op allowed, ?_⟩
    by_contra dropped
    rcases store.dedupe_step permanent op allowed id known dropped with
      ⟨rfl, trimmed⟩ | ⟨rfl, trimmed⟩
    · exact keeps.2 trimmed
    · exact keeps.2 trimmed
  have along := (Transition.along_of_forall store later core).and keeps
  have same := Transition.run_commutes (·.withData id data) _ kept
    (fun store op invariant admitted => store.step_withData options data op admitted.1 invariant.2
      ((invariant.1 id).stored.mpr invariant.2) admitted.2) store later ⟨conserved, known⟩ along
  obtain ⟨conservedThen, knownThen⟩ :=
    Transition.run_invariant _ kept store later ⟨conserved, known⟩ along
  refine ⟨same, fun op => ?_⟩
  rw [same]
  exact Store.handedOut_withData _ options data op ((conservedThen id).stored.mpr knownThen)

/-- After every run of pushes, replacements, pops, completions under their lease, lease expiries and
prunes, replacing the data of any job is exact. -/
theorem Store.replacement_exact (ops : List (Op ι δ ο ε)) (core : ∀ op ∈ ops, op.isCore) (id : ι)
    (data : δ) :
    (Transition.run (Store.step options) (Store.empty : Store ι δ ο ε) ops).ReplacesExactly
      options id data := by
  obtain ⟨conserved, reported⟩ :=
    Store.reported_run permanent someSuccess someFailed ops core id
  have next := Store.conserved_run permanent someSuccess someFailed (ops ++ [.replace id data])
    (by
      intro op member
      rcases List.mem_append.mp member with before | last
      · exact core op before
      · rw [List.mem_singleton.mp last]
        rfl)
  rw [Transition.run_append] at next
  generalize Transition.run (Store.step options) Store.empty ops = store at conserved reported next ⊢
  have answered : store.AnswersContainer id := Store.answersContainer_of_view conserved reported
  have answer : (store.tryReplacePendingData id data).1 = store.replaceAnswer id := by
    rw [store.tryReplacePendingData_eq]
  have written (replaced : store.replaceAnswer id = .replaced) :
      (store.tryReplacePendingData id data).2 = store.withData id data := by
    rw [store.tryReplacePendingData_eq, if_pos replaced]
  have conservedThen (replaced : store.replaceAnswer id = .replaced) :
      (store.withData id data).Conserved := by
    rw [← written replaced]
    exact next
  have known (replaced : store.replaceAnswer id = .replaced) : id ∈ store.dedupe := by
    have waits := (store.waits_view id).mpr (answered.replaced.mp replaced)
    exact (conserved.live_cases waits.live).1
  refine ⟨?_, ?_, ?_, ?_, ?_, ?_, ?_, ?_⟩ <;> rw [answer]
  · exact answered.replaced
  · exact answered.active
  · exact answered.finished
  · exact answered.notFound
  · exact written
  · intro other
    rw [store.tryReplacePendingData_eq, if_neg other]
  · intro replaced later allowed keeps op job handed same
    have again : (store.withData id data).withData id data = store.withData id data := by
      simp only [Store.withData, Function.update_idem]
    obtain ⟨-, hands⟩ := Store.run_withData data permanent someSuccess someFailed
      (conservedThen replaced) (known replaced) later allowed keeps
    rw [again] at hands
    rw [hands op] at handed
    obtain ⟨other, -, rfl⟩ := List.mem_map.mp handed
    exact other.data_withData same
  · intro replaced later allowed keeps old stored
    have back : (store.withData id data).withData id old = store := by
      simp only [Store.withData, Function.update_idem, ← stored, Function.update_eq_self]
    have unaffected := Store.run_withData old permanent someSuccess someFailed
      (conservedThen replaced) (known replaced) later allowed keeps
    rw [back] at unaffected
    exact unaffected

end Runs

/-- Replacing the data of the job that expired, was requeued and was deferred is exact. -/
theorem Store.replacement_exact_expireAndDefer :
    (Transition.run (Store.step {}) Store.empty expireAndDefer).ReplacesExactly {} 7 "bumped" :=
  Store.replacement_exact rfl (by decide) (by decide) expireAndDefer (by decide) 7 "bumped"

end OpenEngine.Queue
