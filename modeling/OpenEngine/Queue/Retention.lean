import OpenEngine.Queue.Conservation

/-!
# Finished slots stay closed and readable

A finished job can be asked for until its entry leaves its list. Reopening a failed slot leaves the
old entry in the failed list, so one id can have several finished entries, and the failed prune,
which looks at one list and at the live containers only, can delete the record of a later run. The
runs in which no prune does this keep every finished job they list.

`History` adds to the store how the latest run of each id ended, which no key records.
-/

namespace OpenEngine.Queue

variable {ι δ ο ε : Type}

/-- How a run of a job ended. -/
inductive Outcome (ο : Type) where
  /-- It committed this output. -/
  | succeeded (output : ο)
  /-- It committed the terminal failure, or was cancelled while it waited. -/
  | failed
deriving DecidableEq

/-- The store, with the outcome of the latest run of each id; `none` while it runs. -/
structure History (ι δ ο ε : Type) where
  store : Store ι δ ο ε
  latest : ι → Option (Outcome ο)

/-- The history before the first push. -/
def History.empty : History ι δ ο ε := ⟨Store.empty, fun _ => none⟩

/-- What a committed completion says of the run it ends. -/
def JobResult.outcome : JobResult ο ε → Option (Outcome ο)
  | .ok output => some (.succeeded output)
  | .error (.fail _) => some .failed
  | _ => none

/-- The record of one job in step with how its latest run ended. -/
inductive JobView.Retained (view : JobView ι δ ο ε) : Option (Outcome ο) → Prop where
  /-- The record is gone, or was never there. -/
  | gone {latest : Option (Outcome ο)} (data : view.data = none) (success : view.success = 0)
    (failed : latest = some .failed → view.failed = 0) : Retained view latest
  /-- The job waits or runs. -/
  | running (data : view.data.isSome) (live : 0 < view.live) (success : view.success = 0)
    (result : view.result = none) : Retained view none
  /-- The job succeeded and is listed. -/
  | succeeded {output : ο} (data : view.data.isSome) (live : view.live = 0)
    (success : view.success = 1) (known : view.deduped) (finished : view.info.finishedAt.isSome)
    (result : view.result = some output) : Retained view (some (.succeeded output))
  /-- The job failed. -/
  | failed (data : view.data.isSome) (live : view.live = 0) (success : view.success = 0)
    (finished : view.info.finishedAt.isSome) (result : view.result = none) :
    Retained view (some .failed)

namespace JobView

variable {view : JobView ι δ ο ε} {latest : Option (Outcome ο)}

/-- What an event that touches neither the record nor its lists leaves in step. -/
theorem Retained.congr (retained : view.Retained latest) {moved : JobView ι δ ο ε}
    (data : moved.data.isSome = view.data.isSome) (live : moved.live = view.live)
    (success : moved.success = view.success) (failed : moved.failed = view.failed)
    (known : view.deduped → moved.deduped)
    (finished : moved.info.finishedAt = view.info.finishedAt)
    (result : moved.result = view.result) : moved.Retained latest := by
  cases retained with
  | gone wasData wasSuccess wasFailed =>
    refine .gone ?_ (success.trans wasSuccess) (fun ended => failed.trans (wasFailed ended))
    simpa [wasData] using data
  | running wasData wasLive wasSuccess wasResult =>
    exact .running (data.trans wasData) (live ▸ wasLive) (success.trans wasSuccess)
      (result.trans wasResult)
  | succeeded wasData wasLive wasSuccess wasKnown wasFinished wasResult =>
    exact .succeeded (data.trans wasData) (live.trans wasLive) (success.trans wasSuccess)
      (known wasKnown) (finished ▸ wasFinished) (result.trans wasResult)
  | failed wasData wasLive wasSuccess wasFinished wasResult =>
    exact .failed (data.trans wasData) (live.trans wasLive) (success.trans wasSuccess)
      (finished ▸ wasFinished) (result.trans wasResult)

/-- A live job is running. -/
theorem Retained.of_live (retained : view.Retained latest) (exclusive : view.Exclusive)
    (present : 0 < view.live) : latest = none ∧ view.success = 0 ∧ view.result = none := by
  cases retained with
  | gone data =>
    have stored := exclusive.stored present
    rw [data] at stored
    contradiction
  | running data live success result => exact ⟨rfl, success, result⟩
  | succeeded data live => omega
  | failed data live => omega

/-- A job on the success list succeeded and has no live entry. -/
theorem Retained.of_success (retained : view.Retained latest) (listed : 0 < view.success) :
    view.live = 0 ∧ view.success = 1 ∧ view.deduped ∧ ∃ output,
      latest = some (.succeeded output) ∧ view.info.finishedAt.isSome ∧
        view.result = some output := by
  cases retained with
  | gone data success => omega
  | running data live success => omega
  | succeeded data live success known finished result =>
    exact ⟨live, success, known, _, rfl, finished, result⟩
  | failed data live success => omega

/-- Releasing the dedupe entry of a job that is neither live nor on the success list. -/
theorem Retained.release (retained : view.Retained latest) (dead : view.live = 0)
    (unlisted : view.success = 0) : Retained { view with deduped := False } latest := by
  cases retained with
  | gone data success failed => exact .gone data success failed
  | running data live => omega
  | succeeded data live success => omega
  | failed data live success finished result => exact .failed data live success finished result

/-- A push of an unknown id starts a run. -/
theorem Retained.push (retained : view.Retained latest) (fresh : ¬view.deduped) (now : Nat)
    (job : JobOptions ι δ) : (view.push now job).Retained none := by
  have unlisted : view.success = 0 := by
    by_contra listed
    exact fresh (retained.of_success (Nat.pos_of_ne_zero listed)).2.2.1
  unfold JobView.push
  dsimp only
  split
  · refine .running rfl ?_ unlisted rfl
    simp only [live, Option.isSome_some, Bool.toNat_true]
    omega
  · refine .running rfl ?_ unlisted rfl
    simp only [live]
    omega

/-- The success prune takes a succeeded job's only entry and its record. -/
theorem Retained.pruneSuccess (retained : view.Retained latest) {kept : Nat}
    (fewer : kept < view.success) :
    Retained { view.settleSucceeded with success := kept } latest := by
  obtain ⟨dead, one, -, output, rfl, -, -⟩ := retained.of_success (by omega)
  have idle := idle_of_live dead
  unfold live at dead
  have unseen : view.isLive = false := by
    simp only [isLive, idle, Option.isSome_none, Bool.false_or, decide_eq_false_iff_not]
    omega
  simp only [settleSucceeded, unseen, Bool.false_eq_true, ↓reduceIte]
  refine .gone rfl ?_ (by simp)
  show kept = 0
  omega

/-- The failed prune leaves a live job alone, and may forget a job that is in no other list. -/
theorem Retained.pruneFailed (retained : view.Retained latest) (exclusive : view.Exclusive)
    {kept : Nat} (fewer : kept ≤ view.failed)
    (spared : view.isLive ∨ view.data = none ∨ view.success = 0 ∧ kept = 0) :
    Retained { view.settleFailed with failed := kept } latest := by
  by_cases seen : view.isLive
  · have present := live_of_isLive seen
    obtain ⟨rfl, success, result⟩ := retained.of_live exclusive present
    simp only [settleFailed, seen, ↓reduceIte]
    exact .running (exclusive.stored present) present success result
  · simp only [settleFailed, seen, Bool.false_eq_true, ↓reduceIte]
    rcases spared with live | absent | ⟨success, none⟩
    · contradiction
    · cases retained with
      | gone data success failed =>
        refine .gone rfl success (fun ended => ?_)
        have := failed ended
        show kept = 0
        omega
      | running data => simp [absent] at data
      | succeeded data => simp [absent] at data
      | failed data => simp [absent] at data
    · exact .gone rfl success (fun _ => none)

/-- A pop carries out the cancellation of a job that is not live: it fails, or has failed, or is
left as succeeded. -/
theorem Retained.sweep [DecidableEq ι] (retained : view.Retained latest) (dead : view.live = 0)
    (spared : 0 < view.success ∨ view.data.isSome) (options : QueueOptions) (id : ι)
    (now : Nat) : (apply options id view (.sweep now)).Retained latest := by
  simp only [apply]
  split
  · exact retained.congr rfl rfl rfl rfl (fun known => known) rfl rfl
  · rename_i unlisted
    have stored : view.data.isSome := spared.resolve_left unlisted
    cases retained with
    | gone data => simp [data] at stored
    | running data live => omega
    | succeeded data live success => omega
    | failed data live success finished result => exact .failed data live success rfl result

/-- The cancel script fails a waiting job. -/
theorem Retained.cancelNow [DecidableEq ι] (retained : view.Retained latest)
    (exclusive : view.Exclusive) (waiting : 0 < view.pending ∨ view.delayed.isSome)
    (options : QueueOptions) (id : ι) (now : Nat) :
    (apply options id view (.cancelNow now)).Retained (some .failed) := by
  have present : 0 < view.live := by
    rcases waiting with pending | delayed
    · unfold live
      omega
    · simp only [live, delayed, Bool.toNat_true]
      omega
  obtain ⟨-, success, result⟩ := retained.of_live exclusive present
  exact .failed (exclusive.stored present) (exclusive.cancelNow options id waiting now).1 success
    rfl result

/-- A completion under its lease ends the run, or leaves the job running. -/
theorem Retained.complete [DecidableEq ι] (retained : view.Retained latest)
    (exclusive : view.Exclusive) {options : QueueOptions}
    (permanent : options.idempotencyMode = .permanent) (now : Nat) (job : BorrowedJob ι δ)
    (issued : job.leaseToken ∈ view.leases) (result : JobResult ο ε) :
    (view.complete options now job result).Retained (JobResult.outcome result) := by
  have active := (exclusive.held _ issued).1
  have present := live_of_active active
  obtain ⟨-, unlisted, noResult⟩ := retained.of_live exclusive present
  have left := exclusive.live_complete options now job issued result
  have stored := exclusive.stored present
  have known := exclusive.known present
  cases result using JobResult.cases with
  | ok output =>
    refine .succeeded stored left ?_ ⟨by simp [permanent], known⟩ rfl rfl
    simp only [JobView.complete, unlisted]
  | retry error delay position =>
    exact .running stored (Nat.lt_of_lt_of_eq Nat.one_pos left.symm) unlisted noResult
  | nack error position =>
    exact .running stored (Nat.lt_of_lt_of_eq Nat.one_pos left.symm) unlisted noResult
  | fail error => exact .failed stored left unlisted rfl noResult
  | defer delay position =>
    exact .running stored (Nat.lt_of_lt_of_eq Nat.one_pos left.symm) unlisted noResult

/-- The event of a pop on a job whose requested cancellation can be carried out. -/
theorem Retained.popEvent [DecidableEq ι] (retained : view.Retained latest)
    (exclusive : view.Exclusive) (options : QueueOptions) (id : ι) {event : JobEvent ι δ ο ε}
    {now : Nat} {popId : String} (popped : event.OfPop now popId)
    (enabled : event.Enabled options view)
    (cancellable : view.cancelling → view.Cancellable)
    (recorded : view.cancelling → view.active.isSome ∨ 0 < view.success ∨ view.data.isSome) :
    (apply options id view event).Retained latest ∧
      ((apply options id view event).cancelling →
        (apply options id view event).active.isSome ∨ 0 < (apply options id view event).success ∨
          (apply options id view event).data.isSome) := by
  by_cases swept : ∃ at_, event = .sweep at_
  · obtain ⟨at_, rfl⟩ := swept
    obtain ⟨unlisted, undelayed, -⟩ := cancellable enabled.1
    have idle : view.active = none := enabled.2
    have dead : view.live = 0 := by simp [live, unlisted, undelayed, idle]
    have kept : 0 < view.success ∨ view.data.isSome := by
      simpa [idle] using recorded enabled.1
    refine ⟨retained.sweep dead kept options id at_, ?_⟩
    simp only [apply]
    split <;> simp
  · obtain ⟨live, success, failed, data, result, known, same, finished⟩ :=
      exclusive.popEvent_frame options id popped enabled (fun at_ same => swept ⟨at_, same⟩)
    refine ⟨retained.congr (by rw [data]) live success failed (fun before => known ▸ before)
      finished result, fun requested => ?_⟩
    exact absurd ((cancellable (same ▸ requested)).sweeps popped enabled) swept

end JobView

variable [LinearOrder ι]

/-- The history after an operation. -/
def History.step (options : QueueOptions) (history : History ι δ ο ε) (op : Op ι δ ο ε) :
    History ι δ ο ε where
  store := history.store.step options op
  latest :=
    let ended := fun id outcome => Function.update history.latest id outcome
    match op with
    | .push _ job => if job.id ∈ history.store.dedupe then history.latest else ended job.id none
    | .reopen _ job =>
      if history.store.readsFailed job.id then ended job.id none else history.latest
    | .complete _ job result =>
      if history.store.holdsLease job then ended job.job.id (JobResult.outcome result)
      else history.latest
    | .cancel _ id =>
      if id ∈ history.store.pending ∨ id ∈ history.store.delayed then ended id (some .failed)
      else history.latest
    | _ => history.latest

/-- What the queue owes a finished job: while its newest entry is among the listed ones, a
succeeded job is in the dedupe set and reads as succeeded with its output, and a failed job has its
data and reads as failed. -/
def History.Retains (options : QueueOptions) (history : History ι δ ο ε) (id : ι) : Prop :=
  (∀ output, history.latest id = some (.succeeded output) →
    id ∈ history.store.success.take options.maxSuccess →
    id ∈ history.store.dedupe ∧ history.store.getJobState id = some (.succeeded output)) ∧
  (history.latest id = some .failed → id ∈ history.store.failed.take options.maxFailed →
    (history.store.jobData id).isSome ∧
      ∃ lastError, history.store.getJobState id = some (.failed lastError))

/-- The states in which an operation keeps a job in step with its record. The failed prune deletes
no record it meets in its tail of a job that is delayed, is on the success list or has a newer entry
among those it keeps. A pop carries out no cancellation of a job that waits again or whose record is
gone. The dedupe entry is released only while the slot reads as failed. -/
def Store.SparesRecord (options : QueueOptions) (store : Store ι δ ο ε) (id : ι) :
    Op ι δ ο ε → Prop
  | .postFail => id ∈ store.failed.drop options.maxFailed →
      store.isLive id ∨ (store.jobData id).isNone ∨
        id ∉ store.delayed ∧ id ∉ store.success ∧
          id ∉ Redis.ltrim store.failed 0 ((options.maxFailed : Int) - 1)
  | .pop _ _ _ => id ∈ store.pendingCancellations → (store.view id).Cancellable ∧
      (id ∈ store.active ∨ id ∈ store.success ∨ (store.jobData id).isSome)
  | .release target => target = id → store.readsFailed id
  | _ => True

instance (options : QueueOptions) (store : Store ι δ ο ε) (id : ι) :
    ∀ op : Op ι δ ο ε, Decidable (store.SparesRecord options id op)
  | .postFail =>
    inferInstanceAs (Decidable (id ∈ store.failed.drop options.maxFailed → _ ∨ _ ∨ _))
  | .pop _ _ _ => inferInstanceAs (Decidable (id ∈ store.pendingCancellations → _ ∧ _))
  | .release target => inferInstanceAs (Decidable (target = id → store.readsFailed id))
  | .push _ _ | .replace _ _ | .complete _ _ _ | .expireLease _ _ | .postSuccess | .cancel _ _
  | .reopen _ _ => .isTrue trivial

/-- A job is exclusive and its record is in step with its latest run. -/
def History.InStep (history : History ι δ ο ε) (id : ι) : Prop :=
  (history.store.view id).Exclusive ∧ (history.store.view id).Retained (history.latest id)

/-- A job of the empty history is in step. -/
theorem History.inStep_empty (id : ι) : (History.empty : History ι δ ο ε).InStep id :=
  ⟨Store.exclusive_empty id, .gone rfl rfl nofun⟩

omit [LinearOrder ι] in
/-- A finished job has a metadata hash. -/
theorem JobMeta.exists_of_finished [DecidableEq ι] {info : JobMeta ι}
    (finished : info.finishedAt.isSome) : info.exists = true := by
  simp only [JobMeta.exists, ne_eq, decide_not, Bool.not_eq_true', decide_eq_false_iff_not]
  rintro rfl
  contradiction

/-- A job with a succeeded record does not read as failed. -/
theorem Store.readsFailed_of_result {store : Store ι δ ο ε} {id : ι}
    (finished : (store.view id).info.finishedAt.isSome) {output : ο}
    (result : (store.view id).result = some output) : ¬store.readsFailed id := by
  simp only [Store.view] at finished result
  simp [Store.readsFailed, Store.getJobState, JobMeta.exists_of_finished finished, finished,
    result, JobState.isFailed]

section Step

variable {options : QueueOptions} {history : History ι δ ο ε} {id : ι}

/-- A job in step is owed nothing more. -/
theorem History.InStep.retains (inStep : history.InStep id) (options : QueueOptions) :
    history.Retains options id := by
  obtain ⟨-, recorded⟩ := inStep
  constructor
  · intro output ended listed
    have counted : 0 < (history.store.view id).success :=
      List.count_pos_iff.mpr (List.mem_of_mem_take listed)
    obtain ⟨-, -, known, recordedOutput, same, finished, result⟩ := recorded.of_success counted
    rw [ended] at same
    obtain rfl : output = recordedOutput := by simpa using same
    refine ⟨known, ?_⟩
    simp only [Store.view] at finished result
    simp [Store.getJobState, JobMeta.exists_of_finished finished, finished, result]
  · intro ended listed
    have counted : 0 < (history.store.view id).failed :=
      List.count_pos_iff.mpr (List.mem_of_mem_take listed)
    rw [ended] at recorded
    cases recorded with
    | gone data success failed =>
      have := failed rfl
      omega
    | failed data live success finished result =>
      simp only [Store.view] at finished result data
      refine ⟨data, (history.store.jobErrors id).head?, ?_⟩
      simp [Store.getJobState, JobMeta.exists_of_finished finished, finished, result]

/-- A slot that reads as failed is neither live nor on the success list. -/
theorem History.InStep.of_readsFailed (inStep : history.InStep id)
    (failed : history.store.readsFailed id) :
    (history.store.view id).live = 0 ∧ (history.store.view id).success = 0 := by
  obtain ⟨exclusive, recorded⟩ := inStep
  refine ⟨Store.live_of_readsFailed exclusive failed, ?_⟩
  by_contra listed
  obtain ⟨-, -, -, output, -, finished, result⟩ :=
    recorded.of_success (Nat.pos_of_ne_zero listed)
  exact Store.readsFailed_of_result finished result failed

/-- An operation that leaves the outcome alone keeps the job in step when its events do. -/
theorem History.InStep.of_events (inStep : history.InStep id) (op : Op ι δ ο ε)
    (unended : (history.step options op).latest = history.latest)
    (exclusive : ((history.store.step options op).view id).Exclusive)
    (preserved : ∀ view event latest, view.Retained latest → op.Causes id event →
      JobEvent.Enabled options view event → (JobView.apply options id view event).Retained latest) :
    (history.step options op).InStep id := by
  unfold History.InStep
  rw [unended]
  refine ⟨exclusive, ?_⟩
  refine history.store.step_preserves options op id
    (fun view => view.Retained (history.latest id)) ?_ inStep.2
  intro view event before caused enabled
  exact preserved view event _ before caused enabled

/-- A push keeps the job in step. -/
theorem History.InStep.push (inStep : history.InStep id) (now : Nat) (job : JobOptions ι δ) :
    (history.step options (.push now job)).InStep id := by
  refine ⟨Store.exclusive_step inStep.1 options (.push now job) trivial, ?_⟩
  simp only [History.step, Store.step]
  by_cases known : job.id ∈ history.store.dedupe
  · rw [history.store.push_duplicate now job known, if_pos known]
    exact inStep.2
  · rw [if_neg known]
    by_cases named : id = job.id
    · subst named
      rw [history.store.view_push_self now job known, Function.update_self]
      exact inStep.2.push known now job
    · rw [history.store.view_push_of_ne now job named, Function.update_of_ne named]
      exact inStep.2

/-- Releasing the dedupe entry of a slot that reads as failed keeps the job in step. -/
theorem History.InStep.release (inStep : history.InStep id) {target : ι}
    (failed : target = id → history.store.readsFailed id) :
    (History.mk (history.store.removeFromDedupeSet target) history.latest).InStep id := by
  refine ⟨Store.exclusive_release inStep.1
    (fun named => (inStep.of_readsFailed (failed named)).1), ?_⟩
  by_cases named : id = target
  · subst named
    obtain ⟨dead, unlisted⟩ := inStep.of_readsFailed (failed rfl)
    simp only [history.store.view_release_self]
    exact inStep.2.release dead unlisted
  · simp only [history.store.view_release_of_ne named]
    exact inStep.2

/-- Reopening a slot that reads as failed keeps the job in step. -/
theorem History.InStep.reopen (inStep : history.InStep id) (now : Nat) (job : JobOptions ι δ) :
    (history.step options (.reopen now job)).InStep id := by
  by_cases failed : history.store.readsFailed job.id
  · have released : (History.mk (history.store.removeFromDedupeSet job.id)
        history.latest).InStep id := by
      refine inStep.release ?_
      rintro rfl
      exact failed
    have pushed : (History.step options _ (.push now job)).InStep id := released.push now job
    have fresh : job.id ∉ (history.store.removeFromDedupeSet job.id).dedupe := by
      simp [Store.removeFromDedupeSet]
    simpa [History.InStep, History.step, Store.step, Store.retryFailedSlot, failed, fresh]
      using pushed
  · simpa [History.InStep, History.step, Store.step, Store.retryFailedSlot, failed] using inStep

/-- A pop that carries out no cancellation of a waiting job keeps the job in step. -/
theorem History.InStep.pop (inStep : history.InStep id) (now : Nat) (popId : String)
    (batchSize : Nat)
    (spared : history.store.SparesRecord options id (.pop now popId batchSize)) :
    (history.step options (.pop now popId batchSize)).InStep id := by
  have recorded (requested : (history.store.view id).cancelling) :
      (history.store.view id).active.isSome ∨ 0 < (history.store.view id).success ∨
        (history.store.view id).data.isSome := by
    rcases (spared requested).2 with active | listed | stored
    · exact .inl (AList.lookup_isSome.mpr active)
    · exact .inr (.inl (List.count_pos_iff.mpr listed))
    · exact .inr (.inr stored)
  have kept := history.store.step_preserves options (.pop now popId batchSize) id
    (fun view => (view.Exclusive ∧ (view.cancelling → view.Cancellable)) ∧
      view.Retained (history.latest id) ∧
        (view.cancelling → view.active.isSome ∨ 0 < view.success ∨ view.data.isSome)) ?_
    ⟨⟨inStep.1, fun requested => (spared requested).1⟩, inStep.2, recorded⟩
  · exact ⟨kept.1.1, kept.2.1⟩
  · rintro view event ⟨⟨before, cancellable⟩, retained, stored⟩ caused enabled
    exact ⟨before.popEvent cancellable options id caused enabled,
      retained.popEvent before options id caused enabled cancellable stored⟩

/-- A completion keeps the job in step. -/
theorem History.InStep.complete (inStep : history.InStep id)
    (permanent : options.idempotencyMode = .permanent) (now : Nat) (job : BorrowedJob ι δ)
    (result : JobResult ο ε) : (history.step options (.complete now job result)).InStep id := by
  refine ⟨Store.exclusive_step inStep.1 options (.complete now job result) trivial, ?_⟩
  simp only [History.step, Store.step, Store.complete]
  by_cases held : history.store.holdsLease job
  · have issued := (history.store.holdsLease_iff job).mp held
    rw [if_pos held, if_pos held]
    by_cases named : id = job.job.id
    · subst named
      rw [history.store.view_applyCompletion_self options now job result, Function.update_self]
      exact inStep.2.complete inStep.1 permanent now job issued result
    · rw [history.store.view_applyCompletion_of_ne options now job result named,
        Function.update_of_ne named]
      exact inStep.2
  · rw [if_neg held, if_neg held]
    exact inStep.2

/-- The success prune keeps the job in step. -/
theorem History.InStep.postSuccess (inStep : history.InStep id)
    (someSuccess : 0 < options.maxSuccess) : (history.step options .postSuccess).InStep id := by
  simp only [History.InStep, History.step, Store.step]
  rw [history.store.view_postSuccess options id]
  split
  · rename_i trimmed
    have enabled := history.store.enabled_pruneSuccess options trimmed
    have fewer := enabled.2 someSuccess
    have dead := (inStep.2.of_success (Nat.zero_lt_of_lt fewer)).1
    exact ⟨inStep.1.apply options id _ enabled (JobView.undelayed_of_live dead),
      inStep.2.pruneSuccess fewer⟩
  · exact inStep

/-- A failed prune that deletes no record in use keeps the job in step. -/
theorem History.InStep.postFail (inStep : history.InStep id)
    (spared : history.store.SparesRecord options id .postFail) :
    (history.step options .postFail).InStep id := by
  simp only [History.InStep, History.step, Store.step]
  rw [history.store.view_postFail options id]
  split
  · rename_i trimmed
    have enabled := history.store.enabled_pruneFailed options trimmed
    obtain ⟨exclusive, recorded⟩ := inStep
    have needed := spared trimmed
    rw [history.store.isLive_view, Option.isNone_iff_eq_none] at needed
    refine ⟨exclusive.apply options id _ enabled ?_, recorded.pruneFailed exclusive enabled.1 ?_⟩
    · rcases needed with seen | absent | ⟨undelayed, -, -⟩
      · exact exclusive.undelayed_of_isLive seen
      · refine JobView.undelayed_of_live ?_
        by_contra present
        have stored := exclusive.stored (Nat.pos_of_ne_zero present)
        simp [Store.view, absent] at stored
      · exact AList.lookup_eq_none.mpr undelayed
    · rcases needed with seen | absent | ⟨-, unlisted, unkept⟩
      · exact .inl seen
      · exact .inr (.inl absent)
      · exact .inr (.inr ⟨List.count_eq_zero_of_not_mem unlisted,
          List.count_eq_zero_of_not_mem unkept⟩)
  · exact inStep

/-- Cancelling a job keeps the job in step. -/
theorem History.InStep.cancel (inStep : history.InStep id) (now : Nat) (target : ι) :
    (history.step options (.cancel now target)).InStep id := by
  refine ⟨Store.exclusive_step inStep.1 options (.cancel now target) trivial, ?_⟩
  simp only [History.step, Store.step]
  by_cases waiting : target ∈ history.store.pending ∨ target ∈ history.store.delayed
  · rw [if_pos waiting]
    by_cases named : id = target
    · subst named
      obtain ⟨enabled, followed⟩ := history.store.view_cancel_waiting options now waiting
      rw [followed, Function.update_self]
      exact inStep.2.cancelNow inStep.1 enabled options id now
    · rw [history.store.view_cancel_of_ne now named, Function.update_of_ne named]
      exact inStep.2
  · rw [if_neg waiting]
    by_cases named : id = target
    · subst named
      obtain ⟨events, marked, -, followed⟩ := history.store.view_cancel_rest options now waiting
      rw [followed]
      refine Transition.run_invariant
        (fun view : JobView ι δ ο ε => view.Retained (history.latest id)) ?_ _ events
        inStep.2 (Transition.along_of_forall _ events marked)
      rintro view event before rfl
      exact before.congr rfl rfl rfl rfl (fun known => known) rfl rfl
    · rw [history.store.view_cancel_of_ne now named]
      exact inStep.2

/-- An operation in a state that spares the record keeps the job in step. -/
theorem History.InStep.step (inStep : history.InStep id)
    (permanent : options.idempotencyMode = .permanent) (op : Op ι δ ο ε)
    (someSuccess : op = .postSuccess → 0 < options.maxSuccess)
    (spared : history.store.SparesRecord options id op) :
    (history.step options op).InStep id := by
  cases op with
  | push now job => exact inStep.push now job
  | replace target data =>
    refine inStep.of_events (.replace target data) rfl
      (Store.exclusive_step inStep.1 options _ trivial) ?_
    rintro view event latest before ⟨-, rfl⟩ enabled
    have stored : view.data.isSome := enabled.1
    exact before.congr (by simpa [JobView.apply] using stored.symm) rfl rfl rfl
      (fun known => known) rfl rfl
  | pop now popId batchSize => exact inStep.pop now popId batchSize spared
  | complete now job result => exact inStep.complete permanent now job result
  | expireLease target token =>
    refine inStep.of_events (.expireLease target token) rfl
      (Store.exclusive_step inStep.1 options _ trivial) ?_
    rintro view event latest before ⟨-, rfl⟩ -
    exact before.congr rfl rfl rfl rfl (fun known => known) rfl rfl
  | postSuccess => exact inStep.postSuccess (someSuccess rfl)
  | postFail => exact inStep.postFail spared
  | cancel now target => exact inStep.cancel now target
  | release target => exact inStep.release spared
  | reopen now job => exact inStep.reopen now job

end Step

/-- In permanent mode with a nonzero success bound, a run whose steps spare the record of a job
keeps what the queue owes that job: listed as succeeded it is closed and readable, listed as failed
it is readable with its data. -/
theorem History.retention (options : QueueOptions)
    (permanent : options.idempotencyMode = .permanent) (someSuccess : 0 < options.maxSuccess)
    (ops : List (Op ι δ ο ε)) (id : ι)
    (spared : Transition.Along (History.step options)
      (fun history op => history.store.SparesRecord options id op) History.empty ops) :
    (Transition.run (History.step options) History.empty ops).Retains options id := by
  have inStep := Transition.run_invariant (fun history : History ι δ ο ε => history.InStep id)
    (fun _ op before safe => before.step permanent op (fun _ => someSuccess) safe) History.empty ops
    (History.inStep_empty id) spared
  exact inStep.retains options

/-- Job 7 fails, is reopened and succeeds. -/
def failThenSucceed : List (Op Nat String Nat String) :=
  [.push 0 { data := "tx", id := 7 },
    .pop 0 "a" 1,
    .complete 1 (borrowedAt 7 0 1 "a") (.error (.fail "down")),
    .postFail,
    .reopen 2 { data := "tx", id := 7 },
    .pop 3 "b" 1,
    .complete 4 (borrowedAt 7 3 1 "b") (.ok 5),
    .postSuccess]

/-- The reopened job is still closed and reads as succeeded with its output. -/
theorem History.retention_failThenSucceed :
    let history := Transition.run (History.step { maxFailed := 1 }) History.empty failThenSucceed
    7 ∈ history.store.dedupe ∧ history.store.getJobState 7 = some (.succeeded 5) := by
  intro history
  have retains := History.retention { maxFailed := 1 } rfl (by decide) failThenSucceed 7
    (by decide +kernel)
  have ended : history.latest 7 = some (.succeeded 5) := by decide +kernel
  have listed : 7 ∈ history.store.success.take 1000 := by decide +kernel
  exact retains.1 5 ended listed

/-- Job 7 fails, is reopened and succeeds; then job 8 fails, and the failed prune meets the old
entry of 7 in its tail. -/
def pruneReopened : List (Op Nat String Nat String) :=
  failThenSucceed ++ [.push 5 { data := "tx", id := 8 },
    .pop 5 "c" 1,
    .complete 6 (borrowedAt 8 5 1 "c") (.error (.fail "down")),
    .postFail]

/-- The prune deletes the record of the succeeded job: its slot is open again. -/
theorem History.pruneReopened_lost :
    let options : QueueOptions := { maxFailed := 1 }
    let history := Transition.run (History.step options) History.empty pruneReopened
    history.latest 7 = some (.succeeded 5) ∧ 7 ∈ history.store.success.take options.maxSuccess ∧
      7 ∉ history.store.dedupe ∧ ¬history.Retains options 7 := by
  intro options history
  have ended : history.latest 7 = some (.succeeded 5) := by decide +kernel
  have listed : 7 ∈ history.store.success.take options.maxSuccess := by decide +kernel
  have open_ : 7 ∉ history.store.dedupe := by decide +kernel
  refine ⟨ended, listed, open_, ?_⟩
  clear_value history
  rintro ⟨succeeded, -⟩
  exact open_ (succeeded 5 ended listed).1

end OpenEngine.Queue
