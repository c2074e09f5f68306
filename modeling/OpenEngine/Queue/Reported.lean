import OpenEngine.Queue.Conservation

/-!
# The reported state is the real state

`get_job_state` reads one job's metadata and its stored result, never the containers. A run of the
queue without cancelling and reopening keeps both in step with the container the job is in, and the
two hold markers in step with the latest thing that happened to the job: a pop that handed it out,
or a completion that committed.
-/

namespace OpenEngine.Queue

variable {ι δ ο ε : Type}

/-- What a run tells about one job: a pop handed it out, or a completion of it committed. -/
inductive Deed (ο ε : Type) where
  | popped
  | completed (result : JobResult ο ε)

/-- A committed `Defer`. -/
def Deed.isDefer : Deed ο ε → Bool
  | .completed (.error (.defer _ _)) => true
  | _ => false

/-- A committed `Nack` with a delay. -/
def Deed.isRetry : Deed ο ε → Bool
  | .completed (.error (.nack _ (some _) _)) => true
  | _ => false

/-- A `Defer` is no `Nack`. -/
theorem Deed.isRetry_of_isDefer {latest : Option (Deed ο ε)} (deferred : latest.any Deed.isDefer) :
    latest.any Deed.isRetry = false := by
  obtain ⟨deed, rfl, isDefer⟩ := Option.any_eq_true _ _ |>.mp deferred
  unfold Deed.isDefer at isDefer
  split at isDefer
  · rfl
  · contradiction

namespace JobView

/-- What an event tells about its job. -/
def deeds (view : JobView ι δ ο ε) : JobEvent ι δ ο ε → List (Deed ο ε)
  | .lease _ _ => if view.data.isSome then [.popped] else []
  | .complete _ _ result => [.completed result]
  | _ => []

/-- The job waits to be handed out. -/
def Waits (view : JobView ι δ ο ε) : Prop := 0 < view.pending ∨ view.delayed.isSome

/-- The metadata and the result of one job in step with its containers and with the latest deed. -/
structure Reported (view : JobView ι δ ο ε) (latest : Option (Deed ο ε)) : Prop where
  /-- A known job has metadata. -/
  stamped : view.deduped → view.info.createdAt.isSome
  /-- An unknown job has none. -/
  blank : ¬view.deduped → view.info = {}
  /-- The finish time is set while the job is on a finished list. -/
  finished : view.info.finishedAt.isSome ↔ 0 < view.success + view.failed
  /-- A job on the success list has the output that was committed last. -/
  output : 0 < view.success → ∃ output, view.result = some output ∧
    latest = some (.completed (.ok output))
  /-- Any other job has no result. -/
  pending : view.success = 0 → view.result = none
  /-- A lease token is recorded while the job is active. -/
  leased : view.info.leaseToken.isSome = view.active.isSome
  /-- The deferred marker is set by a `Defer`. -/
  deferred : view.info.deferredUntil.isSome = latest.any Deed.isDefer
  /-- The backoff marker is set by a `Nack` with a delay. -/
  retrying : view.info.retryAt.isSome = latest.any Deed.isRetry
  /-- A held job waits. -/
  waits : latest.any Deed.isDefer ∨ latest.any Deed.isRetry → view.Waits

variable {view : JobView ι δ ο ε} {latest : Option (Deed ο ε)}

/-- A waiting job is live. -/
theorem Waits.live (waits : view.Waits) : 0 < view.live := by
  unfold JobView.live
  rcases waits with listed | delayed
  · omega
  · rw [delayed, Bool.toNat_true]
    omega

/-- A job without a waiting entry carries no hold marker. -/
theorem Reported.unheld (reported : view.Reported latest) (idle : ¬view.Waits) :
    latest.any Deed.isDefer = false ∧ latest.any Deed.isRetry = false ∧
      view.info.deferredUntil = none ∧ view.info.retryAt = none := by
  have noDefer : latest.any Deed.isDefer = false :=
    Bool.eq_false_iff.mpr fun held => idle (reported.waits (.inl held))
  have noRetry : latest.any Deed.isRetry = false :=
    Bool.eq_false_iff.mpr fun held => idle (reported.waits (.inr held))
  have deferred := reported.deferred
  have retrying := reported.retrying
  rw [noDefer, Option.isSome_eq_false_iff, Option.isNone_iff_eq_none] at deferred
  rw [noRetry, Option.isSome_eq_false_iff, Option.isNone_iff_eq_none] at retrying
  exact ⟨noDefer, noRetry, deferred, retrying⟩

/-- An active job does not wait. -/
theorem Conserved.not_waits (conserved : view.Conserved) (active : view.active.isSome) :
    ¬view.Waits := by
  intro waits
  have idle : view.active = none := by
    apply conserved.exclusive.idle
    rcases waits with listed | delayed
    · omega
    · rw [delayed, Bool.toNat_true]
      omega
  rw [idle] at active
  contradiction

/-- A job with no live entry does not wait. -/
theorem not_waits_of_live (dead : view.live = 0) : ¬view.Waits := by
  intro waits
  have present := waits.live
  omega

/-- A known job has a metadata hash. -/
theorem Reported.exists_of_known (reported : view.Reported latest) [DecidableEq ι]
    (known : view.deduped) : view.info.exists = true := by
  have stamped := reported.stamped known
  unfold JobMeta.exists
  rw [decide_eq_true_iff]
  intro blank
  rw [blank] at stamped
  contradiction

/-- The report after an event that moves the job between live containers and keeps its marks. -/
theorem Reported.move (reported : view.Reported latest) {moved : JobView ι δ ο ε}
    (deduped : moved.deduped ↔ view.deduped) (blank : ¬view.deduped → moved.info = {})
    (created : moved.info.createdAt = view.info.createdAt)
    (finished : moved.info.finishedAt = view.info.finishedAt)
    (success : moved.success = view.success) (failed : moved.failed = view.failed)
    (result : moved.result = view.result)
    (leased : moved.info.leaseToken.isSome = moved.active.isSome)
    (deferredUntil : moved.info.deferredUntil = view.info.deferredUntil)
    (retryAt : moved.info.retryAt = view.info.retryAt) (waits : view.Waits → moved.Waits) :
    moved.Reported latest where
  stamped known := by
    rw [created]
    exact reported.stamped (deduped.mp known)
  blank unknown := blank fun known => unknown (deduped.mpr known)
  finished := by
    rw [finished, success, failed]
    exact reported.finished
  output listed := by
    rw [success] at listed
    rw [result]
    exact reported.output listed
  pending unlisted := by
    rw [success] at unlisted
    rw [result]
    exact reported.pending unlisted
  leased := leased
  deferred := by
    rw [deferredUntil]
    exact reported.deferred
  retrying := by
    rw [retryAt]
    exact reported.retrying
  waits held := waits (reported.waits held)

/-- A push of an unknown job starts with no mark of an earlier one. -/
theorem Reported.push (reported : view.Reported latest) (conserved : view.Conserved)
    (fresh : ¬view.deduped) (now : Nat) (job : JobOptions ι δ) :
    (view.push now job).Reported latest := by
  have empty := conserved.unknown fresh
  unfold places at empty
  have dead : view.live = 0 := by omega
  have unlisted : view.success = 0 := by omega
  have unfailed : view.failed = 0 := by omega
  have idle : view.active = none := idle_of_live dead
  obtain ⟨noDefer, noRetry, -, -⟩ := reported.unheld (not_waits_of_live dead)
  have held : ¬(latest.any Deed.isDefer ∨ latest.any Deed.isRetry) := by
    rw [noDefer, noRetry]
    decide
  unfold JobView.push
  dsimp only
  split
  · exact ⟨fun _ => rfl, fun unknown => absurd trivial unknown,
      by simp [unlisted, unfailed], by simp [unlisted], fun _ => rfl, by simp [idle],
      noDefer.symm, noRetry.symm, fun marked => absurd marked held⟩
  · exact ⟨fun _ => rfl, fun unknown => absurd trivial unknown,
      by simp [unlisted, unfailed], by simp [unlisted], fun _ => rfl, by simp [idle],
      noDefer.symm, noRetry.symm, fun marked => absurd marked held⟩

/-- A pruned job leaves nothing to report. -/
theorem Reported.forget (reported : view.Reported latest) (dead : view.live = 0)
    {pruned : JobView ι δ ο ε} (deduped : ¬pruned.deduped) (info : pruned.info = {})
    (success : pruned.success = 0) (failed : pruned.failed = 0) (result : pruned.result = none)
    (active : pruned.active = view.active) : pruned.Reported latest := by
  obtain ⟨noDefer, noRetry, -, -⟩ := reported.unheld (not_waits_of_live dead)
  have idle : pruned.active = none := active.trans (idle_of_live dead)
  exact ⟨fun known => absurd known deduped, fun _ => info, by simp [info, success, failed],
    by simp [success], fun _ => result, by simp [info, idle], by simp [info, noDefer],
    by simp [info, noRetry], by simp [noDefer, noRetry]⟩

variable [DecidableEq ι]

/-- Handing a job out clears both hold markers. -/
theorem Reported.lease (reported : view.Reported latest) (conserved : view.Conserved)
    (waiting : 0 < view.pending) (options : QueueOptions) (id : ι) (now : Nat) (popId : String) :
    (view.lease options id now popId).Reported (some .popped) := by
  have present : 0 < view.live := by
    unfold live
    omega
  obtain ⟨known, -, -, unlisted, unfailed⟩ := conserved.live_cases present
  have unfinished := conserved.exclusive.unfinished present
  exact ⟨reported.stamped, fun unknown => absurd known unknown,
    by simp [JobView.lease, leasedInfo, JobMeta.incrAttempts, unfinished, unlisted, unfailed],
    by simp [JobView.lease, unlisted], reported.pending, rfl, rfl, rfl,
    by simp [Deed.isDefer, Deed.isRetry]⟩

/-- A committed completion leaves the marks of its outcome. -/
theorem Reported.complete (reported : view.Reported latest) (conserved : view.Conserved)
    {options : QueueOptions} (permanent : options.idempotencyMode = .permanent) (now : Nat)
    (job : BorrowedJob ι δ) (issued : job.leaseToken ∈ view.leases) (result : JobResult ο ε) :
    (view.complete options now job result).Reported (some (.completed result)) := by
  have active := (conserved.exclusive.held _ issued).1
  have present := live_of_active active
  obtain ⟨known, -, -, unlisted, unfailed⟩ := conserved.live_cases present
  have unfinished := conserved.exclusive.unfinished present
  have stamped := reported.stamped known
  have noResult := reported.pending unlisted
  obtain ⟨-, -, undeferred, unretried⟩ := reported.unheld (conserved.not_waits active)
  have stays : view.StaysDeduped options := ⟨by rw [permanent]; decide, known⟩
  cases result using JobResult.cases with
  | ok output =>
    exact ⟨fun _ => stamped, fun unknown => absurd stays unknown,
      by simp [JobView.complete, JobView.endLease], fun _ => ⟨output, rfl, rfl⟩,
      by simp [JobView.complete], rfl, by simp [JobView.complete, JobView.endLease, undeferred,
        Deed.isDefer], by simp [JobView.complete, JobView.endLease, unretried, Deed.isRetry],
      by simp [Deed.isDefer, Deed.isRetry]⟩
  | retry error delay position =>
    exact ⟨fun _ => stamped, fun unknown => absurd known unknown,
      by simp [JobView.complete, JobView.endLease, addError, unfinished, unlisted, unfailed],
      by simp [JobView.complete, JobView.endLease, addError, unlisted], fun _ => noResult, rfl,
      by simp [JobView.complete, JobView.endLease, undeferred, Deed.isDefer],
      by simp [JobView.complete, Deed.isRetry], fun _ => .inr rfl⟩
  | nack error position =>
    exact ⟨fun _ => stamped, fun unknown => absurd known unknown,
      by simp [JobView.complete, JobView.endLease, addError, unfinished, unlisted, unfailed],
      by simp [JobView.complete, JobView.endLease, addError, unlisted], fun _ => noResult, rfl,
      by simp [JobView.complete, JobView.endLease, addError, undeferred, Deed.isDefer],
      by simp [JobView.complete, JobView.endLease, addError, unretried, Deed.isRetry],
      by simp [Deed.isDefer, Deed.isRetry]⟩
  | fail error =>
    exact ⟨fun _ => stamped, fun unknown => absurd stays unknown,
      by simp [JobView.complete, JobView.endLease, addError],
      by simp [JobView.complete, JobView.endLease, addError, unlisted], fun _ => noResult, rfl,
      by simp [JobView.complete, JobView.endLease, addError, undeferred, Deed.isDefer],
      by simp [JobView.complete, JobView.endLease, addError, unretried, Deed.isRetry],
      by simp [Deed.isDefer, Deed.isRetry]⟩
  | defer delay position =>
    exact ⟨fun _ => stamped, fun unknown => absurd known unknown,
      by simp [JobView.complete, JobView.endLease, JobMeta.incrAttempts, unfinished, unlisted,
        unfailed],
      by simp [JobView.complete, JobView.endLease, unlisted], fun _ => noResult, rfl,
      by simp [JobView.complete, Deed.isDefer],
      by simp [JobView.complete, JobView.endLease, JobMeta.incrAttempts, unretried, Deed.isRetry],
      fun _ => .inr rfl⟩

/-- Every core event keeps the report in step. -/
theorem Reported.apply (reported : view.Reported latest) (conserved : view.Conserved)
    {options : QueueOptions} (permanent : options.idempotencyMode = .permanent)
    (someSuccess : 0 < options.maxSuccess) (someFailed : 0 < options.maxFailed) (id : ι)
    (event : JobEvent ι δ ο ε) (core : event.isCore) (enabled : event.Enabled options view) :
    (JobView.apply options id view event).Reported ((view.deeds event).getLast?.or latest) := by
  cases event with
  | push now job => exact reported.push conserved enabled now job
  | replace data =>
    exact reported.move Iff.rfl reported.blank rfl rfl rfl rfl rfl reported.leased rfl rfl
      fun waits => waits
  | requeue =>
    have known := (conserved.live_cases (live_of_active enabled.1)).1
    exact reported.move Iff.rfl (fun unknown => absurd known unknown) rfl rfl rfl rfl rfl rfl rfl
      rfl fun _ => .inl (Nat.succ_pos _)
  | sweep now => exact absurd enabled.1 conserved.uncancelled
  | promote =>
    have waits : view.Waits := .inr enabled
    have known := (conserved.live_cases waits.live).1
    exact reported.move Iff.rfl (fun unknown => absurd known unknown) rfl rfl rfl rfl rfl
      reported.leased rfl rfl fun _ => .inl (Nat.succ_pos _)
  | lease now popId =>
    rw [deeds, if_pos enabled.2]
    exact reported.lease conserved enabled.1 options id now popId
  | drop =>
    have waits : view.Waits := .inl enabled.1
    have data := (conserved.live_cases waits.live).2.1
    rw [enabled.2] at data
    contradiction
  | complete now job result => exact reported.complete conserved permanent now job enabled result
  | expire token =>
    exact reported.move Iff.rfl reported.blank rfl rfl rfl rfl rfl reported.leased rfl rfl
      fun waits => waits
  | pruneSuccess kept =>
    have fewer : kept < view.success := enabled.2 someSuccess
    have bound := conserved.places_le
    unfold places at bound
    obtain ⟨dead, -, unseen⟩ := conserved.finished_cases (by omega)
    simp only [JobView.apply, settleSucceeded, unseen, Bool.false_eq_true, ↓reduceIte]
    exact reported.forget dead not_false rfl (by show kept = 0; omega)
      (by show view.failed = 0; omega) rfl rfl
  | pruneFailed kept =>
    have fewer : kept < view.failed := enabled.2 someFailed
    have bound := conserved.places_le
    unfold places at bound
    obtain ⟨dead, -, unseen⟩ := conserved.finished_cases (by omega)
    have noResult := reported.pending (by omega)
    simp only [JobView.apply, settleFailed, unseen, Bool.false_eq_true, ↓reduceIte]
    exact reported.forget dead not_false rfl (by show view.success = 0; omega)
      (by show kept = 0; omega) noResult rfl
  | cancelNow now => contradiction
  | cancelLater => contradiction
  | release => contradiction

end JobView

variable [LinearOrder ι]

/-- What an operation tells about the jobs it touches. -/
def Store.deeds (options : QueueOptions) (store : Store ι δ ο ε) :
    Op ι δ ο ε → List (ι × Deed ο ε)
  | .pop now popId batchSize =>
    (store.popBatchJobs options now popId batchSize).resultJobs.map fun job => (job.job.id, .popped)
  | .complete _ job result =>
    if store.holdsLease job then [(job.job.id, .completed result)] else []
  | _ => []

/-- The deeds of one job, in order. -/
def deedsOf (id : ι) (told : List (ι × Deed ο ε)) : List (Deed ο ε) :=
  (told.filter (·.1 = id)).map Prod.snd

/-- The latest of a job's pops and committed completions. -/
def latestDeed (id : ι) (told : List (ι × Deed ο ε)) : Option (Deed ο ε) :=
  (deedsOf id told).getLast?

/-- Told deeds are read off part by part. -/
theorem deedsOf_append (id : ι) (first second : List (ι × Deed ο ε)) :
    deedsOf id (first ++ second) = deedsOf id first ++ deedsOf id second := by
  simp [deedsOf]

omit [LinearOrder ι] in
/-- What an event hands out is what it tells, job by job. -/
theorem JobView.handed_deeds [DecidableEq ι] (id : ι) (view : JobView ι δ ο ε)
    {event : JobEvent ι δ ο ε} {now : Nat} {popId : String} (popped : event.OfPop now popId) :
    (JobView.handed id view event).map (fun _ => (Deed.popped : Deed ο ε)) =
      view.deeds event := by
  cases event with
  | lease at_ under =>
    unfold JobView.handed JobView.deeds
    cases data : view.data with
    | none => rfl
    | some data => rfl
  | complete now job result => exact popped.elim
  | _ => rfl

omit [LinearOrder ι] in
/-- Apart from pops and completions nothing is told. -/
theorem Op.deeds_of_causes {id : ι} {event : JobEvent ι δ ο ε} {op : Op ι δ ο ε}
    (caused : op.Causes id event) (notPop : ∀ now popId batchSize, op ≠ .pop now popId batchSize)
    (notComplete : ∀ now job result, op ≠ .complete now job result) (view : JobView ι δ ο ε) :
    view.deeds event = [] := by
  cases event with
  | lease now popId =>
    cases op with
    | pop at_ under batchSize => exact absurd rfl (notPop at_ under batchSize)
    | _ => simp [Op.Causes] at caused
  | complete now job result =>
    cases op with
    | pop at_ under batchSize => exact absurd rfl (notPop at_ under batchSize)
    | complete at_ under outcome => exact absurd rfl (notComplete at_ under outcome)
    | _ => simp [Op.Causes] at caused
  | _ => rfl

/-- What a pop does to one job is a run of its events that tells the same deeds. -/
theorem Store.pop_deeds (store : Store ι δ ο ε) (options : QueueOptions) (now : Nat)
    (popId : String) (batchSize : Nat) (id : ι) :
    ∃ events : List (JobEvent ι δ ο ε), (∀ event ∈ events, event.OfPop now popId) ∧
      PopState.Follows options id { store } (store.popBatchJobs options now popId batchSize)
        events ∧
      deedsOf id (store.deeds options (.pop now popId batchSize)) =
        Transition.trace (JobView.apply options id) JobView.deeds (store.view id) events := by
  obtain ⟨events, allowed, follows⟩ := store.pop_follows options now popId batchSize id
  refine ⟨events, allowed, follows, ?_⟩
  have results := follows.results
  rw [List.filter_nil, List.nil_append] at results
  have own : deedsOf id (store.deeds options (.pop now popId batchSize)) =
      ((store.popBatchJobs options now popId batchSize).resultJobs.filter
        (·.job.id = id)).map fun _ => .popped := by
    simp [deedsOf, Store.deeds, List.filter_map, Function.comp_def]
  rw [own, results]
  exact Transition.map_trace _ _ events fun view event member =>
    JobView.handed_deeds id view (allowed event member)

/-- What an operation does to one job is a run of its events that tells the same deeds. -/
theorem Store.step_deeds (store : Store ι δ ο ε) (options : QueueOptions) (op : Op ι δ ο ε)
    (id : ι) :
    ∃ events : List (JobEvent ι δ ο ε), (∀ event ∈ events, op.Causes id event) ∧
      Transition.Along (JobView.apply options id) (JobEvent.Enabled options) (store.view id)
        events ∧
      (store.step options op).view id =
        Transition.run (JobView.apply options id) (store.view id) events ∧
      deedsOf id (store.deeds options op) =
        Transition.trace (JobView.apply options id) JobView.deeds (store.view id) events := by
  by_cases pops : ∃ now popId batchSize, op = .pop now popId batchSize
  · obtain ⟨now, popId, batchSize, rfl⟩ := pops
    obtain ⟨events, allowed, follows, tells⟩ := store.pop_deeds options now popId batchSize id
    exact ⟨events, allowed, follows.enabled, follows.view, tells⟩
  by_cases completes : ∃ now job result, op = .complete now job result
  · obtain ⟨now, job, result, rfl⟩ := completes
    by_cases leased : store.holdsLease job
    · have committed : store.step options (.complete now job result) =
          store.applyCompletion options now job result := by
        simp [Store.step, Store.complete, leased]
      by_cases same : job.job.id = id
      · subst same
        refine ⟨[.complete now job result], by simp [Op.Causes],
          ⟨(store.holdsLease_iff job).mp leased, trivial⟩, ?_, ?_⟩
        · rw [committed]
          exact store.view_applyCompletion_self options now job result
        · simp [deedsOf, Store.deeds, leased, Transition.trace, JobView.deeds]
      · refine ⟨[], by simp, trivial, ?_, ?_⟩
        · rw [committed]
          exact store.view_applyCompletion_of_ne options now job result fun eq => same eq.symm
        · simp [deedsOf, Store.deeds, leased, Transition.trace, same]
    · refine ⟨[], by simp, trivial, ?_, ?_⟩
      · simp [Store.step, Store.complete, leased]
      · simp [deedsOf, Store.deeds, leased, Transition.trace]
  · obtain ⟨events, caused, enabled, followed⟩ := store.step_refines options op id
    refine ⟨events, caused, enabled, followed, ?_⟩
    have silent : store.deeds options op = [] := by
      cases op with
      | pop now popId batchSize => exact absurd ⟨now, popId, batchSize, rfl⟩ pops
      | complete now job result => exact absurd ⟨now, job, result, rfl⟩ completes
      | _ => rfl
    rw [silent, Transition.trace_eq_nil]
    · rfl
    · intro view event member
      refine Op.deeds_of_causes (caused event member) ?_ ?_ view
      · exact fun now popId batchSize same => pops ⟨now, popId, batchSize, same⟩
      · exact fun now job result same => completes ⟨now, job, result, same⟩

/-- The job is on the pending list or in the delayed set. -/
def Store.Waits (store : Store ι δ ο ε) (id : ι) : Prop :=
  id ∈ store.pending ∨ id ∈ store.delayed

/-- What `get_job_state` says of an id, against its containers and the latest of its pops and
committed completions. -/
structure Store.ReportsState (store : Store ι δ ο ε) (id : ι) (latest : Option (Deed ο ε)) :
    Prop where
  /-- `Succeeded` with the committed output, on the success list. -/
  succeeded : ∀ output, store.getJobState id = some (.succeeded output) ↔
    id ∈ store.success ∧ latest = some (.completed (.ok output))
  /-- Every job of the success list reads as `Succeeded`. -/
  listed : id ∈ store.success → ∃ output, store.getJobState id = some (.succeeded output)
  /-- `Failed` on the failed list. -/
  failed : (∃ lastError, store.getJobState id = some (.failed lastError)) ↔ id ∈ store.failed
  /-- `Active` in the active hash. -/
  active : store.getJobState id = some .active ↔ id ∈ store.active
  /-- `Deferred` while it waits after a `Defer`. -/
  deferred : (∃ until_, store.getJobState id = some (.deferred until_)) ↔
    store.Waits id ∧ latest.any Deed.isDefer
  /-- `Retrying` while it waits after a `Nack` with a delay. -/
  retrying : (∃ until_ lastError, store.getJobState id = some (.retrying until_ lastError)) ↔
    store.Waits id ∧ latest.any Deed.isRetry
  /-- `Pending` while it waits otherwise. -/
  pending : store.getJobState id = some .pending ↔
    store.Waits id ∧ ¬latest.any Deed.isDefer ∧ ¬latest.any Deed.isRetry
  /-- `None` in no container. -/
  unknown : store.getJobState id = none ↔ store.places id = 0

/-- A waiting id is one whose view waits. -/
theorem Store.waits_view (store : Store ι δ ο ε) (id : ι) :
    (store.view id).Waits ↔ store.Waits id := by
  unfold JobView.Waits Store.Waits
  exact or_congr List.count_pos_iff AList.lookup_isSome

/-- A conserved job is in no container, or in exactly one. -/
theorem Store.container_cases {store : Store ι δ ο ε} {id : ι}
    (conserved : (store.view id).Conserved) :
    (id ∉ store.dedupe ∧ id ∉ store.success ∧ id ∉ store.failed ∧ id ∉ store.active ∧
        ¬store.Waits id) ∨
      id ∈ store.dedupe ∧
        ((id ∈ store.success ∧ id ∉ store.failed ∧ id ∉ store.active ∧ ¬store.Waits id) ∨
        (id ∉ store.success ∧ id ∈ store.failed ∧ id ∉ store.active ∧ ¬store.Waits id) ∨
        (id ∉ store.success ∧ id ∉ store.failed ∧ id ∈ store.active ∧ ¬store.Waits id) ∨
        (id ∉ store.success ∧ id ∉ store.failed ∧ id ∉ store.active ∧ store.Waits id)) := by
  have places := store.places_view id
  unfold Store.places at places
  unfold Store.Waits
  simp only [← List.count_pos_iff (a := id)]
  by_cases known : id ∈ store.dedupe
  · have one := conserved.known known
    by_cases delayed : id ∈ store.delayed <;> by_cases active : id ∈ store.active <;>
      simp only [known, delayed, active, if_true, if_false, not_true, not_false_iff, and_true,
        true_and, false_and, and_false, or_true, or_false, false_or] at places ⊢ <;> omega
  · have none := conserved.unknown known
    by_cases delayed : id ∈ store.delayed <;> by_cases active : id ∈ store.active <;>
      simp only [known, delayed, active, if_true, if_false, not_true, not_false_iff, and_true,
        true_and, false_and, and_false, or_true, or_false, false_or] at places ⊢ <;> omega

/-- A job in step is reported as it is. -/
theorem Store.reportsState_of_view {store : Store ι δ ο ε} {id : ι} {latest : Option (Deed ο ε)}
    (conserved : (store.view id).Conserved) (reported : (store.view id).Reported latest) :
    store.ReportsState id latest := by
  have places := store.places_view id
  rcases Store.container_cases conserved with unknown | ⟨known, container⟩
  · obtain ⟨unknown, noSuccess, noFailed, noActive, idle⟩ := unknown
    have info : store.jobMeta id = {} := reported.blank unknown
    have state : store.getJobState id = none := by
      simp [Store.getJobState, info, JobMeta.exists]
    have empty := places.symm.trans (conserved.unknown unknown)
    exact ⟨by simp [state, noSuccess], by simp [noSuccess], by simp [state, noFailed],
      by simp [state, noActive], by simp [state, idle], by simp [state, idle],
      by simp [state, idle], by simp [state, empty]⟩
  have counted : store.places id ≠ 0 := by
    have one := conserved.known known
    omega
  have info : (store.jobMeta id).exists = true := reported.exists_of_known known
  have finished : (store.jobMeta id).finishedAt.isSome ↔
      id ∈ store.success ∨ id ∈ store.failed := by
    rw [← List.count_pos_iff, ← List.count_pos_iff, ← Nat.add_pos_iff_pos_or_pos]
    exact reported.finished
  have leased : (store.jobMeta id).leaseToken.isSome ↔ id ∈ store.active := by
    rw [← AList.lookup_isSome]
    exact Bool.eq_iff_iff.mp reported.leased
  rcases container with done | failed | active | waiting
  · obtain ⟨listed, noFailed, noActive, idle⟩ := done
    obtain ⟨output, result, told⟩ := reported.output (List.count_pos_iff.mpr listed)
    have stored : store.jobResult id = some output := result
    have state : store.getJobState id = some (.succeeded output) := by
      simp [Store.getJobState, info, finished.mpr (.inl listed), stored]
    have same (other : ο) : output = other ↔ latest = some (.completed (.ok other)) := by
      rw [told]
      simp
    exact ⟨by simp [state, listed, same], fun _ => ⟨output, state⟩, by simp [state, noFailed],
      by simp [state, noActive], by simp [state, idle], by simp [state, idle],
      by simp [state, idle], by simp [state, counted]⟩
  · obtain ⟨noSuccess, listed, noActive, idle⟩ := failed
    have stored : store.jobResult id = none :=
      reported.pending (List.count_eq_zero_of_not_mem noSuccess)
    have state : store.getJobState id = some (.failed (store.jobErrors id).head?) := by
      simp [Store.getJobState, info, finished.mpr (.inr listed), stored]
    exact ⟨by simp [state, noSuccess], by simp [noSuccess], by simp [state, listed],
      by simp [state, noActive], by simp [state, idle], by simp [state, idle],
      by simp [state, idle], by simp [state, counted]⟩
  · obtain ⟨noSuccess, noFailed, running, idle⟩ := active
    have unfinished : (store.jobMeta id).finishedAt = none := by
      simpa [noSuccess, noFailed] using finished
    have state : store.getJobState id = some .active := by
      simp [Store.getJobState, info, unfinished, leased.mpr running]
    exact ⟨by simp [state, noSuccess], by simp [noSuccess], by simp [state, noFailed],
      by simp [state, running], by simp [state, idle], by simp [state, idle],
      by simp [state, idle], by simp [state, counted]⟩
  · obtain ⟨noSuccess, noFailed, noActive, waits⟩ := waiting
    have unfinished : (store.jobMeta id).finishedAt = none := by
      simpa [noSuccess, noFailed] using finished
    have unleased : (store.jobMeta id).leaseToken = none := by
      simpa [noActive] using leased
    have deferred : (store.jobMeta id).deferredUntil.isSome = latest.any Deed.isDefer :=
      reported.deferred
    have retrying : (store.jobMeta id).retryAt.isSome = latest.any Deed.isRetry :=
      reported.retrying
    cases held : (store.jobMeta id).deferredUntil with
    | some until_ =>
      have isDefer : latest.any Deed.isDefer = true := by rw [← deferred, held]; rfl
      have noRetry := Deed.isRetry_of_isDefer isDefer
      have state : store.getJobState id = some (.deferred until_) := by
        simp [Store.getJobState, info, unfinished, unleased, held]
      exact ⟨by simp [state, noSuccess], by simp [noSuccess], by simp [state, noFailed],
        by simp [state, noActive], by simp [state, waits, isDefer], by simp [state, noRetry],
        by simp [state, isDefer], by simp [state, counted]⟩
    | none =>
      have noDefer : latest.any Deed.isDefer = false := by rw [← deferred, held]; rfl
      cases backoff : (store.jobMeta id).retryAt with
      | some until_ =>
        have isRetry : latest.any Deed.isRetry = true := by rw [← retrying, backoff]; rfl
        have state : store.getJobState id =
            some (.retrying until_ (store.jobErrors id).head?) := by
          simp [Store.getJobState, info, unfinished, unleased, held, backoff]
        exact ⟨by simp [state, noSuccess], by simp [noSuccess], by simp [state, noFailed],
          by simp [state, noActive], by simp [state, noDefer], by simp [state, waits, isRetry],
          by simp [state, isRetry], by simp [state, counted]⟩
      | none =>
        have noRetry : latest.any Deed.isRetry = false := by rw [← retrying, backoff]; rfl
        have state : store.getJobState id = some .pending := by
          simp [Store.getJobState, info, unfinished, unleased, held, backoff]
        exact ⟨by simp [state, noSuccess], by simp [noSuccess], by simp [state, noFailed],
          by simp [state, noActive], by simp [state, noDefer], by simp [state, noRetry],
          by simp [state, waits, noDefer, noRetry], by simp [state, counted]⟩

section Runs

variable {options : QueueOptions} (permanent : options.idempotencyMode = .permanent)
  (someSuccess : 0 < options.maxSuccess) (someFailed : 0 < options.maxFailed)

include permanent someSuccess someFailed

/-- A core operation keeps every job conserved and its report in step. -/
theorem Store.reported_step {store : Store ι δ ο ε} {told : List (ι × Deed ο ε)}
    (before : ∀ id, (store.view id).Conserved ∧ (store.view id).Reported (latestDeed id told))
    (op : Op ι δ ο ε) (core : op.isCore) (id : ι) :
    ((store.step options op).view id).Conserved ∧
      ((store.step options op).view id).Reported
        (latestDeed id (told ++ store.deeds options op)) := by
  obtain ⟨events, caused, enabled, followed, tells⟩ := store.step_deeds options op id
  have admitted := enabled.and (Transition.along_of_forall _ events caused)
  have preserved : ∀ view event (deeds : List (Deed ο ε)),
      (view.Conserved ∧ view.Reported (deeds.getLast?.or (latestDeed id told))) →
      (JobEvent.Enabled options view event ∧ op.Causes id event) →
      (JobView.apply options id view event).Conserved ∧
        (JobView.apply options id view event).Reported
          ((deeds ++ view.deeds event).getLast?.or (latestDeed id told)) := by
    intro view event deeds holds allowed
    have eventCore := op.isCore_of_causes core allowed.2
    rw [List.getLast?_append, Option.or_assoc]
    exact ⟨holds.1.apply permanent someSuccess someFailed id event eventCore allowed.1,
      holds.2.apply holds.1 permanent someSuccess someFailed id event eventCore allowed.1⟩
  have run := Transition.run_traced JobView.deeds _ preserved (store.view id) events [] (before id)
    admitted
  rw [followed, latestDeed, deedsOf_append, tells, List.getLast?_append]
  exact run

/-- After every core run every job is conserved and its report is in step with the latest of its
deeds. -/
theorem Store.reported_run (ops : List (Op ι δ ο ε)) (core : ∀ op ∈ ops, op.isCore) (id : ι) :
    let store := Transition.run (Store.step options) (Store.empty : Store ι δ ο ε) ops
    (store.view id).Conserved ∧ (store.view id).Reported (latestDeed id
      (Transition.trace (Store.step options) (Store.deeds options) Store.empty ops)) := by
  have start : ∀ id, ((Store.empty : Store ι δ ο ε).view id).Conserved ∧
      ((Store.empty : Store ι δ ο ε).view id).Reported none := by
    intro id
    exact ⟨Store.conserved_empty id, fun known => absurd known (Finset.notMem_empty id),
      fun _ => rfl, by simp [Store.view, Store.empty], by simp [Store.view, Store.empty],
      fun _ => rfl, rfl, rfl, rfl, by simp⟩
  have run := Transition.run_traced (Store.deeds options)
    (fun store told => ∀ id,
      (store.view id).Conserved ∧ (store.view id).Reported (latestDeed id told))
    (fun store op told before allowed id =>
      Store.reported_step permanent someSuccess someFailed before op allowed id)
    (Store.empty : Store ι δ ο ε) ops [] start (Transition.along_of_forall _ ops core)
  rw [List.nil_append] at run
  exact run id

/-- Over every run of pushes, replacements, pops, completions under their lease, lease expiries and
prunes, `get_job_state` reports of every id the container it is in and, while it waits, the latest
of its pops and committed completions. -/
theorem Store.reported_state (ops : List (Op ι δ ο ε)) (core : ∀ op ∈ ops, op.isCore) (id : ι) :
    (Transition.run (Store.step options) (Store.empty : Store ι δ ο ε) ops).ReportsState id
      (latestDeed id
        (Transition.trace (Store.step options) (Store.deeds options) Store.empty ops)) := by
  obtain ⟨conserved, reported⟩ :=
    Store.reported_run permanent someSuccess someFailed ops core id
  exact Store.reportsState_of_view conserved reported

end Runs

/-- The report on the job that expires, is requeued and is deferred. -/
theorem Store.reported_state_expireAndDefer :
    (Transition.run (Store.step {}) Store.empty expireAndDefer).ReportsState 7
      (latestDeed 7
        (Transition.trace (Store.step {}) (Store.deeds {}) Store.empty expireAndDefer)) :=
  Store.reported_state rfl (by decide) (by decide) expireAndDefer (by decide) 7

end OpenEngine.Queue
