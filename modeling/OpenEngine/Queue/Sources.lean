import OpenEngine.Queue.Conservation

/-!
# Where what a job holds comes from

The data of a job was pushed or replaced, its result and its error records come from completions.
No operation makes any of it up or moves it from one job to another, and what a pop hands out is the
data that the job holds.
-/

namespace OpenEngine.Queue

variable {ι δ ο ε : Type} {data : δ → Prop} {output : ο → Prop} {error : ε → Prop}

/-- The data, the result and the error records of a job are all of given kinds. -/
structure JobView.Sourced (data : δ → Prop) (output : ο → Prop) (error : ε → Prop)
    (view : JobView ι δ ο ε) : Prop where
  data : ∀ held, view.data = some held → data held
  output : ∀ held, view.result = some held → output held
  error : ∀ record ∈ view.errors, error record.error

/-- What a completion leaves on its job is of the given kinds. -/
def JobResult.Brings (output : ο → Prop) (error : ε → Prop) : JobResult ο ε → Prop
  | .ok held => output held
  | .error (.nack held _ _) | .error (.fail held) => error held
  | .error (.defer _ _) => True

/-- What an event leaves on its job is of the given kinds. -/
def JobEvent.Brings (data : δ → Prop) (output : ο → Prop) (error : ε → Prop) :
    JobEvent ι δ ο ε → Prop
  | .push _ job => data job.data
  | .replace held => data held
  | .complete _ _ result => result.Brings output error
  | _ => True

/-- What an operation leaves on a job is of the given kinds. -/
def Op.Brings (data : δ → Prop) (output : ο → Prop) (error : ε → Prop) (id : ι) :
    Op ι δ ο ε → Prop
  | .push _ job | .reopen _ job => job.id = id → data job.data
  | .replace target held => target = id → data held
  | .complete _ job result => job.job.id = id → result.Brings output error
  | _ => True

variable {view : JobView ι δ ο ε}

/-- Wider kinds cover what narrower ones do. -/
theorem JobView.Sourced.imp (sourced : view.Sourced data output error) {moreData : δ → Prop}
    {moreOutput : ο → Prop} {moreError : ε → Prop} (wider : ∀ held, data held → moreData held)
    (widerOutput : ∀ held, output held → moreOutput held)
    (widerError : ∀ held, error held → moreError held) :
    view.Sourced moreData moreOutput moreError where
  data held stored := wider held (sourced.data held stored)
  output held stored := widerOutput held (sourced.output held stored)
  error record member := widerError record.error (sourced.error record member)

/-- Only pushes, replacements and completions touch the data, the result and the records, apart from
what drops them. -/
theorem JobView.Sourced.of_kept (sourced : view.Sourced data output error)
    {after : JobView ι δ ο ε} (kept : after.data = view.data ∨ after.data = none)
    (keptResult : after.result = view.result ∨ after.result = none)
    (keptErrors : after.errors = view.errors ∨ after.errors = []) :
    after.Sourced data output error where
  data held stored := by
    cases kept with
    | inl same => exact sourced.data held (same ▸ stored)
    | inr gone => simp [gone] at stored
  output held stored := by
    cases keptResult with
    | inl same => exact sourced.output held (same ▸ stored)
    | inr gone => simp [gone] at stored
  error record member := by
    cases keptErrors with
    | inl same => exact sourced.error record (same ▸ member)
    | inr gone => simp [gone] at member

/-- The records of a job with one more. -/
theorem JobView.Sourced.error_addError (sourced : view.Sourced data output error)
    (options : QueueOptions) {added : JobErrorRecord ε} (brings : error added.error) :
    ∀ record ∈ (view.addError options added).errors, error record.error := by
  intro record member
  have listed : record ∈ added :: view.errors := (Redis.ltrim_sublist _ _ _).subset member
  cases List.mem_cons.mp listed with
  | inl same => exact same ▸ brings
  | inr before => exact sourced.error record before

/-- A completion adds what it brings. -/
theorem JobView.Sourced.complete [DecidableEq ι] (sourced : view.Sourced data output error)
    (options : QueueOptions) (now : Nat) (job : BorrowedJob ι δ) (result : JobResult ο ε)
    (brings : result.Brings output error) :
    (view.complete options now job result).Sourced data output error := by
  have kept : (view.complete options now job result).data = view.data :=
    (JobView.complete_data options now job result).1
  have ended : (view.endLease job.leaseToken).Sourced data output error :=
    sourced.of_kept (.inl rfl) (.inl rfl) (.inl rfl)
  cases result using JobResult.cases with
  | ok held =>
    refine ⟨fun other stored => sourced.data other (kept ▸ stored), fun other stored => ?_,
      sourced.error⟩
    have same : held = other := Option.some.inj stored
    exact same ▸ brings
  | retry held delay position =>
    exact ⟨fun other stored => sourced.data other (kept ▸ stored), sourced.output,
      ended.error_addError options brings⟩
  | nack held position =>
    exact ⟨fun other stored => sourced.data other (kept ▸ stored), sourced.output,
      ended.error_addError options brings⟩
  | fail held =>
    exact ⟨fun other stored => sourced.data other (kept ▸ stored), sourced.output,
      ended.error_addError options brings⟩
  | defer delay position =>
    exact ⟨fun other stored => sourced.data other (kept ▸ stored), sourced.output, sourced.error⟩

/-- An event that brings what is of the given kinds leaves a job that holds nothing else. -/
theorem JobView.Sourced.apply [DecidableEq ι] (sourced : view.Sourced data output error)
    (options : QueueOptions) (id : ι) (event : JobEvent ι δ ο ε)
    (brings : event.Brings data output error) :
    (JobView.apply options id view event).Sourced data output error := by
  cases event with
  | push now job =>
    have clean : (view.push now job).data = some job.data ∧ (view.push now job).result = none ∧
        (view.push now job).errors = [] := by
      unfold JobView.push
      dsimp only
      split <;> exact ⟨rfl, rfl, rfl⟩
    obtain ⟨stored, noResult, noErrors⟩ := clean
    refine ⟨fun held same => ?_, fun held same => ?_, fun record member => ?_⟩
    · have pushed : job.data = held := Option.some.inj (stored.symm.trans same)
      exact pushed ▸ brings
    · rw [JobView.apply, noResult] at same
      cases same
    · rw [JobView.apply, noErrors] at member
      cases member
  | replace held =>
    refine ⟨fun other stored => ?_, sourced.output, sourced.error⟩
    have same : held = other := Option.some.inj stored
    exact same ▸ brings
  | complete now job result => exact sourced.complete options now job result brings
  | sweep now =>
    simp only [JobView.apply]
    split <;> exact sourced.of_kept (.inl rfl) (.inl rfl) (.inl rfl)
  | pruneSuccess kept =>
    simp only [JobView.apply, JobView.settleSucceeded]
    split
    · exact sourced.of_kept (.inl rfl) (.inl rfl) (.inl rfl)
    · exact sourced.of_kept (.inr rfl) (.inr rfl) (.inr rfl)
  | pruneFailed kept =>
    simp only [JobView.apply, JobView.settleFailed]
    split
    · exact sourced.of_kept (.inl rfl) (.inl rfl) (.inl rfl)
    · exact sourced.of_kept (.inr rfl) (.inl rfl) (.inr rfl)
  | requeue => exact sourced.of_kept (.inl rfl) (.inl rfl) (.inl rfl)
  | promote => exact sourced.of_kept (.inl rfl) (.inl rfl) (.inl rfl)
  | lease now popId => exact sourced.of_kept (.inl rfl) (.inl rfl) (.inl rfl)
  | drop => exact sourced.of_kept (.inl rfl) (.inl rfl) (.inl rfl)
  | expire token => exact sourced.of_kept (.inl rfl) (.inl rfl) (.inl rfl)
  | cancelNow now => exact sourced.of_kept (.inl rfl) (.inl rfl) (.inl rfl)
  | cancelLater => exact sourced.of_kept (.inl rfl) (.inl rfl) (.inl rfl)
  | release => exact sourced.of_kept (.inl rfl) (.inl rfl) (.inl rfl)

/-- An event brings what the operation it belongs to does. -/
theorem Op.brings_of_causes {id : ι} {event : JobEvent ι δ ο ε} {op : Op ι δ ο ε}
    (brings : op.Brings data output error id) (caused : op.Causes id event) :
    event.Brings data output error := by
  cases op with
  | push now job =>
    obtain ⟨named, rfl⟩ := caused
    exact brings named
  | replace target held =>
    obtain ⟨named, rfl⟩ := caused
    exact brings named
  | complete now job result =>
    obtain ⟨named, rfl⟩ := caused
    exact brings named
  | reopen now job =>
    obtain ⟨named, rfl | rfl⟩ := caused
    · trivial
    · exact brings named
  | pop now popId batchSize => cases event <;> trivial
  | expireLease target token =>
    obtain ⟨-, rfl⟩ := caused
    trivial
  | postSuccess =>
    obtain ⟨kept, rfl⟩ := caused
    trivial
  | postFail =>
    obtain ⟨kept, rfl⟩ := caused
    trivial
  | cancel now target =>
    obtain ⟨-, rfl | rfl⟩ := caused <;> trivial
  | release target =>
    obtain ⟨-, rfl⟩ := caused
    trivial

variable [LinearOrder ι]

/-- An operation that brings what is of the given kinds leaves a job that holds nothing else. -/
theorem Store.sourced_step {store : Store ι δ ο ε} {id : ι}
    (sourced : (store.view id).Sourced data output error) (options : QueueOptions)
    (op : Op ι δ ο ε) (brings : op.Brings data output error id) :
    ((store.step options op).view id).Sourced data output error :=
  store.step_preserves options op id (JobView.Sourced data output error)
    (fun _ event before caused _ =>
      before.apply options id event (Op.brings_of_causes brings caused)) sourced

/-- A pop hands out the data a job holds. -/
theorem Store.sourced_handedOut {store : Store ι δ ο ε} (options : QueueOptions)
    (op : Op ι δ ο ε) {job : BorrowedJob ι δ} (handed : job ∈ store.handedOut options op)
    (sourced : (store.view job.job.id).Sourced data output error) : data job.job.data := by
  obtain ⟨now, popId, batchSize, first, rest, -, popped, -, issued⟩ :=
    store.handedOut_lease options op handed
  have before : (Transition.run (JobView.apply options job.job.id) (store.view job.job.id)
      first).Sourced data output error := by
    refine Transition.run_invariant (JobView.Sourced data output error) ?_ _ first sourced
      (Transition.along_of_forall _ first fun event member =>
        popped event (List.mem_append_left _ member))
    intro view event holds pops
    refine holds.apply options job.job.id event ?_
    cases event <;> trivial
  simp only [JobView.handed] at issued
  split at issued
  · simp at issued
  · next stored held =>
    rw [List.mem_singleton.mp issued]
    exact before.data stored held

/-- The output that `get_job_state` shows is the stored result. -/
theorem Store.result_of_succeeded {store : Store ι δ ο ε} {id : ι} {held : ο}
    (shown : store.getJobState id = some (.succeeded held)) : store.jobResult id = some held := by
  unfold Store.getJobState at shown
  dsimp only at shown
  split at shown
  · cases shown
  · split at shown
    · split at shown
      · next stored =>
        have same := JobState.succeeded.inj (Option.some.inj shown)
        rw [stored, same]
      · cases shown
    · split at shown
      · cases shown
      · split at shown <;> cases shown

/-- The error that `get_job_state` shows is the newest record. -/
theorem Store.newest_of_shown {store : Store ι δ ο ε} {id : ι} {record : JobErrorRecord ε}
    (shown : store.getJobState id = some (.failed (some record)) ∨
      ∃ until_, store.getJobState id = some (.retrying until_ (some record))) :
    record ∈ store.jobErrors id := by
  have head : (store.jobErrors id).head? = some record := by
    cases shown with
    | inl failed =>
      unfold Store.getJobState at failed
      dsimp only at failed
      split at failed
      · cases failed
      · split at failed
        · split at failed
          · cases failed
          · exact JobState.failed.inj (Option.some.inj failed)
        · split at failed
          · cases failed
          · split at failed <;> cases failed
    | inr retries =>
      obtain ⟨until_, retries⟩ := retries
      unfold Store.getJobState at retries
      dsimp only at retries
      split at retries
      · cases retries
      · split at retries
        · split at retries <;> cases retries
        · split at retries
          · cases retries
          · split at retries
            · cases retries
            · exact (JobState.retrying.inj (Option.some.inj retries)).2
            · cases retries
  exact List.mem_of_mem_head? head

end OpenEngine.Queue
