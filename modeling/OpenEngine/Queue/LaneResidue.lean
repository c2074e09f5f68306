import OpenEngine.Queue.LaneInvariant
import OpenEngine.Queue.Conservation

/-!
# What a finished job leaves behind

A finished job of the multilane queue keeps its data, metadata, errors, result and dedupe entry for
good: the prunes take a reply other than `nil` for a live job and no reply is `nil`. A push of an id
that left the dedupe set writes over that residue and clears none of it, where the single-lane push
starts clean. So a prune frees what it trims only if it trims live jobs alone, and an id starts
clean in a lane only if it was never pushed before.
-/

namespace OpenEngine.Queue

variable {ι δ ο ε : Type}

/-- What a push should leave of a job: the job as `get_job` reports a new one, and nothing stored by
an earlier job of the same id. -/
structure StartsClean (job : Option (Job ι δ)) (info : JobMeta ι)
    (errors : List (JobErrorRecord ε)) (result : Option ο) : Prop where
  /-- `get_job` reports a job that was never popped. -/
  reported : ∃ found, job = some found ∧ found.attempts = 0 ∧ found.processedAt = none ∧
    found.finishedAt = none
  /-- No stored result. -/
  noResult : result = none
  /-- No error records. -/
  noErrors : errors = []
  /-- No hold marker. -/
  unheld : info.retryAt = none ∧ info.deferredUntil = none
  /-- No lease token. -/
  unleased : info.leaseToken = none

/-- The job is pending, delayed or active in the lane its metadata names. -/
def MultilaneStore.InLane (store : MultilaneStore ι δ ο ε) (id : ι) : Prop :=
  ∃ laneId ∈ (store.jobMeta id).laneId,
    id ∈ (store.lane laneId).pending ∨ id ∈ (store.lane laneId).delayed ∨
      id ∈ (store.lane laneId).active

/-- Nothing a prune deletes is left of an id. -/
def MultilaneStore.NoRecord (store : MultilaneStore ι δ ο ε) (id : ι) : Prop :=
  store.jobData id = none ∧ store.jobMeta id = {} ∧ store.jobErrors id = [] ∧ id ∉ store.dedupe

/-- A prune that leaves the data of every id of a tail frees the idle ids of the tail exactly if
there are none. -/
theorem MultilaneStore.frees_iff_inLane {tail : List ι} {store after : MultilaneStore ι δ ο ε}
    {extra : ι → Prop} (stored : ∀ id ∈ tail, (after.jobData id).isSome) :
    (∀ id ∈ tail, ¬store.InLane id → after.NoRecord id ∧ extra id) ↔
      ∀ id ∈ tail, store.InLane id := by
  constructor
  · intro frees id member
    by_contra idle
    have kept := stored id member
    rw [(frees id member idle).1.1] at kept
    contradiction
  · intro inLane id member idle
    exact absurd (inLane id member) idle

variable [LinearOrder ι]

/-- The job starts clean in the single-lane queue. -/
def Store.StartsClean (store : Store ι δ ο ε) (id : ι) : Prop :=
  Queue.StartsClean (store.getJob id) (store.jobMeta id) (store.jobErrors id) (store.jobResult id)

/-- The job starts clean in the multilane queue. -/
def MultilaneStore.StartsClean (store : MultilaneStore ι δ ο ε) (id : ι) : Prop :=
  Queue.StartsClean (store.getJob id) (store.jobMeta id) (store.jobErrors id) (store.jobResult id)

/-- A prune leaves no record of an id past the bound that is not in its lane, and the success prune
no result either. -/
def MultilaneStore.FreesTrimmed (options : QueueOptions) (store : MultilaneStore ι δ ο ε)
    (op : LaneOp ι δ ο ε) : Prop :=
  match op with
  | .postSuccess => ∀ id ∈ store.success.drop options.maxSuccess, ¬store.InLane id →
      (store.step options op).NoRecord id ∧ (store.step options op).jobResult id = none
  | .postFail => ∀ id ∈ store.failed.drop options.maxFailed, ¬store.InLane id →
      (store.step options op).NoRecord id
  | _ => True

/-- Every id past the bound is in its lane again. -/
def MultilaneStore.TailInLane (options : QueueOptions) (store : MultilaneStore ι δ ο ε) :
    LaneOp ι δ ο ε → Prop
  | .postSuccess => ∀ id ∈ store.success.drop options.maxSuccess, store.InLane id
  | .postFail => ∀ id ∈ store.failed.drop options.maxFailed, store.InLane id
  | _ => True

variable {store : MultilaneStore ι δ ο ε} {id : ι}

/-- A finished job of a settled queue has its data. -/
theorem MultilaneStore.Settled.stored_of_finished (settled : store.Settled id)
    (finished : id ∈ store.success ∨ id ∈ store.failed) : (store.jobData id).isSome := by
  obtain ⟨laneId, named⟩ := settled.lane_of_finished finished
  exact (settled.guarded laneId named).stored

/-- In every reachable state a prune frees what it trims exactly if every id past the bound is in
its lane again. -/
theorem MultilaneStore.prune_frees_iff (options : QueueOptions) (ops : List (LaneOp ι δ ο ε))
    (op : LaneOp ι δ ο ε) :
    let store := Transition.run (MultilaneStore.step options) MultilaneStore.empty ops
    store.FreesTrimmed options op ↔ store.TailInLane options op := by
  intro store
  have settled : ∀ id, store.Settled id := MultilaneStore.settled_run options ops
  clear_value store
  cases op with
  | postSuccess =>
    refine MultilaneStore.frees_iff_inLane fun id member => ?_
    have stored := (settled id).stored_of_finished (.inl (List.mem_of_mem_drop member))
    rcases MultilaneStore.postSuccess_eq settled options with same | trimmed
    · rw [MultilaneStore.step, same]
      exact stored
    · rw [MultilaneStore.step, trimmed]
      exact stored
  | postFail =>
    have frees : (∀ id ∈ store.failed.drop options.maxFailed, ¬store.InLane id →
        (store.step options .postFail).NoRecord id ∧ True) ↔
        ∀ id ∈ store.failed.drop options.maxFailed, store.InLane id :=
      MultilaneStore.frees_iff_inLane fun id member => by
        have stored := (settled id).stored_of_finished (.inr (List.mem_of_mem_drop member))
        rcases MultilaneStore.postFail_eq settled options with same | trimmed
        · rw [MultilaneStore.step, same]
          exact stored
        · rw [MultilaneStore.step, trimmed]
          exact stored
    simpa [FreesTrimmed, TailInLane] using frees
  | _ => exact Iff.rfl

/-- A job of a lane, as the pop of a given clock hands it out. -/
def borrowedFromLane (id now attempts : Nat) : BorrowedJob Nat String where
  job :=
    { id, data := "tx", attempts, createdAt := 0, processedAt := some now, finishedAt := none }
  leaseToken := { now, jobId := id, attempts, popId := none }

/-- Jobs 7 and 8 of one lane succeed. -/
def twoSucceed : List (LaneOp Nat String Nat String) :=
  [.push 0 "a" { data := "tx", id := 7 },
    .push 0 "a" { data := "tx", id := 8 },
    .pop 1 2,
    .complete 2 (borrowedFromLane 8 1 1) (.ok 5),
    .complete 3 (borrowedFromLane 7 1 1) (.ok 6)]

/-- A bound of one trims job 8, which is in no lane, and its data stays. -/
theorem MultilaneStore.prune_frees_nothing :
    let options : QueueOptions := { maxSuccess := 1 }
    let store := Transition.run (MultilaneStore.step options) MultilaneStore.empty twoSucceed
    store.success = [7, 8] ∧ (store.step options .postSuccess).jobData 8 = some "tx" ∧
      ¬store.FreesTrimmed options .postSuccess := by
  intro options store
  have finished : store.success = [7, 8] := by decide +kernel
  have lane : (store.jobMeta 8).laneId = some "a" := by decide +kernel
  have absent : ¬(8 ∈ (store.lane "a").pending ∨ 8 ∈ (store.lane "a").delayed ∨
      8 ∈ (store.lane "a").active) := by decide +kernel
  have stays : (store.step options .postSuccess).jobData 8 = some "tx" := by decide +kernel
  clear_value store
  have idle : ¬store.InLane 8 := by
    rintro ⟨laneId, named, present⟩
    rw [lane] at named
    exact absent (Option.some.inj named ▸ present)
  refine ⟨finished, stays, fun frees => ?_⟩
  have trimmed : 8 ∈ store.success.drop options.maxSuccess := by
    rw [finished]
    simp [options]
  have gone := (frees 8 trimmed idle).1.1
  rw [stays] at gone
  exact Option.some_ne_none _ gone

/-- A push of an id outside the dedupe set of the single-lane queue starts clean. -/
theorem Store.startsClean_push (store : Store ι δ ο ε) (now : Nat) (job : JobOptions ι δ)
    (fresh : job.id ∉ store.dedupe) :
    (store.pushWithOutcome now job).2.StartsClean job.id := by
  unfold Store.StartsClean Store.pushWithOutcome
  dsimp only
  rw [if_neg fresh]
  split <;> constructor <;> simp [Store.getJob, Store.setMeta, jobOf, parseU32]

/-- A push to a lane of an id outside the dedupe set of a settled queue starts clean exactly if the
id was never pushed. -/
theorem MultilaneStore.startsClean_push_iff (now : Nat) (laneId : String) (job : JobOptions ι δ)
    (settled : store.Settled job.id) (fresh : job.id ∉ store.dedupe) :
    (store.pushToLane now laneId job).2.StartsClean job.id ↔
      (store.jobMeta job.id).laneId = none := by
  have view := store.laneView_push_home now laneId job fresh
  constructor
  · intro clean
    cases earlier : (store.jobMeta job.id).laneId with
    | none => rfl
    | some earlierLane =>
      have stamped := (settled.guarded earlierLane earlier).popped (.inr fresh)
      have kept : ((store.pushToLane now laneId job).2.jobMeta job.id).processedAt =
          (store.jobMeta job.id).processedAt := by
        have info := congrArg (·.info.processedAt) view
        dsimp only at info
        split at info <;> exact info
      obtain ⟨found, reported, -, unpopped, -⟩ := clean.reported
      unfold getJob at reported
      obtain ⟨data, -, rfl⟩ := Option.map_eq_some_iff.mp reported
      rw [show (store.laneView earlierLane job.id).info = store.jobMeta job.id from rfl, ← kept,
        show ((store.pushToLane now laneId job).2.jobMeta job.id).processedAt = none from unpopped]
        at stamped
      contradiction
  · intro never
    have blank := settled.blank never laneId
    have info : store.jobMeta job.id = {} := congrArg JobView.info blank
    have errors : store.jobErrors job.id = [] := congrArg JobView.errors blank
    have result : store.jobResult job.id = none := congrArg JobView.result blank
    unfold MultilaneStore.StartsClean pushToLane
    dsimp only
    rw [if_neg fresh]
    split <;> constructor <;> simp [getJob, jobOf, parseU32, info, errors, result]

/-- In every reachable state a push of an id outside the dedupe set starts clean in the single-lane
queue, and in the multilane queue exactly if no earlier job of the id named a lane. -/
theorem MultilaneStore.starts_clean_iff (options : QueueOptions) :
    (∀ (ops : List (Op ι δ ο ε)) now (job : JobOptions ι δ),
      let store := Transition.run (Store.step options) Store.empty ops
      job.id ∉ store.dedupe → (store.pushWithOutcome now job).2.StartsClean job.id) ∧
    ∀ (ops : List (LaneOp ι δ ο ε)) now laneId (job : JobOptions ι δ),
      let store := Transition.run (MultilaneStore.step options) MultilaneStore.empty ops
      job.id ∉ store.dedupe →
        ((store.pushToLane now laneId job).2.StartsClean job.id ↔
          (store.jobMeta job.id).laneId = none) := by
  constructor
  · intro ops now job store fresh
    exact store.startsClean_push now job fresh
  · intro ops now laneId job store fresh
    exact MultilaneStore.startsClean_push_iff now laneId job
      (MultilaneStore.settled_run options ops job.id) fresh

/-- Job 7 succeeds and leaves the dedupe set. -/
def succeedOnce : List (LaneOp Nat String Nat String) :=
  [.push 0 "a" { data := "tx", id := 7 },
    .pop 1 1,
    .complete 2 (borrowedFromLane 7 1 1) (.ok 5)]

/-- In the empty queues job 7 starts clean. -/
theorem MultilaneStore.starts_clean_first :
    ((Store.empty : Store Nat String Nat String).pushWithOutcome 0
        { data := "tx", id := 7 }).2.StartsClean 7 ∧
      ((MultilaneStore.empty : MultilaneStore Nat String Nat String).pushToLane 0 "a"
        { data := "tx", id := 7 }).2.StartsClean 7 := by
  have both := @MultilaneStore.starts_clean_iff Nat String Nat String _ {}
  exact ⟨both.1 [] 0 { data := "tx", id := 7 } (Finset.notMem_empty 7),
    (both.2 [] 0 "a" { data := "tx", id := 7 } (Finset.notMem_empty 7)).mpr rfl⟩

/-- Pushed again to its lane, job 7 keeps the pop, the end and the result of its first run. -/
theorem MultilaneStore.reused_id_keeps_result :
    let options : QueueOptions := { idempotencyMode := .active }
    let store := Transition.run (MultilaneStore.step options) MultilaneStore.empty succeedOnce
    let pushed := (store.pushToLane 3 "a" { data := "tx", id := 7 }).2
    7 ∉ store.dedupe ∧ (pushed.jobMeta 7).finishedAt = some 2 ∧ pushed.jobResult 7 = some 5 ∧
      ¬pushed.StartsClean 7 := by
  intro options store pushed
  have released : 7 ∉ store.dedupe := by decide +kernel
  have finished : (pushed.jobMeta 7).finishedAt = some 2 := by decide +kernel
  have result : pushed.jobResult 7 = some 5 := by decide +kernel
  clear_value pushed
  refine ⟨released, finished, result, fun clean => ?_⟩
  have gone := clean.noResult
  rw [result] at gone
  exact Option.some_ne_none _ gone

end OpenEngine.Queue
