import OpenEngine.Queue.Exclusive

/-!
# No job is lost or duplicated

Runs of pushes, replacements, pops, completions under their lease, lease expiry and both prunes
keep every known id in exactly one container and every other id in none. The invariant is a
property of one job's view, so it is checked event by event; its lease clause is what lets a
completion find its job in the active hash.
-/

namespace OpenEngine.Queue

variable {ι δ ο ε : Type}

namespace JobView

/-- Entries of the job over all five containers. -/
def places (view : JobView ι δ ο ε) : Nat := view.live + view.success + view.failed

/-- The job is in exactly one container while it is known, and in none otherwise. -/
structure Conserved (view : JobView ι δ ο ε) : Prop where
  /-- Its live entry and its lease are the only ones. -/
  exclusive : view.Exclusive
  /-- A known job has one entry. -/
  known : view.deduped → view.places = 1
  /-- An unknown job has none. -/
  unknown : ¬view.deduped → view.places = 0
  /-- The data is stored exactly while the job is known. -/
  stored : view.data.isSome ↔ view.deduped
  /-- No cancellation is requested. -/
  uncancelled : ¬view.cancelling

variable {view : JobView ι δ ο ε}

/-- A job has at most one entry. -/
theorem Conserved.places_le (conserved : view.Conserved) : view.places ≤ 1 := by
  by_cases known : view.deduped
  · exact (conserved.known known).le
  · exact (conserved.unknown known).le.trans (Nat.zero_le 1)

/-- A known job that keeps its entries, its data and its dedupe entry stays conserved. -/
theorem Conserved.move (conserved : view.Conserved) {moved : JobView ι δ ο ε}
    (exclusive : moved.Exclusive) (known : view.deduped) (still : moved.deduped)
    (places : moved.places = view.places) (data : moved.data.isSome)
    (uncancelled : ¬moved.cancelling) : moved.Conserved :=
  ⟨exclusive, fun _ => places.trans (conserved.known known), fun unknown => absurd still unknown,
    ⟨fun _ => still, fun _ => data⟩, uncancelled⟩

/-- A live job is known and its one entry is the live one. -/
theorem Conserved.live_cases (conserved : view.Conserved) (present : 0 < view.live) :
    view.deduped ∧ view.data.isSome ∧ view.live = 1 ∧ view.success = 0 ∧ view.failed = 0 := by
  have known := conserved.exclusive.known present
  have one := conserved.known known
  unfold places at one
  exact ⟨known, conserved.stored.mpr known, by omega, by omega, by omega⟩

/-- A finished job has no live entry, so the prune scripts may delete it. -/
theorem Conserved.finished_cases (conserved : view.Conserved)
    (finished : 0 < view.success + view.failed) :
    view.live = 0 ∧ view.delayed = none ∧ view.isLive = false := by
  have bound := conserved.places_le
  unfold places at bound
  have dead : view.live = 0 := by omega
  have idle := idle_of_live dead
  have unlisted : view.pending = 0 := by
    unfold live at dead
    omega
  exact ⟨dead, undelayed_of_live dead, by simp [isLive, idle, unlisted]⟩

variable [DecidableEq ι]

/-- A completion under a live lease moves the job's entry out of active. -/
theorem places_complete (exclusive : view.Exclusive) (options : QueueOptions) (now : Nat)
    (job : BorrowedJob ι δ) (issued : job.leaseToken ∈ view.leases) (result : JobResult ο ε) :
    (view.complete options now job result).places = view.places := by
  have active := (exclusive.held _ issued).1
  obtain ⟨-, -, empty⟩ := exclusive.endLease issued
  have undelayed : view.delayed.isSome.toNat = 0 := by omega
  cases result using JobResult.cases with
  | ok output =>
    simp only [places, live, JobView.complete, JobView.endLease, active, Option.isSome_none,
      Bool.toNat_false, Bool.toNat_true]
    omega
  | retry error delay position =>
    simp only [places, live, JobView.complete, addError, JobView.endLease, active,
      Option.isSome_none, Option.isSome_some, Bool.toNat_false, Bool.toNat_true]
    omega
  | nack error position =>
    simp only [places, live, JobView.complete, addError, JobView.endLease, active,
      Option.isSome_none, Bool.toNat_false, Bool.toNat_true]
    omega
  | fail error =>
    simp only [places, live, JobView.complete, addError, JobView.endLease, active,
      Option.isSome_none, Bool.toNat_false, Bool.toNat_true]
    omega
  | defer delay position =>
    simp only [places, live, JobView.complete, JobView.endLease, active, Option.isSome_none,
      Option.isSome_some, Bool.toNat_false, Bool.toNat_true]
    omega

/-- A completion keeps the job's data and its requested cancellation. -/
theorem complete_data (options : QueueOptions) (now : Nat) (job : BorrowedJob ι δ)
    (result : JobResult ο ε) :
    (view.complete options now job result).data = view.data ∧
      (view.complete options now job result).cancelling = view.cancelling := by
  cases result using JobResult.cases with
  | ok output => exact ⟨rfl, rfl⟩
  | retry error delay position => exact ⟨rfl, rfl⟩
  | nack error position => exact ⟨rfl, rfl⟩
  | fail error => exact ⟨rfl, rfl⟩
  | defer delay position => exact ⟨rfl, rfl⟩

end JobView

/-- Only the cancel script requests a cancellation. -/
theorem JobView.uncancelled_apply [DecidableEq ι] {view : JobView ι δ ο ε}
    {options : QueueOptions} {id : ι} (event : JobEvent ι δ ο ε) (other : event ≠ .cancelLater)
    (uncancelled : ¬view.cancelling) : ¬(JobView.apply options id view event).cancelling := by
  cases event with
  | push now job =>
    simp only [JobView.apply, JobView.push]
    split <;> exact uncancelled
  | sweep now =>
    simp only [JobView.apply]
    split <;> exact not_false
  | complete now job result =>
    rw [JobView.apply, (view.complete_data options now job result).2]
    exact uncancelled
  | pruneSuccess kept =>
    simp only [JobView.apply, settleSucceeded]
    split <;> exact uncancelled
  | pruneFailed kept =>
    simp only [JobView.apply, settleFailed]
    split <;> exact uncancelled
  | cancelLater => exact absurd rfl other
  | _ => exact uncancelled

/-- The events of runs without cancellation and reopening. -/
def JobEvent.isCore : JobEvent ι δ ο ε → Bool
  | .cancelNow _ | .cancelLater | .release => false
  | _ => true

/-- In permanent mode only a prune makes a core event drop a job from the dedupe set. -/
theorem JobView.deduped_apply [DecidableEq ι] {view : JobView ι δ ο ε} {options : QueueOptions}
    (permanent : options.idempotencyMode = .permanent) (id : ι) (event : JobEvent ι δ ο ε)
    (core : event.isCore) (notSuccess : ∀ kept, event ≠ .pruneSuccess kept)
    (notFailed : ∀ kept, event ≠ .pruneFailed kept) (known : view.deduped) :
    (JobView.apply options id view event).deduped := by
  have retained : view.StaysDeduped options := ⟨by simp [permanent], known⟩
  cases event with
  | push now job =>
    simp only [JobView.apply, JobView.push]
    split <;> trivial
  | sweep now =>
    simp only [JobView.apply]
    split <;> exact known
  | complete now job result =>
    cases result using JobResult.cases with
    | ok output => exact retained
    | retry error delay position => exact known
    | nack error position => exact known
    | fail error => exact retained
    | defer delay position => exact known
  | pruneSuccess kept => exact absurd rfl (notSuccess kept)
  | pruneFailed kept => exact absurd rfl (notFailed kept)
  | release => contradiction
  | _ => exact known

/-- Every core event keeps the job conserved. -/
theorem JobView.Conserved.apply [DecidableEq ι] {view : JobView ι δ ο ε}
    (conserved : view.Conserved) {options : QueueOptions}
    (permanent : options.idempotencyMode = .permanent) (someSuccess : 0 < options.maxSuccess)
    (someFailed : 0 < options.maxFailed) (id : ι) (event : JobEvent ι δ ο ε)
    (core : event.isCore) (enabled : event.Enabled options view) :
    (JobView.apply options id view event).Conserved := by
  have exclusive (safe : event.Safe view) := conserved.exclusive.apply options id event enabled safe
  cases event with
  | push now job =>
    have empty := conserved.unknown enabled
    unfold places live at empty
    have data : (view.push now job).data.isSome := by
      unfold JobView.push
      dsimp only
      split <;> rfl
    have known : (view.push now job).deduped := by
      unfold JobView.push
      dsimp only
      split <;> trivial
    have uncancelled : ¬(view.push now job).cancelling := by
      unfold JobView.push
      dsimp only
      split <;> exact conserved.uncancelled
    refine ⟨exclusive trivial, fun _ => ?_, fun unknown => absurd known unknown,
      ⟨fun _ => known, fun _ => data⟩, uncancelled⟩
    simp only [JobView.apply]
    unfold JobView.push
    dsimp only
    split
    · simp only [places, live, Option.isSome_some, Bool.toNat_true]
      omega
    · simp only [places, live]
      omega
  | replace data =>
    have known := conserved.stored.mp enabled.1
    exact conserved.move (exclusive trivial) known known rfl rfl conserved.uncancelled
  | requeue =>
    obtain ⟨known, data, one, noSuccess, noFailed⟩ :=
      conserved.live_cases (live_of_active enabled.1)
    refine conserved.move (exclusive trivial) known known ?_ data conserved.uncancelled
    simp only [places, live, JobView.apply, enabled.1, Option.isSome_none, Bool.toNat_true,
      Bool.toNat_false]
    omega
  | sweep now => exact absurd enabled.1 conserved.uncancelled
  | promote =>
    have delayed : view.delayed.isSome := enabled
    obtain ⟨known, data, one, noSuccess, noFailed⟩ := conserved.live_cases (by
      simp only [live, delayed, Bool.toNat_true]
      omega)
    refine conserved.move (exclusive trivial) known known ?_ data conserved.uncancelled
    simp only [places, live, JobView.apply, delayed, Option.isSome_none, Bool.toNat_true,
      Bool.toNat_false]
  | lease now popId =>
    have waiting : 0 < view.pending := enabled.1
    have idle := conserved.exclusive.idle (by omega)
    obtain ⟨known, data, one, noSuccess, noFailed⟩ := conserved.live_cases (by
      unfold live
      omega)
    refine conserved.move (exclusive trivial) known known ?_ data conserved.uncancelled
    simp only [places, live, JobView.apply, JobView.lease, idle, Option.isSome_none,
      Option.isSome_some, Bool.toNat_true, Bool.toNat_false]
    omega
  | drop =>
    have waiting : 0 < view.pending := enabled.1
    have data := (conserved.live_cases (by unfold live; omega)).2.1
    rw [enabled.2] at data
    contradiction
  | complete now job result =>
    have active := (conserved.exclusive.held _ enabled).1
    obtain ⟨known, data, -⟩ := conserved.live_cases (live_of_active active)
    obtain ⟨sameData, sameCancelling⟩ := view.complete_data options now job result
    refine conserved.move (exclusive trivial) known ?_
      (places_complete conserved.exclusive options now job enabled result) ?_ ?_
    · exact deduped_apply permanent id (.complete now job result) rfl (by simp) (by simp) known
    · simpa only [JobView.apply, sameData] using data
    · simpa only [JobView.apply, sameCancelling] using conserved.uncancelled
  | expire token =>
    exact ⟨exclusive trivial, conserved.known, conserved.unknown, conserved.stored,
      conserved.uncancelled⟩
  | pruneSuccess kept =>
    have fewer : kept < view.success := enabled.2 someSuccess
    have bound := conserved.places_le
    unfold places at bound
    obtain ⟨dead, undelayed, unseen⟩ := conserved.finished_cases (by omega)
    have pruned := exclusive undelayed
    simp only [JobView.apply, settleSucceeded, unseen, Bool.false_eq_true, ↓reduceIte] at pruned ⊢
    refine ⟨pruned, by simp [JobView.forget], fun _ => ?_, by simp [JobView.forget],
      conserved.uncancelled⟩
    simp only [places, live, JobView.forget] at dead ⊢
    omega
  | pruneFailed kept =>
    have fewer : kept < view.failed := enabled.2 someFailed
    have bound := conserved.places_le
    unfold places at bound
    obtain ⟨dead, undelayed, unseen⟩ := conserved.finished_cases (by omega)
    have pruned := exclusive undelayed
    simp only [JobView.apply, settleFailed, unseen, Bool.false_eq_true, ↓reduceIte] at pruned ⊢
    refine ⟨pruned, by simp [JobView.forget], fun _ => ?_, by simp [JobView.forget],
      conserved.uncancelled⟩
    simp only [places, live, JobView.forget] at dead ⊢
    omega
  | cancelNow now => contradiction
  | cancelLater => contradiction
  | release => contradiction

variable [LinearOrder ι]

/-- Every job of the store is conserved. -/
def Store.Conserved (store : Store ι δ ο ε) : Prop := ∀ id, (store.view id).Conserved

/-- The empty store is conserved. -/
theorem Store.conserved_empty : (Store.empty : Store ι δ ο ε).Conserved := by
  intro id
  refine ⟨Store.exclusive_empty id, fun known => ?_, fun _ => rfl, ?_, ?_⟩ <;>
    simp_all [Store.view, Store.empty]

omit [LinearOrder ι] in
/-- A core operation causes core events only. -/
theorem Op.isCore_of_causes {id : ι} {event : JobEvent ι δ ο ε} {op : Op ι δ ο ε}
    (core : op.isCore) (caused : op.Causes id event) : event.isCore := by
  cases op <;> cases event <;> simp_all [Op.Causes, Op.isCore, JobEvent.isCore, JobEvent.OfPop]

/-- Entries of an id over pending, delayed, active, success and failed. -/
def Store.places (store : Store ι δ ο ε) (id : ι) : Nat :=
  store.pending.count id + (if id ∈ store.delayed then 1 else 0) +
    (if id ∈ store.active then 1 else 0) + store.success.count id + store.failed.count id

/-- The entries of an id are those of its view. -/
theorem Store.places_view (store : Store ι δ ο ε) (id : ι) :
    (store.view id).places = store.places id := by
  have counted (present : Prop) [Decidable present] :
      (decide present).toNat = if present then 1 else 0 := by
    by_cases holds : present <;> simp [holds]
  simp only [JobView.places, JobView.live, Store.places, Store.view, isSome_lookup, counted]

section Runs

variable {options : QueueOptions} (permanent : options.idempotencyMode = .permanent)
  (someSuccess : 0 < options.maxSuccess) (someFailed : 0 < options.maxFailed)

include permanent someSuccess someFailed

/-- A core operation keeps the store conserved. -/
theorem Store.Conserved.step {store : Store ι δ ο ε} (conserved : store.Conserved)
    (op : Op ι δ ο ε) (core : op.isCore) : (store.step options op).Conserved := by
  intro id
  refine store.step_preserves options op id JobView.Conserved ?_ (conserved id)
  intro view event before caused enabled
  exact before.apply permanent someSuccess someFailed id event (op.isCore_of_causes core caused)
    enabled

/-- Every store a core run reaches is conserved. -/
theorem Store.conserved_run (ops : List (Op ι δ ο ε)) (core : ∀ op ∈ ops, op.isCore) :
    (Transition.run (Store.step options) (Store.empty : Store ι δ ο ε) ops).Conserved :=
  Transition.run_invariant Store.Conserved
    (fun _ op conserved allowed => conserved.step permanent someSuccess someFailed op allowed)
    _ ops Store.conserved_empty (Transition.along_of_forall _ ops core)

omit someSuccess someFailed in
/-- In permanent mode a core operation drops an id from the dedupe set only by pruning an entry
past the bound of a finished list. -/
theorem Store.dedupe_step (store : Store ι δ ο ε) (op : Op ι δ ο ε) (core : op.isCore) (id : ι)
    (known : id ∈ store.dedupe) (dropped : id ∉ (store.step options op).dedupe) :
    op = .postSuccess ∧ id ∈ store.success.drop options.maxSuccess ∨
      op = .postFail ∧ id ∈ store.failed.drop options.maxFailed := by
  by_cases success : op = .postSuccess
  · subst success
    have unseen := store.view_postSuccess options id
    by_cases trimmed : id ∈ store.success.drop options.maxSuccess
    · exact .inl ⟨rfl, trimmed⟩
    · rw [if_neg trimmed] at unseen
      have same : id ∈ (store.step options .postSuccess).dedupe ↔ id ∈ store.dedupe :=
        iff_of_eq (congrArg JobView.deduped unseen)
      exact absurd (same.mpr known) dropped
  by_cases failed : op = .postFail
  · subst failed
    have unseen := store.view_postFail options id
    by_cases trimmed : id ∈ store.failed.drop options.maxFailed
    · exact .inr ⟨rfl, trimmed⟩
    · rw [if_neg trimmed] at unseen
      have same : id ∈ (store.step options .postFail).dedupe ↔ id ∈ store.dedupe :=
        iff_of_eq (congrArg JobView.deduped unseen)
      exact absurd (same.mpr known) dropped
  refine absurd (store.step_preserves options op id JobView.deduped ?_ known) dropped
  intro view event before caused _
  refine JobView.deduped_apply permanent id event (op.isCore_of_causes core caused) ?_ ?_ before
  · rintro kept rfl
    cases op <;> simp_all [Op.Causes, JobEvent.OfPop]
  · rintro kept rfl
    cases op <;> simp_all [Op.Causes, JobEvent.OfPop]

/-- At every state of a core run a known id has its data and exactly one entry over the five
containers, an unknown id has neither, and a known id becomes unknown only when a prune finds its
entry past the bound of its list. -/
theorem Store.conservation (ops : List (Op ι δ ο ε)) (core : ∀ op ∈ ops, op.isCore) (id : ι) :
    let store := Transition.run (Store.step options) (Store.empty : Store ι δ ο ε) ops
    (id ∈ store.dedupe → (store.jobData id).isSome ∧ store.places id = 1) ∧
    (id ∉ store.dedupe → store.jobData id = none ∧ store.places id = 0) ∧
    ∀ op : Op ι δ ο ε, op.isCore → id ∈ store.dedupe → id ∉ (store.step options op).dedupe →
      op = .postSuccess ∧ id ∈ store.success.drop options.maxSuccess ∨
        op = .postFail ∧ id ∈ store.failed.drop options.maxFailed := by
  intro store
  have conserved : (store.view id).Conserved :=
    Store.conserved_run permanent someSuccess someFailed ops core id
  refine ⟨fun known => ⟨conserved.stored.mpr known, ?_⟩, fun unknown => ⟨?_, ?_⟩, ?_⟩
  · rw [← store.places_view id]
    exact conserved.known known
  · have absent := mt conserved.stored.mp unknown
    simpa [Store.view] using absent
  · rw [← store.places_view id]
    exact conserved.unknown unknown
  · intro op allowed known dropped
    exact store.dedupe_step permanent op allowed id known dropped

end Runs

/-- The job with data `"tx"`, as the pop of a given clock and pop id hands it out. -/
def borrowedAt (id now attempts : Nat) (popId : String) : BorrowedJob Nat String where
  job :=
    { id, data := "tx", attempts, createdAt := 0, processedAt := some now, finishedAt := none }
  leaseToken := { now, jobId := id, attempts, popId := some popId }

/-- A run in which a lease expires, the job is requeued, deferred and left waiting. -/
def expireAndDefer : List (Op Nat String Nat String) :=
  [.push 0 { data := "tx", id := 7 },
    .pop 0 "a" 1,
    .expireLease 7 (borrowedAt 7 0 1 "a").leaseToken,
    .pop 40 "b" 1,
    .complete 41 (borrowedAt 7 40 3 "b") (.error (.defer (.fromSecs 5) .last)),
    .postSuccess]

/-- The deferred job is known, has its data and one entry. -/
theorem Store.conservation_expireAndDefer :
    let store := Transition.run (Store.step {}) Store.empty expireAndDefer
    7 ∈ store.dedupe ∧ 7 ∈ store.delayed ∧ (store.jobData 7).isSome ∧ store.places 7 = 1 := by
  intro store
  have known : 7 ∈ store.dedupe := by decide +kernel
  have conserved := @Store.conservation Nat String Nat String _ {} rfl (by decide) (by decide)
    expireAndDefer (by decide) 7
  have waiting : 7 ∈ store.delayed := by decide +kernel
  exact ⟨known, waiting, conserved.1 known⟩

end OpenEngine.Queue
