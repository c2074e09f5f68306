import OpenEngine.Api.Resubmission
import OpenEngine.Queue.Retention

/-!
# What resubmissions do to a slot

A request decides on reads that other requests and the workers may have overtaken by the time it
acts on them. Two of its commands act without looking again: the release of the dedupe entry, and
the swap of the waiting transaction, which re-checks the job's status but not its data. As long as
every release still finds the slot failed, each failure is reopened once; as long as every swap
still finds the transaction its request compared against, no fee bump is lost.
-/

namespace OpenEngine.Api

open OpenEngine.Core Queue

variable {κ ι ο ε : Type} [LinearOrder ι]

/-- The operation a request's next command is, when it writes. -/
def Progress.command (now : Nat) (job : JobOptions ι FrameTransaction) :
    Progress → Option (Op ι FrameTransaction ο ε)
  | .pushing | .repushing => some (.push now job)
  | .releasing => some (.release job.id)
  | .swapping _ => some (.replace job.id job.data)
  | _ => none

/-- The operation an action is, when it writes. -/
def Service.command (requests : κ → JobOptions ι FrameTransaction) (service : Service κ ι ο ε) :
    Action κ ι ο ε → Option (Op ι FrameTransaction ο ε)
  | .request who now => (service.progress who).command now (requests who)
  | .worker op => some op

/-- A request's command acts on the store as its operation does. -/
theorem Progress.step_store (progress : Progress) (options : QueueOptions)
    (store : Store ι FrameTransaction ο ε) (now : Nat) (job : JobOptions ι FrameTransaction) :
    (progress.step store now job).1 =
      ((progress.command now job).map (store.step options)).getD store := by
  cases progress with
  | pushing =>
    simp only [Progress.step, Progress.command, Option.map_some, Option.getD_some, Store.step]
    split <;> simp_all
  | lookingUp =>
    simp only [Progress.step, Progress.command]
    split <;> rfl
  | _ => rfl

variable [DecidableEq κ] {requests : κ → JobOptions ι FrameTransaction} {options : QueueOptions}
  {service : Service κ ι ο ε} {slot : ι}

/-- An action acts on the store as its operation does. -/
theorem Service.step_store (requests : κ → JobOptions ι FrameTransaction)
    (options : QueueOptions) (service : Service κ ι ο ε) (action : Action κ ι ο ε) :
    (service.step requests options action).store =
      ((service.command requests action).map (service.store.step options)).getD
        service.store := by
  cases action with
  | request who now => exact (service.progress who).step_store options service.store now _
  | worker op => rfl

/-- What the workers do between requests: they pop, complete and lose leases, and they prune other
jobs than the slot's. -/
def Service.WorksBeside (options : QueueOptions) (slot : ι) (service : Service κ ι ο ε) :
    Action κ ι ο ε → Prop
  | .worker (.pop _ _ _) | .worker (.complete _ _ _) | .worker (.expireLease _ _) => True
  | .worker .postSuccess => slot ∉ service.store.success.drop options.maxSuccess
  | .worker .postFail => slot ∉ service.store.failed.drop options.maxFailed
  | .worker _ => False
  | .request _ _ => True

omit [DecidableEq κ] in
instance (options : QueueOptions) (slot : ι) (service : Service κ ι ο ε) :
    ∀ action, Decidable (service.WorksBeside options slot action)
  | .worker .postSuccess =>
    inferInstanceAs (Decidable (slot ∉ service.store.success.drop options.maxSuccess))
  | .worker .postFail =>
    inferInstanceAs (Decidable (slot ∉ service.store.failed.drop options.maxFailed))
  | .worker (.pop _ _ _) | .worker (.complete _ _ _) | .worker (.expireLease _ _)
  | .request _ _ => .isTrue trivial
  | .worker (.push _ _) | .worker (.replace _ _) | .worker (.cancel _ _) | .worker (.release _)
  | .worker (.reopen _ _) => .isFalse id

/-- A request for the slot releases its dedupe entry only while the slot reads as failed. -/
def Service.ReleasesFailed (requests : κ → JobOptions ι FrameTransaction) (slot : ι)
    (service : Service κ ι ο ε) : Action κ ι ο ε → Prop
  | .request who _ => (requests who).id = slot → service.progress who = .releasing →
      service.store.readsFailed slot
  | .worker _ => True

omit [DecidableEq κ] in
instance (requests : κ → JobOptions ι FrameTransaction) (slot : ι) (service : Service κ ι ο ε) :
    ∀ action, Decidable (service.ReleasesFailed requests slot action)
  | .request who _ => inferInstanceAs (Decidable ((requests who).id = slot →
      service.progress who = .releasing → service.store.readsFailed slot))
  | .worker _ => .isTrue trivial

/-- The slot's job is exclusive, its record is in step with some outcome, and no cancellation is
requested. -/
structure Sound (view : JobView ι FrameTransaction ο ε) : Prop where
  exclusive : view.Exclusive
  recorded : ∃ latest, view.Retained latest
  uncancelled : ¬view.cancelling

/-- The slot is taken: its job is live or has succeeded. -/
def Taken (view : JobView ι FrameTransaction ο ε) : Prop :=
  view.deduped ∧ (0 < view.live ∨ 0 < view.success)

/-- The operations the slot sees: a request's or a worker's, a release only while the slot reads as
failed, and no prune of the slot. -/
def Reaches (options : QueueOptions) (store : Store ι FrameTransaction ο ε) (slot : ι) :
    Op ι FrameTransaction ο ε → Prop
  | .push _ _ | .replace _ _ | .pop _ _ _ | .complete _ _ _ | .expireLease _ _ => True
  | .release target => target = slot → store.readsFailed slot
  | .postSuccess => slot ∉ store.success.drop options.maxSuccess
  | .postFail => slot ∉ store.failed.drop options.maxFailed
  | .cancel _ _ | .reopen _ _ => False

omit [DecidableEq κ] in
/-- The operation of an action is one the slot sees. -/
theorem Service.reaches_command {action : Action κ ι ο ε}
    (beside : service.WorksBeside options slot action)
    (failed : service.ReleasesFailed requests slot action) {op : Op ι FrameTransaction ο ε}
    (command : service.command requests action = some op) :
    Reaches options service.store slot op := by
  cases action with
  | worker own =>
    obtain rfl : own = op := Option.some.inj command
    cases own <;> trivial
  | request who now =>
    simp only [Service.command] at command
    cases progress : service.progress who with
    | releasing =>
      simp only [progress, Progress.command, Option.some.injEq] at command
      subst command
      exact fun named => failed named progress
    | pushing =>
      simp only [progress, Progress.command, Option.some.injEq] at command
      subst command
      trivial
    | repushing =>
      simp only [progress, Progress.command, Option.some.injEq] at command
      subst command
      trivial
    | swapping existing =>
      simp only [progress, Progress.command, Option.some.injEq] at command
      subst command
      trivial
    | _ => simp [progress, Progress.command] at command

section Slot

variable {store : Store ι FrameTransaction ο ε}

/-- A slot that reads as failed is neither live nor on the success list. -/
theorem Sound.of_readsFailed (sound : Sound (store.view slot)) (failed : store.readsFailed slot) :
    (store.view slot).live = 0 ∧ (store.view slot).success = 0 := by
  obtain ⟨latest, retained⟩ := sound.recorded
  have inStep : (History.mk store (fun _ => latest)).InStep slot := ⟨sound.exclusive, retained⟩
  exact inStep.of_readsFailed failed

/-- An operation the slot sees keeps it sound. -/
theorem Sound.step (sound : Sound (store.view slot))
    (permanent : options.idempotencyMode = .permanent) (op : Op ι FrameTransaction ο ε)
    (reaches : Reaches options store slot op) : Sound ((store.step options op).view slot) := by
  obtain ⟨latest, retained⟩ := sound.recorded
  have inStep : (History.mk store (fun _ => latest)).InStep slot := ⟨sound.exclusive, retained⟩
  by_cases pruned : op = .postSuccess
  · subst pruned
    rw [Store.step, store.view_postSuccess, if_neg reaches]
    exact sound
  have next : (History.step options (History.mk store (fun _ => latest)) op).InStep slot := by
    refine inStep.step permanent op (fun same => absurd same pruned) ?_
    cases op with
    | pop now popId batchSize => exact fun requested => absurd requested sound.uncancelled
    | postFail => exact fun trimmed => absurd trimmed reaches
    | release target => exact reaches
    | _ => trivial
  refine ⟨next.1, ⟨_, next.2⟩, ?_⟩
  refine store.step_preserves options op slot (fun view => ¬view.cancelling) ?_ sound.uncancelled
  intro view event before caused enabled
  refine JobView.uncancelled_apply event ?_ before
  rintro rfl
  cases op <;> simp_all [Op.Causes, JobEvent.OfPop, Reaches]

/-- A failure of the slot is the only thing that reopens it: any other operation it sees leaves a
taken slot taken, and a slot that succeeded stays so. -/
theorem Sound.taken_step (sound : Sound (store.view slot))
    (permanent : options.idempotencyMode = .permanent) (op : Op ι FrameTransaction ο ε)
    (reaches : Reaches options store slot op) (taken : Taken (store.view slot)) :
    (Taken ((store.step options op).view slot) ∧
      (0 < (store.view slot).success → 0 < ((store.step options op).view slot).success)) ∨
    ∃ now job error, op = .complete now job (.error (.fail error)) ∧ job.job.id = slot ∧
      store.holdsLease job ∧ (store.view slot).success = 0 := by
  have unchanged (same : (store.step options op).view slot = store.view slot) :
      Taken ((store.step options op).view slot) ∧
        (0 < (store.view slot).success → 0 < ((store.step options op).view slot).success) := by
    rw [same]
    exact ⟨taken, fun listed => listed⟩
  cases op with
  | push now job =>
    left
    apply unchanged
    by_cases named : slot = job.id
    · subst named
      rw [Store.step, store.push_duplicate now job taken.1]
    · exact store.view_push_of_ne now job named
  | replace target data =>
    left
    by_cases named : slot = target
    · subst named
      rcases store.replace_cases slot data with ⟨-, -, swapped⟩ | ⟨-, same⟩
      · rw [Store.step, swapped]
        exact ⟨taken, fun listed => listed⟩
      · apply unchanged
        rw [Store.step, same]
    · exact unchanged (store.view_replace_of_ne data named)
  | release target =>
    left
    by_cases named : slot = target
    · subst named
      obtain ⟨dead, unlisted⟩ := sound.of_readsFailed (reaches rfl)
      have busy := taken.2
      omega
    · exact unchanged (store.view_release_of_ne named)
  | postSuccess =>
    left
    apply unchanged
    rw [Store.step, store.view_postSuccess, if_neg reaches]
  | postFail =>
    left
    apply unchanged
    rw [Store.step, store.view_postFail, if_neg reaches]
  | expireLease target token =>
    left
    refine store.step_preserves options (.expireLease target token) slot
      (fun view => Taken view ∧ (0 < (store.view slot).success → 0 < view.success)) ?_
      ⟨taken, fun listed => listed⟩
    rintro view event before ⟨-, rfl⟩ -
    exact before
  | pop now popId batchSize =>
    left
    refine (store.step_preserves options (.pop now popId batchSize) slot
      (fun view => (view.Exclusive ∧ ¬view.cancelling) ∧
        Taken view ∧ (0 < (store.view slot).success → 0 < view.success)) ?_
      ⟨⟨sound.exclusive, sound.uncancelled⟩, taken, fun listed => listed⟩).2
    rintro view event ⟨⟨exclusive, uncancelled⟩, busy, kept⟩ caused enabled
    have unswept : ∀ at_, event ≠ .sweep at_ := by
      rintro at_ rfl
      exact uncancelled enabled.1
    obtain ⟨live, success, -, -, -, known, cancelling, -⟩ :=
      exclusive.popEvent_frame options slot caused enabled unswept
    refine ⟨⟨(exclusive.popEvent (fun requested => absurd requested uncancelled) options slot
      caused enabled).1, cancelling ▸ uncancelled⟩, ?_, ?_⟩
    · unfold Taken
      rw [known, live, success]
      exact busy
    · rw [success]
      exact kept
  | complete now job result =>
    by_cases held : store.holdsLease job
    swap
    · left
      apply unchanged
      simp [Store.step, Store.complete, held]
    by_cases named : slot = job.job.id
    swap
    · left
      apply unchanged
      simp only [Store.step, Store.complete, held, ↓reduceIte]
      exact store.view_applyCompletion_of_ne options now job result named
    subst named
    have issued := (store.holdsLease_iff job).mp held
    have present := JobView.live_of_active (sound.exclusive.held _ issued).1
    obtain ⟨latest, retained⟩ := sound.recorded
    have unlisted := (retained.of_live sound.exclusive present).2.1
    have applied : (store.step options (.complete now job result)).view job.job.id =
        (store.view job.job.id).complete options now job result := by
      simp only [Store.step, Store.complete, held, ↓reduceIte]
      exact store.view_applyCompletion_self options now job result
    rw [applied]
    have waits : 0 < (store.view job.job.id).success → False := by omega
    cases result using JobResult.cases with
    | ok output =>
      left
      refine ⟨⟨⟨by simp [permanent], taken.1⟩, .inr ?_⟩, fun listed => (waits listed).elim⟩
      simp [JobView.complete]
    | retry error delay position =>
      left
      refine ⟨⟨taken.1, .inl ?_⟩, fun listed => (waits listed).elim⟩
      simp only [JobView.complete, JobView.live, Option.isSome_some, Bool.toNat_true]
      omega
    | nack error position =>
      left
      refine ⟨⟨taken.1, .inl ?_⟩, fun listed => (waits listed).elim⟩
      simp only [JobView.complete, JobView.live]
      omega
    | fail error => exact .inr ⟨now, job, error, rfl, rfl, held, unlisted⟩
    | defer delay position =>
      left
      refine ⟨⟨taken.1, .inl ?_⟩, fun listed => (waits listed).elim⟩
      simp only [JobView.complete, JobView.live, Option.isSome_some, Bool.toNat_true]
      omega
  | cancel now target => exact reaches.elim
  | reopen now job => exact reaches.elim

end Slot

omit [DecidableEq κ] in
/-- The action that answers a request runs its command. -/
theorem Service.answer_cases {action : Action κ ι ο ε} {status : SlotStatus}
    (answered : service.answer requests action = some (slot, status)) :
    ∃ who now response, action = .request who now ∧ (requests who).id = slot ∧
      (∀ earlier, service.progress who ≠ .answered earlier) ∧
      ((service.progress who).step service.store now (requests who)).2 = .answered response ∧
      response.status = status := by
  cases action with
  | worker op => simp [Service.answer] at answered
  | request who now =>
    simp only [Service.answer] at answered
    split at answered
    · simp at answered
    · rename_i response step unanswered
      obtain ⟨named, worded⟩ := Prod.mk.inj (Option.some.inj answered)
      exact ⟨who, now, response, rfl, named, unanswered, step, worded⟩
    · simp at answered

/-- What a request has just done when it is answered: created its job, swapped its transaction in,
or neither. -/
theorem Progress.status_cases {progress : Progress} {store : Store ι FrameTransaction ο ε}
    {now : Nat} {job : JobOptions ι FrameTransaction} {response : TransactionResponse}
    (unanswered : ∀ earlier, progress ≠ .answered earlier)
    (answered : (progress.step store now job).2 = .answered response) :
    (response.status = .queued ∧ job.id ∉ store.dedupe ∧
      progress.command now job = some (.push now job : Op ι _ ο ε)) ∨
    (response.status ≠ .queued ∧ ∃ existing, progress = .swapping existing ∧
      (response.status = .replaced →
        (store.tryReplacePendingData job.id job.data).1 = .replaced)) ∨
    (response.status ≠ .queued ∧ response.status ≠ .replaced) := by
  cases progress with
  | pushing =>
    by_cases known : job.id ∈ store.dedupe
    · simp [Progress.step, store.push_duplicate now job known] at answered
    · refine .inl ⟨?_, known, rfl⟩
      simp only [Progress.step] at answered
      split at answered
      · simp only [Progress.answered.injEq] at answered
        rw [← answered]
      · simp at answered
  | repushing =>
    by_cases known : job.id ∈ store.dedupe
    · simp only [Progress.step, store.push_duplicate now job known, afterRepush,
        Progress.answered.injEq] at answered
      subst answered
      exact .inr (.inr ⟨nofun, nofun⟩)
    · refine .inl ⟨?_, known, rfl⟩
      simp only [Progress.step, store.push_created now job known, afterRepush,
        Progress.answered.injEq] at answered
      rw [← answered]
  | lookingUp =>
    simp only [Progress.step] at answered
    split at answered
    · simp only [Progress.answered.injEq] at answered
      subst answered
      exact .inr (.inr ⟨nofun, nofun⟩)
    · simp at answered
  | readingMeta data =>
    simp only [Progress.step, afterLookup] at answered
    split at answered
    · simp at answered
    split at answered
    · simp at answered
    · simp only [Progress.answered.injEq] at answered
      subst answered
      exact .inr (.inr ⟨nofun, nofun⟩)
  | readingState =>
    simp only [Progress.step, afterState] at answered
    split at answered
    · simp at answered
    · simp only [Progress.answered.injEq] at answered
      subst answered
      exact .inr (.inr ⟨nofun, nofun⟩)
  | releasing => simp [Progress.step] at answered
  | swapping existing =>
    simp only [Progress.step, Progress.answered.injEq] at answered
    subst answered
    refine .inr (.inl ⟨?_, existing, rfl, ?_⟩) <;>
      cases outcome : (store.tryReplacePendingData job.id job.data).1 <;>
        simp [afterSwap, conflict]
  | answered earlier => exact absurd rfl (unanswered earlier)

/-- A request is answered `queued` when its push creates the job, which takes the slot. -/
theorem Service.queued_cases (options : QueueOptions) {action : Action κ ι ο ε}
    (queued : service.answer requests action = some (slot, .queued)) :
    slot ∉ service.store.dedupe ∧
      Taken ((service.step requests options action).store.view slot) := by
  obtain ⟨who, now, response, rfl, rfl, unanswered, answered, worded⟩ :=
    Service.answer_cases queued
  rcases Progress.status_cases unanswered answered with
    ⟨-, fresh, command⟩ | ⟨other, -⟩ | ⟨other, -⟩
  rotate_left
  · exact absurd worded other
  · exact absurd worded other
  refine ⟨fresh, ?_⟩
  have pushed := service.store.view_push_self now (requests who) fresh
  rw [Service.step_store, Service.command, command, Option.map_some, Option.getD_some, Store.step,
    pushed]
  unfold JobView.push
  dsimp only
  split
  · refine ⟨trivial, .inl ?_⟩
    simp only [JobView.live, Option.isSome_some, Bool.toNat_true]
    omega
  · refine ⟨trivial, .inl ?_⟩
    simp only [JobView.live]
    omega

section Runs

variable (requests : κ → JobOptions ι FrameTransaction) (options : QueueOptions)
  (permanent : options.idempotencyMode = .permanent) (slot : ι)

/-- An action beside which every release finds the slot failed. -/
def Service.Reopens (service : Service κ ι ο ε) (action : Action κ ι ο ε) : Prop :=
  service.WorksBeside options slot action ∧ service.ReleasesFailed requests slot action

instance (service : Service κ ι ο ε) (action : Action κ ι ο ε) :
    Decidable (service.Reopens requests options slot action) :=
  inferInstanceAs (Decidable (_ ∧ _))

include permanent

/-- Such an action keeps the slot sound. -/
theorem Service.sound_step {service : Service κ ι ο ε} {action : Action κ ι ο ε}
    (sound : Sound (service.store.view slot))
    (reopens : service.Reopens requests options slot action) :
    Sound ((service.step requests options action).store.view slot) := by
  rw [Service.step_store]
  cases command : service.command requests action with
  | none => exact sound
  | some op =>
    exact sound.step permanent op (Service.reaches_command reopens.1 reopens.2 command)

/-- Such an action leaves a taken slot taken, and a succeeded one succeeded, unless it commits a
failure of the slot. -/
theorem Service.taken_step {service : Service κ ι ο ε} {action : Action κ ι ο ε}
    (sound : Sound (service.store.view slot)) (taken : Taken (service.store.view slot))
    (reopens : service.Reopens requests options slot action) :
    (Taken ((service.step requests options action).store.view slot) ∧
      (0 < (service.store.view slot).success →
        0 < ((service.step requests options action).store.view slot).success)) ∨
    (∃ error, service.commit action = some (slot, .error (.fail error))) ∧
      (service.store.view slot).success = 0 := by
  rw [Service.step_store]
  cases command : service.command requests action with
  | none => exact .inl ⟨taken, fun listed => listed⟩
  | some op =>
    rcases sound.taken_step permanent op (Service.reaches_command reopens.1 reopens.2 command)
      taken with kept | ⟨now, job, error, rfl, rfl, held, unlisted⟩
    · exact .inl kept
    · refine .inr ⟨⟨error, ?_⟩, unlisted⟩
      cases action with
      | worker own =>
        obtain rfl : own = _ := Option.some.inj command
        simp [Service.commit, held]
      | request who now =>
        simp only [Service.command] at command
        cases progress : service.progress who <;> simp [progress, Progress.command] at command

/-- A committed result of the slot leaves it taken by a succeeded job. -/
theorem Service.succeeded_cases {service : Service κ ι ο ε} {action : Action κ ι ο ε} {output : ο}
    (sound : Sound (service.store.view slot))
    (committed : service.commit action = some (slot, .ok output)) :
    Taken ((service.step requests options action).store.view slot) ∧
      0 < ((service.step requests options action).store.view slot).success := by
  cases action with
  | request who now => simp [Service.commit] at committed
  | worker op =>
    cases op with
    | complete now job result =>
      simp only [Service.commit] at committed
      split at committed
      · rename_i held
        obtain ⟨rfl, rfl⟩ := Prod.mk.inj (Option.some.inj committed)
        have issued := (service.store.holdsLease_iff job).mp held
        have known := sound.exclusive.known
          (JobView.live_of_active (sound.exclusive.held _ issued).1)
        have applied : (service.store.step options (.complete now job (.ok output))).view
            job.job.id = (service.store.view job.job.id).complete options now job
              (.ok output) := by
          simp only [Store.step, Store.complete, held, ↓reduceIte]
          exact service.store.view_applyCompletion_self options now job (.ok output)
        simp only [Service.step]
        rw [applied]
        have listed : 0 < ((service.store.view job.job.id).complete options now job
            (.ok output)).success := Nat.succ_pos _
        exact ⟨⟨⟨by simp [permanent], known⟩, .inr listed⟩, listed⟩
      · simp at committed
    | _ => simp [Service.commit] at committed

/-- The slot is sound in every state of a run whose releases find it failed. -/
theorem Service.sound_run (actions : List (Action κ ι ο ε))
    (reopens : Transition.Along (Service.step requests options)
      (Service.Reopens requests options slot) Service.empty actions) :
    Sound ((Transition.run (Service.step requests options) (Service.empty : Service κ ι ο ε)
      actions).store.view slot) := by
  refine Transition.run_invariant (fun service : Service κ ι ο ε =>
    Sound (service.store.view slot)) ?_ Service.empty actions ?_ reopens
  · intro service action sound admitted
    exact Service.sound_step requests options permanent slot sound admitted
  · exact ⟨Store.exclusive_empty slot, ⟨none, .gone rfl rfl nofun⟩, AList.notMem_empty slot⟩

/-- A taken slot stays taken until a failure of it is committed. -/
theorem Service.taken_run {service : Service κ ι ο ε} (actions : List (Action κ ι ο ε))
    (sound : Sound (service.store.view slot)) (taken : Taken (service.store.view slot))
    (reopens : Transition.Along (Service.step requests options)
      (Service.Reopens requests options slot) service actions) :
    Taken ((Transition.run (Service.step requests options) service actions).store.view slot) ∨
      ∃ before failure rest, actions = before ++ failure :: rest ∧ ∃ error,
        (Transition.run (Service.step requests options) service before).commit failure =
          some (slot, .error (.fail error)) := by
  have kept := Transition.run_invariant_or
    (fun service : Service κ ι ο ε =>
      Sound (service.store.view slot) ∧ Taken (service.store.view slot))
    (fun service action => ∃ error, service.commit action = some (slot, .error (.fail error)))
    (fun service action before admitted => by
      obtain ⟨sound, taken⟩ := before
      rcases Service.taken_step requests options permanent slot sound taken admitted with
        ⟨still, -⟩ | ⟨failed, -⟩
      · exact .inl ⟨Service.sound_step requests options permanent slot sound admitted, still⟩
      · exact .inr failed)
    service actions ⟨sound, taken⟩ reopens
  exact kept.imp_left And.right

/-- A slot that succeeded stays taken. -/
theorem Service.succeeded_run {service : Service κ ι ο ε} (actions : List (Action κ ι ο ε))
    (sound : Sound (service.store.view slot)) (taken : Taken (service.store.view slot))
    (succeeded : 0 < (service.store.view slot).success)
    (reopens : Transition.Along (Service.step requests options)
      (Service.Reopens requests options slot) service actions) :
    Taken ((Transition.run (Service.step requests options) service actions).store.view slot) := by
  refine (Transition.run_invariant
    (fun service : Service κ ι ο ε => Sound (service.store.view slot) ∧
      Taken (service.store.view slot) ∧ 0 < (service.store.view slot).success)
    ?_ service actions ⟨sound, taken, succeeded⟩ reopens).2.1
  rintro service action ⟨sound, taken, succeeded⟩ admitted
  rcases Service.taken_step requests options permanent slot sound taken admitted with
    ⟨still, kept⟩ | ⟨-, unlisted⟩
  · exact ⟨Service.sound_step requests options permanent slot sound admitted, still,
      kept succeeded⟩
  · omega

/-- However the commands of any number of requests and the workers interleave, as long as every
release of the slot finds it failed: the slot is at most once in pending, between two requests that
are answered `queued` for it a failure of it was committed, and once it succeeded no request is
answered `queued` for it. -/
theorem Service.reopened_once (actions : List (Action κ ι ο ε))
    (reopens : Transition.Along (Service.step requests options)
      (Service.Reopens requests options slot) Service.empty actions) :
    let after := Transition.run (Service.step requests options) (Service.empty : Service κ ι ο ε)
    (after actions).store.pending.count slot ≤ 1 ∧
    (∀ first earlier middle later last,
      actions = first ++ earlier :: (middle ++ later :: last) →
      (after first).answer requests earlier = some (slot, .queued) →
      (after (first ++ earlier :: middle)).answer requests later = some (slot, .queued) →
      ∃ before failure rest error, middle = before ++ failure :: rest ∧
        (after (first ++ earlier :: before)).commit failure =
          some (slot, .error (.fail error))) ∧
    (∀ first earlier middle later last output,
      actions = first ++ earlier :: (middle ++ later :: last) →
      (after first).commit earlier = some (slot, .ok output) →
      (after (first ++ earlier :: middle)).answer requests later ≠ some (slot, .queued)) := by
  intro after
  refine ⟨?_, ?_, ?_⟩
  · have bound : ((after actions).store.view slot).live ≤ 1 :=
      (Service.sound_run requests options permanent slot actions reopens).exclusive.one
    change ((after actions).store.view slot).pending ≤ 1
    unfold JobView.live at bound
    omega
  · rintro first earlier middle later last rfl queuedFirst queuedLater
    obtain ⟨alongFirst, along⟩ := (Transition.along_append _ _ _).mp reopens
    obtain ⟨alongMiddle, -⟩ := (Transition.along_append _ _ _).mp along.2
    have sound := Service.sound_step requests options permanent slot
      (Service.sound_run requests options permanent slot first alongFirst) along.1
    have taken := (Service.queued_cases options queuedFirst).2
    rcases Service.taken_run requests options permanent slot middle sound taken alongMiddle with
      still | ⟨before, failure, rest, split, error, committed⟩
    · simp only [after, Transition.run_append, Transition.run_cons] at queuedLater
      exact absurd still.1 (Service.queued_cases options queuedLater).1
    · refine ⟨before, failure, rest, error, split, ?_⟩
      simpa only [after, Transition.run_append, Transition.run_cons] using committed
  · rintro first earlier middle later last output rfl committed queuedLater
    obtain ⟨alongFirst, along⟩ := (Transition.along_append _ _ _).mp reopens
    obtain ⟨alongMiddle, -⟩ := (Transition.along_append _ _ _).mp along.2
    have soundFirst := Service.sound_run requests options permanent slot first alongFirst
    have sound := Service.sound_step requests options permanent slot soundFirst along.1
    have succeeded := Service.succeeded_cases requests options permanent slot soundFirst committed
    have still := Service.succeeded_run requests options permanent slot middle sound succeeded.1
      succeeded.2 alongMiddle
    simp only [after, Transition.run_append, Transition.run_cons] at queuedLater
    exact absurd still.1 (Service.queued_cases options queuedLater).1

end Runs

/-- A transaction with given fees and nothing else of note. -/
def txWithFees (fee : Nat) : FrameTransaction where
  chainId := 1
  nonceKeys := [0]
  nonceSeq := some 0
  sender := "0x1111111111111111111111111111111111111111"
  maxPriorityFeePerGas := some (BitVec.ofNat 128 fee)
  maxFeePerGas := some (BitVec.ofNat 128 fee)
  maxFeePerBlobGas := none
  blobVersionedHashes := []
  recentRootReferences := []
  frames := []
  signatures := []
  payer := some .selfPaid

/-- Requests for slot 7, each with its own fee. -/
def slotSeven (fees : Nat → Nat) (who : Nat) : JobOptions Nat FrameTransaction where
  data := txWithFees (fees who)
  id := 7

/-- The job of slot 7 as the pop of a given clock and pop id hands it out. -/
def borrowedSeven (now attempts : Nat) (popId : String) : BorrowedJob Nat FrameTransaction where
  job :=
    { id := 7, data := txWithFees 10, attempts, createdAt := 0, processedAt := some now,
      finishedAt := none }
  leaseToken := { now, jobId := 7, attempts, popId := some popId }

/-- The first request queues slot 7 and its job fails; two further requests read the failure. -/
def twoReadFailed : List (Action Nat Nat Nat String) :=
  [.request 0 0,
    .worker (.pop 1 "a" 1),
    .worker (.complete 2 (borrowedSeven 1 1 "a") (.error (.fail "down"))),
    .request 1 3, .request 1 3, .request 1 3, .request 1 3,
    .request 2 3, .request 2 3, .request 2 3, .request 2 3]

/-- Both requests release the slot before either pushes: only the first push creates a job. -/
theorem Service.reopened_once_twoReadFailed :
    let actions := twoReadFailed ++ [.request 1 4, .request 2 4, .request 1 5, .request 2 5]
    let service := Transition.run (Service.step (slotSeven fun _ => 10) {}) Service.empty actions
    service.store.pending.count 7 ≤ 1 ∧ service.progress 1 = .answered (afterRepush .created) ∧
      service.progress 2 = .answered (afterRepush .duplicate) := by
  intro actions service
  have once := Service.reopened_once (slotSeven fun _ => 10) {} rfl 7 actions (by decide +kernel)
  exact ⟨once.1, by decide +kernel, by decide +kernel⟩

/-- The second request releases the slot after the first has reopened it: both are answered
`queued` for one failure, and the slot is twice in pending. -/
theorem Service.reopened_twice :
    let actions := twoReadFailed ++ [.request 1 4, .request 1 5, .request 2 6, .request 2 7]
    let service := Transition.run (Service.step (slotSeven fun _ => 10) {}) Service.empty actions
    service.progress 1 = .answered (afterRepush .created) ∧
      service.progress 2 = .answered (afterRepush .created) ∧
      service.store.pending.count 7 = 2 := by
  decide +kernel

end OpenEngine.Api
