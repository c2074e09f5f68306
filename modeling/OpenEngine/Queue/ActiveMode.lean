import OpenEngine.Queue.Pruning
import OpenEngine.Queue.Reported

/-!
# The dedupe set in active mode

In active mode an id may be pushed again as soon as no live job holds it. The completions that end a
job drop its entry from the dedupe set, and so do the prunes; the cancel script does not. So the set
holds the live ids for as long as no waiting job is cancelled and no prune meets a delayed id in its
tail.
-/

namespace OpenEngine.Queue

variable {ι δ ο ε : Type}

namespace JobView

/-- The job with its end stamp left aside, which a cancelled job that runs again still carries. -/
def unstamped (view : JobView ι δ ο ε) : JobView ι δ ο ε :=
  { view with info := { view.info with finishedAt := none } }

/-- A job in the dedupe set exactly while it has its one live entry. -/
structure Tracked (view : JobView ι δ ο ε) : Prop where
  /-- Its live entry and its lease are the only ones. -/
  exclusive : view.unstamped.Exclusive
  /-- The dedupe set knows the live jobs. -/
  deduped : view.deduped ↔ 0 < view.live

variable {view : JobView ι δ ο ε}

/-- An exclusive job is exclusive without its end stamp. -/
theorem Exclusive.unstamp (exclusive : view.Exclusive) : view.unstamped.Exclusive :=
  ⟨⟨exclusive.one, exclusive.known, exclusive.held⟩, exclusive.stored, fun _ => rfl⟩

/-- A job that kept its live entry and its dedupe entry is tracked if it is exclusive. -/
theorem Tracked.move (tracked : view.Tracked) {moved : JobView ι δ ο ε}
    (exclusive : moved.unstamped.Exclusive) (live : moved.live = view.live)
    (deduped : moved.deduped = view.deduped) : moved.Tracked := by
  refine ⟨exclusive, ?_⟩
  rw [live, deduped]
  exact tracked.deduped

/-- A prune that met the job outside the delayed set left it alone or forgot it. -/
theorem Tracked.pruned (tracked : view.Tracked) (undelayed : view.delayed = none)
    {pruned : JobView ι δ ο ε} (exclusive : pruned.unstamped.Exclusive)
    (settled : (view.isLive ∧ pruned.live = view.live ∧ pruned.deduped = view.deduped) ∨
      (view.isLive = false ∧ pruned.live = view.live ∧ ¬pruned.deduped)) : pruned.Tracked := by
  rcases settled with ⟨-, live, deduped⟩ | ⟨unseen, live, released⟩
  · exact tracked.move exclusive live deduped
  · have dead : pruned.live = 0 := live.trans (live_eq_zero unseen undelayed)
    exact ⟨exclusive, iff_of_false released (by omega)⟩

variable [DecidableEq ι] (options : QueueOptions) (id : ι)

/-- What an event makes of a job does not depend on its end stamp, except for the stamp itself. -/
theorem unstamped_apply (view : JobView ι δ ο ε) (event : JobEvent ι δ ο ε) :
    (apply options id view event).unstamped =
      (apply options id view.unstamped event).unstamped := by
  cases event with
  | push now job =>
    simp only [apply, push]
    split <;> rfl
  | sweep now =>
    have same : view.unstamped.success = view.success := rfl
    simp only [apply, same]
    split <;> rfl
  | complete now job result => cases result using JobResult.cases <;> rfl
  | pruneSuccess kept =>
    have same : view.unstamped.isLive = view.isLive := rfl
    simp only [apply, settleSucceeded, same]
    split <;> rfl
  | pruneFailed kept =>
    have same : view.unstamped.isLive = view.isLive := rfl
    simp only [apply, settleFailed, same]
    split <;> rfl
  | _ => rfl

/-- An event that is safe for the job without its end stamp keeps it exclusive. -/
theorem Tracked.exclusive_apply (tracked : view.Tracked) (event : JobEvent ι δ ο ε)
    (enabled : event.Enabled options view.unstamped) (safe : event.Safe view.unstamped) :
    (apply options id view event).unstamped.Exclusive := by
  rw [unstamped_apply]
  exact (tracked.exclusive.apply options id event enabled safe).unstamp

/-- In active mode a committed completion ends the job and drops its dedupe entry, or keeps both. -/
theorem Tracked.complete (tracked : view.Tracked) (active : options.idempotencyMode = .active)
    (now : Nat) (job : BorrowedJob ι δ) (issued : job.leaseToken ∈ view.leases)
    (result : JobResult ο ε) :
    (view.complete options now job result).deduped ↔
      0 < (view.complete options now job result).live := by
  obtain ⟨-, present, -⟩ := tracked.exclusive.endLease issued
  have left := tracked.exclusive.live_complete options now job issued result
  have kept : (view.complete options now job result).live = (!result.ends).toNat := by
    cases result using JobResult.cases <;> exact left
  have known : view.deduped := tracked.deduped.mpr present
  have released : ¬view.StaysDeduped options := fun stays => stays.1 active
  rw [kept]
  cases result using JobResult.cases with
  | ok output => exact iff_of_false released (Nat.lt_irrefl 0)
  | retry error delay position => exact iff_of_true known Nat.one_pos
  | nack error position => exact iff_of_true known Nat.one_pos
  | fail error => exact iff_of_false released (Nat.lt_irrefl 0)
  | defer delay position => exact iff_of_true known Nat.one_pos

end JobView

/-- The states in which an event keeps the dedupe set in step with the live jobs. -/
def JobEvent.KeepsTrack (view : JobView ι δ ο ε) : JobEvent ι δ ο ε → Prop
  | .cancelNow _ | .release => False
  | .pruneSuccess _ | .pruneFailed _ => view.delayed = none
  | _ => True

/-- Such an event keeps the job tracked. -/
theorem JobView.Tracked.apply [DecidableEq ι] {view : JobView ι δ ο ε} (tracked : view.Tracked)
    {options : QueueOptions} (active : options.idempotencyMode = .active) (id : ι)
    (event : JobEvent ι δ ο ε) (enabled : event.Enabled options view)
    (keeps : event.KeepsTrack view) : (JobView.apply options id view event).Tracked := by
  have popped (now : Nat) (popId : String) (unswept : ∀ at_, event ≠ .sweep at_)
      (ofPop : event.OfPop now popId) (able : event.Enabled options view.unstamped)
      (safe : event.Safe view.unstamped) : (JobView.apply options id view event).Tracked := by
    have same := unstamped_apply options id view event
    obtain ⟨live, -, -, -, -, deduped, -⟩ :=
      tracked.exclusive.popEvent_frame options id ofPop able unswept
    exact tracked.move (tracked.exclusive_apply options id event able safe)
      ((congrArg JobView.live same).trans live) ((congrArg JobView.deduped same).trans deduped)
  cases event with
  | push now job =>
    refine ⟨tracked.exclusive_apply options id _ enabled trivial, ?_⟩
    simp only [JobView.apply, JobView.push]
    split
    · refine iff_of_true trivial ?_
      simp only [live, Option.isSome_some, Bool.toNat_true]
      omega
    · refine iff_of_true trivial ?_
      simp only [live]
      omega
  | replace data =>
    have exclusive := tracked.exclusive
    exact tracked.move ⟨⟨exclusive.one, exclusive.known, exclusive.held⟩, fun _ => rfl,
      fun _ => rfl⟩ rfl rfl
  | requeue => exact popped 0 "" (by simp) trivial enabled trivial
  | sweep now =>
    have exclusive := tracked.exclusive
    simp only [JobView.apply]
    split
    · exact tracked.move ⟨⟨exclusive.one, exclusive.known, exclusive.held⟩, exclusive.stored,
        fun _ => rfl⟩ rfl rfl
    · exact tracked.move ⟨⟨exclusive.one, exclusive.known, exclusive.held⟩, exclusive.stored,
        fun _ => rfl⟩ rfl rfl
  | promote => exact popped 0 "" (by simp) trivial enabled trivial
  | lease now popId => exact popped now popId (by simp) ⟨rfl, rfl⟩ enabled trivial
  | drop => exact popped 0 "" (by simp) trivial enabled trivial
  | complete now job result =>
    exact ⟨tracked.exclusive_apply options id _ enabled trivial,
      tracked.complete options active now job enabled result⟩
  | expire token =>
    exact tracked.move (tracked.exclusive_apply options id (.expire token) trivial trivial) rfl rfl
  | pruneSuccess kept =>
    refine tracked.pruned keeps (tracked.exclusive_apply options id _ enabled keeps) ?_
    simp only [JobView.apply, settleSucceeded]
    split
    · next seen => exact .inl ⟨seen, rfl, rfl⟩
    · next unseen => exact .inr ⟨by simpa using unseen, rfl, not_false⟩
  | pruneFailed kept =>
    refine tracked.pruned keeps (tracked.exclusive_apply options id _ enabled keeps) ?_
    simp only [JobView.apply, settleFailed]
    split
    · next seen => exact .inl ⟨seen, rfl, rfl⟩
    · next unseen => exact .inr ⟨by simpa using unseen, rfl, not_false⟩
  | cancelNow now => exact keeps.elim
  | cancelLater =>
    exact tracked.move (tracked.exclusive_apply options id .cancelLater enabled trivial) rfl rfl
  | release => exact keeps.elim

variable [LinearOrder ι]

/-- Every operation but the two that remove a dedupe entry on request. -/
def Op.isQueued : Op ι δ ο ε → Bool
  | .release _ | .reopen _ _ => false
  | _ => true

/-- The cancel script finds the job waiting. -/
def Store.CancelsWaiting (store : Store ι δ ο ε) : Op ι δ ο ε → Prop
  | .cancel _ id => store.Waits id
  | _ => False

instance (store : Store ι δ ο ε) (id : ι) : Decidable (store.Waits id) :=
  inferInstanceAs (Decidable (_ ∨ _))

instance (store : Store ι δ ο ε) : ∀ op : Op ι δ ο ε, Decidable (store.CancelsWaiting op)
  | .cancel _ id => inferInstanceAs (Decidable (store.Waits id))
  | .push _ _ | .replace _ _ | .pop _ _ _ | .complete _ _ _ | .expireLease _ _ | .postSuccess
  | .postFail | .release _ | .reopen _ _ => .isFalse not_false

/-- No waiting job is cancelled, and a prune finds no delayed id in the tail it trims. -/
def Store.KeepsTrack (options : QueueOptions) (store : Store ι δ ο ε) (op : Op ι δ ο ε) : Prop :=
  ¬store.CancelsWaiting op ∧ store.SparesDelayed options op

instance (options : QueueOptions) (store : Store ι δ ο ε) (op : Op ι δ ο ε) :
    Decidable (store.KeepsTrack options op) :=
  inferInstanceAs (Decidable (_ ∧ _))

/-- An id is in the dedupe set exactly while a live job holds it, and can be pushed exactly while
none does. -/
def Store.DedupesLive (store : Store ι δ ο ε) : Prop :=
  ∀ id, (id ∈ store.dedupe ↔ store.Live id) ∧ ∀ now (job : JobOptions ι δ), job.id = id →
    ((store.pushWithOutcome now job).1 = .created ↔ ¬store.Live id)

/-- Every job of the store is tracked. -/
def Store.Tracked (store : Store ι δ ο ε) : Prop := ∀ id, (store.view id).Tracked

/-- A live id is one whose view has a live entry. -/
theorem Store.live_iff (store : Store ι δ ο ε) (id : ι) :
    0 < (store.view id).live ↔ store.Live id := by
  have counted (present : Bool) : 0 < present.toNat ↔ present = true := by
    cases present <;> simp
  have pending : 0 < (store.view id).pending ↔ id ∈ store.pending := List.count_pos_iff
  have delayed : (store.view id).delayed.isSome ↔ id ∈ store.delayed := AList.lookup_isSome
  have active : (store.view id).active.isSome ↔ id ∈ store.active := AList.lookup_isSome
  unfold JobView.live Store.Live
  rw [Nat.add_pos_iff_pos_or_pos, Nat.add_pos_iff_pos_or_pos, counted, counted, pending, delayed,
    active]
  tauto

/-- In a tracked store the dedupe set knows the live ids. -/
theorem Store.Tracked.dedupesLive {store : Store ι δ ο ε} (tracked : store.Tracked) :
    store.DedupesLive := by
  intro id
  have same : id ∈ store.dedupe ↔ store.Live id := (tracked id).deduped.trans (store.live_iff id)
  refine ⟨same, ?_⟩
  rintro now job rfl
  rw [← same]
  by_cases known : job.id ∈ store.dedupe
  · rw [store.push_duplicate now job known]
    exact iff_of_false (by simp) (not_not_intro known)
  · exact iff_of_true (store.push_created now job known) known

/-- No job of the empty store is live or in the dedupe set. -/
theorem Store.tracked_empty : (Store.empty : Store ι δ ο ε).Tracked := by
  intro id
  refine ⟨(Store.exclusive_empty id).unstamp, iff_of_false ?_ (Nat.lt_irrefl 0)⟩
  exact Finset.notMem_empty id

section Runs

variable {options : QueueOptions} (active : options.idempotencyMode = .active)
  {store : Store ι δ ο ε}

include active

/-- An operation that keeps track keeps every job tracked. -/
theorem Store.Tracked.step (tracked : store.Tracked) (op : Op ι δ ο ε) (queued : op.isQueued)
    (keeps : store.KeepsTrack options op) : (store.step options op).Tracked := by
  intro id
  cases op with
  | postSuccess =>
    rw [Store.step, store.view_postSuccess options id]
    split
    · rename_i trimmed
      exact (tracked id).apply active id _ (store.enabled_pruneSuccess options trimmed)
        (AList.lookup_eq_none.mpr (keeps.2 id trimmed))
    · exact tracked id
  | postFail =>
    rw [Store.step, store.view_postFail options id]
    split
    · rename_i trimmed
      exact (tracked id).apply active id _ (store.enabled_pruneFailed options trimmed)
        (AList.lookup_eq_none.mpr (keeps.2 id trimmed))
    · exact tracked id
  | cancel now target =>
    by_cases named : id = target
    · subst named
      obtain ⟨events, later, enabled, followed⟩ := store.view_cancel_rest options now keeps.1
      rw [Store.step, followed]
      refine Transition.run_invariant JobView.Tracked ?_ _ events (tracked id)
        (enabled.and (Transition.along_of_forall _ events later))
      rintro view event before ⟨able, rfl⟩
      exact before.apply active id _ able trivial
    · rw [Store.step, store.view_cancel_of_ne now named]
      exact tracked id
  | release target => contradiction
  | reopen now job => contradiction
  | _ =>
    refine store.step_preserves options _ id JobView.Tracked ?_ (tracked id)
    intro view event before caused enabled
    refine before.apply active id event enabled ?_
    cases event <;> simp_all [Op.Causes, JobEvent.OfPop, JobEvent.KeepsTrack]

omit active in
/-- The prune scripts take no delayed job for a live one. -/
theorem Store.Tracked.unseen (tracked : store.Tracked) {id : ι} (delayed : id ∈ store.delayed) :
    (store.view id).isLive = false := by
  by_contra seen
  have due : (store.view id).delayed.isSome := AList.lookup_isSome.mpr delayed
  have none : (store.view id).delayed = none :=
    (tracked id).exclusive.undelayed_of_isLive (Bool.not_eq_false _ ▸ seen)
  rw [none] at due
  contradiction

omit active in
/-- An operation after which the dedupe set knows the live ids kept track. -/
theorem Store.Tracked.keepsTrack (tracked : store.Tracked) (op : Op ι δ ο ε)
    (after : (store.step options op).DedupesLive) : store.KeepsTrack options op := by
  have told (id : ι) : ((store.step options op).view id).deduped ↔
      0 < ((store.step options op).view id).live :=
    (after id).1.trans ((store.step options op).live_iff id).symm
  cases op with
  | cancel now target =>
    refine ⟨fun waits => ?_, trivial⟩
    obtain ⟨enabled, followed⟩ := store.view_cancel_waiting options now waits
    have dead := ((tracked target).exclusive.cancelNow options target enabled now).1
    have gone : ((store.step options (.cancel now target)).view target).live = 0 :=
      (congrArg JobView.live followed).trans dead
    have known : ((store.step options (.cancel now target)).view target).deduped := by
      rw [Store.step, followed]
      refine (tracked target).deduped.mpr ((store.live_iff target).mpr ?_)
      rcases waits with pending | delayed
      · exact .inl pending
      · exact .inr (.inr delayed)
    have present := (told target).mp known
    omega
  | postSuccess =>
    refine ⟨not_false, fun id trimmed delayed => ?_⟩
    have unseen := tracked.unseen delayed
    have present : 0 < (store.view id).live := (store.live_iff id).mpr (.inr (.inr delayed))
    have followed := store.view_postSuccess options id
    rw [if_pos trimmed, JobView.apply, JobView.settleSucceeded, if_neg (by simp [unseen])]
      at followed
    have released := told id
    rw [Store.step, followed] at released
    exact released.mpr present
  | postFail =>
    refine ⟨not_false, fun id trimmed delayed => ?_⟩
    have unseen := tracked.unseen delayed
    have present : 0 < (store.view id).live := (store.live_iff id).mpr (.inr (.inr delayed))
    have followed := store.view_postFail options id
    rw [if_pos trimmed, JobView.apply, JobView.settleFailed, if_neg (by simp [unseen])] at followed
    have released := told id
    rw [Store.step, followed] at released
    exact released.mpr present
  | _ => exact ⟨not_false, trivial⟩

/-- In every run in active mode the dedupe set knows the live ids after every operation, exactly if
no waiting job is cancelled and no prune finds a delayed id in the tail it trims. -/
theorem Store.active_dedupe_iff (ops : List (Op ι δ ο ε)) (queued : ∀ op ∈ ops, op.isQueued) :
    Transition.Along (Store.step options) (fun store op => (store.step options op).DedupesLive)
        Store.empty ops ↔
      Transition.Along (Store.step options) (Store.KeepsTrack options) Store.empty ops := by
  refine Transition.along_iff_of_invariant Store.Tracked (fun op => op.isQueued) ?_ ?_ _ ops
    Store.tracked_empty queued
  · intro store op tracked allowed keeps
    exact tracked.step active op allowed keeps
  · intro store op tracked allowed
    exact ⟨tracked.keepsTrack op, fun keeps => (tracked.step active op allowed keeps).dedupesLive⟩

end Runs

/-- Job 7 is pushed, its lease expires, it is requeued, deferred, run again and finished, then
pushed again and cancelled while it runs. -/
def pushedAgain : List (Op Nat String Nat String) :=
  expireAndDefer ++
    [.pop 50 "c" 1,
      .complete 51 (borrowedAt 7 50 3 "c") (.ok 5),
      .push 52 { data := "tx", id := 7 },
      .pop 53 "d" 1,
      .cancel 54 7,
      .expireLease 7 (borrowedAt 7 53 1 "d").leaseToken,
      .pop 90 "e" 1,
      .postFail]

/-- Through all of this the dedupe set knows the live ids. -/
theorem Store.active_dedupe_pushedAgain :
    let options : QueueOptions := { idempotencyMode := .active }
    Transition.Along (Store.step options) (fun store op => (store.step options op).DedupesLive)
      Store.empty pushedAgain := by
  intro options
  have keeps : Transition.Along (Store.step options) (Store.KeepsTrack options) Store.empty
      pushedAgain := by decide +kernel
  exact (Store.active_dedupe_iff rfl pushedAgain (by decide)).mpr keeps

/-- A cancelled job that waited keeps its dedupe entry, and its id cannot be pushed again. -/
theorem Store.cancelled_stays_deduped :
    let options : QueueOptions := { idempotencyMode := .active }
    let store : Store Nat String Nat String := Transition.run (Store.step options) Store.empty
      [.push 0 { data := "tx", id := 7 }, .cancel 1 7]
    7 ∈ store.dedupe ∧ ¬store.Live 7 ∧
      (store.pushWithOutcome 2 { data := "tx", id := 7 }).1 = .duplicate ∧
      ¬store.DedupesLive := by
  intro options store
  have known : 7 ∈ store.dedupe := by decide +kernel
  have dead : ¬store.Live 7 := by
    unfold Store.Live
    decide +kernel
  refine ⟨known, dead, ?_, fun knows => dead ((knows 7).1.mp known)⟩
  rw [store.push_duplicate 2 { data := "tx", id := 7 } known]

end OpenEngine.Queue
